import RecorderStubs.Text.Basic
import RecorderStubs.Text.Blank
import RecorderStubs.Text.Word

/-! The five token classes a declaration is made of. Every recogniser works at the head of a text
and gives what is left of it. A type is an optional `&mut` with blanks, then a run of type
characters; when no run follows the blanks, `&mut` is itself the run. -/
namespace RecorderStubs

def startsWord : Text → Bool
  | [] => false
  | c :: _ => isWord c

def skipBlanks (t : Text) : Text := t.dropWhile isBlank

def gap? : Text → Option Text
  | [] => none
  | c :: t => if isBlank c then some (skipBlanks t) else none

def run? (p : Char → Bool) (t : Text) : Option (Text × Text) :=
  match t.takeWhile p with
  | [] => none
  | c :: cs => some (c :: cs, t.dropWhile p)

def name? (t : Text) : Option (Text × Text) := run? isWord t

def isTypeChar (c : Char) : Bool := isWord c || ['&', '<', '>', '[', ']'].contains c

def mutableMark : Text := ['&', 'm', 'u', 't']

def mutableType? (t : Text) : Option (Text × Text) := do
  let (blanks, t) ← run? isBlank (← literal? mutableMark t)
  let (run, t) ← run? isTypeChar t
  return (mutableMark ++ blanks ++ run, t)

def type? (t : Text) : Option (Text × Text) := (mutableType? t).or (run? isTypeChar t)

/-- The rest after the closing quote. A backslash takes the next character with it, which must not
be a newline. -/
def stringRest? : Text → Option Text
  | [] => none
  | '"' :: t => some t
  | '\\' :: c :: t => if c = '\n' then none else stringRest? t
  | c :: t => if c = '\\' then none else stringRest? t

def string? : Text → Option Text
  | '"' :: t => stringRest? t
  | _ => none

inductive Lexeme where
  | blanks
  | gap
  | name
  | type
  | string
deriving DecidableEq, Repr

namespace Lexeme

def all : List Lexeme := [name, string, type, blanks, gap]

def key : Lexeme → String
  | blanks => "ws*"
  | gap => "ws+"
  | name => "ident"
  | type => "type"
  | string => "string"

def expression : Lexeme → String
  | blanks => "\\s*"
  | gap => "\\s+"
  | name => "\\w+"
  | type => "(?:&mut\\s+)?[\\w&<>\\[\\]]+"
  | string => "\"(?:[^\"\\\\]|\\\\.)*\""

def source (l : Lexeme) : String := "(?:" ++ l.expression ++ ")"

def ofKey? (k : String) : Option Lexeme := all.find? (fun l => l.key == k)

def unknownMessage (k : String) : String :=
  let known := ", ".intercalate (all.map (fun l => "'" ++ l.key ++ "'"))
  "Unknown grammar fragment: '" ++ k ++ "'. Known fragments: [" ++ known ++ "]"

/-- A part of a pattern: a key in angle brackets stands for the class, all else for itself. -/
def expand (part : String) : String :=
  match all.find? (fun l => "<" ++ l.key ++ ">" == part) with
  | some l => l.source
  | none => part

def rest? : Lexeme → Text → Option Text
  | blanks, t => some (skipBlanks t)
  | gap, t => gap? t
  | name, t => (name? t).map Prod.snd
  | type, t => (type? t).map Prod.snd
  | string, t => string? t

/-- The end of the lexeme that starts at an offset, clamped into the text. -/
def endAt? (l : Lexeme) (t : Text) (offset : Int) : Option Nat :=
  (l.rest? (textFrom t offset)).map (offsetIn t)

def spansAll (l : Lexeme) (t : Text) : Bool := l.rest? t == some []

end Lexeme

end RecorderStubs
