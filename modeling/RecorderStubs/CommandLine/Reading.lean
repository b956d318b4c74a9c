import RecorderStubs.Text.Digit
import RecorderStubs.Text.Quoted

/-! Reads a list of arguments by a table of options. Long options may be shortened as far as they
stay unique and may carry a value after an equals sign; short flags may be written together, also
after an equals sign; two dashes end the options, and are nothing where a value is expected. What
an option table does not know is left over, for whoever called. -/
namespace RecorderStubs.CommandLine

structure OptionSpec where
  names : List String
  takesValue : Bool
deriving DecidableEq, Repr

def OptionSpec.label (o : OptionSpec) : String := "/".intercalate o.names

/-- A table of options and one argument that is no option: one word, or a word and all that
follows it. -/
structure Table where
  program : String
  options : List OptionSpec
  takesRest : Bool
deriving DecidableEq, Repr

/-- An option and the name it was found by. A text may be attached to it, behind an equals sign or
as more letters of a short option. -/
structure Found where
  option : OptionSpec
  name : Text
  attached : Option Text
deriving DecidableEq, Repr

/-- A dash and a letter. -/
def Found.isShort (f : Found) : Bool := f.name.take 2 != ['-', '-']

inductive Token where
  | word (s : String)
  | dashes
  | option (s : String) (found : Option Found)
deriving DecidableEq, Repr

def Token.text : Token → String
  | .word s => s
  | .dashes => "--"
  | .option s _ => s

namespace Table

def names (t : Table) : List (Text × OptionSpec) :=
  t.options.flatMap (fun o => o.names.map (fun n => (n.toList, o)))

def find? (t : Table) (name : Text) : Option OptionSpec := t.names.lookup name

def candidates (t : Table) (arg : Text) : List Found :=
  match arg with
  | '-' :: '-' :: _ =>
    let name := arg.takeWhile (· != '=')
    let attached :=
      match arg.dropWhile (· != '=') with
      | [] => none
      | _ :: text => some text
    (t.names.filter (fun entry => name.isPrefixOf entry.1)).map
      (fun entry => ⟨entry.2, entry.1, attached⟩)
  | _ =>
    t.names.filterMap fun entry =>
      if entry.1 = arg.take 2 then some ⟨entry.2, entry.1, some (arg.drop 2)⟩
      else if arg.isPrefixOf entry.1 then some ⟨entry.2, entry.1, none⟩
      else none

end Table

def dropFinalNewline (t : Text) : Text :=
  match t.getLast? with
  | some '\n' => t.dropLast
  | _ => t

def isDecimal (c : Char) : Bool := (digitValue? c).isSome

/-- A minus and digits, with at most one point among or before them. -/
def isNegativeNumber (arg : Text) : Bool :=
  match dropFinalNewline arg with
  | '-' :: t =>
    match t.dropWhile isDecimal with
    | [] => !t.isEmpty
    | '.' :: fraction => !fraction.isEmpty && fraction.all isDecimal
    | _ => false
  | _ => false

def Table.classify (t : Table) (arg : String) : Except String Token :=
  let chars := arg.toList
  if chars.head? ≠ some '-' then .ok (.word arg)
  else
    match t.find? chars with
    | some o => .ok (.option arg (some ⟨o, chars, none⟩))
    | none =>
      if chars.length = 1 then .ok (.word arg)
      else
        let name := chars.takeWhile (· != '=')
        match chars.dropWhile (· != '='), t.find? name with
        | _ :: text, some o => .ok (.option arg (some ⟨o, name, some text⟩))
        | _, _ =>
          match t.candidates chars with
          | [] =>
            if isNegativeNumber chars || chars.contains ' ' then .ok (.word arg)
            else .ok (.option arg none)
          | [f] => .ok (.option arg (some f))
          | fs =>
            let matched := ", ".intercalate (fs.map (fun f => String.ofList f.name))
            .error ("ambiguous option: " ++ arg ++ " could match " ++ matched)

def Table.tokens (t : Table) : List String → Except String (List Token)
  | [] => .ok []
  | arg :: args =>
    if arg = "--" then .ok (.dashes :: args.map .word)
    else do
      let token ← t.classify arg
      return token :: (← t.tokens args)

/-- What was given, in order. An option whose value is two dashes is given without any. -/
inductive Given where
  | flag (option : OptionSpec)
  | value (option : OptionSpec) (text : Option String)
  | words (words : List String)
deriving DecidableEq, Repr

def Given.ofText (o : OptionSpec) (text : String) : Given :=
  .value o (if text = "--" then none else some text)

structure Reading where
  given : List Given := []
  extras : List String := []
  fault : Option String := none
deriving DecidableEq, Repr

def Reading.before (given : List Given) (extras : List String) (r : Reading) : Reading :=
  { r with given := given ++ r.given, extras := extras ++ r.extras }

def argumentFault (o : OptionSpec) (message : String) : String :=
  "argument " ++ o.label ++ ": " ++ message

/-- What an option with an attached text gives: flags and values, and an option to which nothing is
attached any more. -/
structure Unpacked where
  given : List Given := []
  pending : Option OptionSpec := none
deriving DecidableEq, Repr

def ignoredFault (o : OptionSpec) (text : Text) : String :=
  argumentFault o ("ignored explicit argument " ++ quoted text)

/-- Letters attached to a short option, each a flag of its own up to one that takes a value. -/
def Table.unpackLetters (t : Table) (o : OptionSpec) : Text → Except String Unpacked
  | [] => .ok { pending := some o }
  | c :: text =>
    if o.takesValue then .ok { given := [.ofText o (String.ofList (c :: text))] }
    else
      match t.find? ['-', c] with
      | none => .error (ignoredFault o (c :: text))
      | some next =>
        (t.unpackLetters next text).map (fun u => { u with given := .flag o :: u.given })

def Table.unpack (t : Table) (f : Found) : Except String Unpacked :=
  match f.attached with
  | none => .ok { pending := some f.option }
  | some text =>
    if f.option.takesValue then .ok { given := [.ofText f.option (String.ofList text)] }
    else if f.isShort && !text.isEmpty then t.unpackLetters f.option text
    else .error (ignoredFault f.option text)

/-- How many tokens the argument that is no option takes, and its words. -/
def Table.words? (t : Table) (tokens : List Token) : Option (List String × List Token) :=
  if t.takesRest then
    match tokens with
    | .word _ :: _ | .dashes :: .word _ :: _ => some (tokens.map Token.text, [])
    | _ => none
  else
    match tokens with
    | .word s :: .dashes :: rest => some ([s], rest)
    | .dashes :: .word s :: rest => some ([s], rest)
    | .word s :: rest => some ([s], rest)
    | _ => none

def isOption : Token → Bool
  | .option _ _ => true
  | _ => false

/-- Reads tokens; `wanted` while the argument that is no option has not been read. Every round
takes at least one token. -/
def Table.readTokens (t : Table) : (limit : Nat) → (wanted : Bool) → List Token → Reading
  | 0, _, _ => {}
  | _, _, [] => {}
  | limit + 1, wanted, .option s found :: rest =>
    match found with
    | none => (t.readTokens limit wanted rest).before [] [s]
    | some f =>
      match t.unpack f with
      | .error message => { fault := some message }
      | .ok u =>
        match u.pending with
        | none => (t.readTokens limit wanted rest).before u.given []
        | some o =>
          if !o.takesValue then
            (t.readTokens limit wanted rest).before (u.given ++ [.flag o]) []
          else
            match rest with
            | .word value :: rest =>
              (t.readTokens limit wanted rest).before (u.given ++ [.ofText o value]) []
            | _ => { fault := some (argumentFault o "expected one argument") }
  | limit + 1, wanted, tokens =>
    match if wanted then t.words? tokens else none with
    | some (words, rest) => (t.readTokens limit false rest).before [.words words] []
    | none =>
      (t.readTokens limit wanted (tokens.dropWhile (!isOption ·))).before []
        ((tokens.takeWhile (!isOption ·)).map Token.text)

def Table.read (t : Table) (args : List String) : Reading :=
  match t.tokens args with
  | .error message => { fault := some message }
  | .ok tokens => t.readTokens (tokens.length + 1) true tokens

end RecorderStubs.CommandLine
