import RecorderStubs.Signature.Lexeme
import RecorderStubs.Source.Inert
import RecorderStubs.Text.Digit
import RecorderStubs.Toml.Value

/-! Reads a TOML document. Every recogniser works at the head of a text and gives the rest; a
malformed document has no reading at all, and neither has one with a decimal integer of too many
digits or with values that are nested too deeply. The first fault counts. Where a loop is not along
the text, a limit stands for the characters left: every round takes at least one. -/
namespace RecorderStubs.Toml

def isInlineBlank (c : Char) : Bool := c == ' ' || c == '\t'
def isArrayBlank (c : Char) : Bool := isInlineBlank c || c == '\n'
def isDigit (c : Char) : Bool := '0' ≤ c && c ≤ '9'
def isLetter (c : Char) : Bool := ('a' ≤ c && c ≤ 'z') || ('A' ≤ c && c ≤ 'Z')
def isKeyChar (c : Char) : Bool := isLetter c || isDigit c || c == '-' || c == '_'

def isControl (c : Char) : Bool := (c.toNat < 32 && c != '\t') || c.toNat == 127

def skipInline (t : Text) : Text := t.dropWhile isInlineBlank

def dropReturns : Text → Text
  | [] => []
  | '\r' :: '\n' :: t => '\n' :: dropReturns t
  | c :: t => c :: dropReturns t

def comment? : Text → Option Text
  | '#' :: t =>
    if (t.takeWhile (· != '\n')).any isControl then none else some (t.dropWhile (· != '\n'))
  | t => some t

def arrayGap? : (limit : Nat) → Text → Option Text
  | 0, t => some t
  | limit + 1, t => do
    let rest ← comment? (t.dropWhile isArrayBlank)
    if rest.length = t.length then some rest else arrayGap? limit rest

def hexValue (c : Char) : Nat :=
  if isDigit c then c.toNat - '0'.toNat
  else if 'a' ≤ c then c.toNat - 'a'.toNat + 10
  else c.toNat - 'A'.toNat + 10

/-- The character of so many hexadecimal digits, which must not be a surrogate. -/
def hexChar? (digits : Nat) (t : Text) : Option (Text × Text) :=
  let spelled := t.take digits
  let n := spelled.foldl (fun n c => n * 16 + hexValue c) 0
  if spelled.length = digits && spelled.all isHexDigit && n.isValidChar then
    some ([Char.ofNat n], t.drop digits)
  else none

def escape? : Text → Option (Text × Text)
  | 'b' :: t => some (['\x08'], t)
  | 't' :: t => some (['\t'], t)
  | 'n' :: t => some (['\n'], t)
  | 'f' :: t => some (['\x0c'], t)
  | 'r' :: t => some (['\r'], t)
  | '"' :: t => some (['"'], t)
  | '\\' :: t => some (['\\'], t)
  | 'u' :: t => hexChar? 4 t
  | 'U' :: t => hexChar? 8 t
  | _ => none

/-- In a long string, a backslash at the end of a line takes the blanks after it away. -/
def longEscape? : Text → Option (Text × Text)
  | '\n' :: t => some ([], t.dropWhile isArrayBlank)
  | c :: t =>
    if isInlineBlank c then
      match skipInline t with
      | [] => some ([], [])
      | '\n' :: t => some ([], t.dropWhile isArrayBlank)
      | _ => none
    else escape? (c :: t)
  | [] => none

def basicString? : (limit : Nat) → Text → Option (Text × Text)
  | 0, _ => none
  | _, [] => none
  | _, '"' :: t => some ([], t)
  | limit + 1, '\\' :: t => do
    let (c, t) ← escape? t
    let (cs, t) ← basicString? limit t
    return (c ++ cs, t)
  | limit + 1, c :: t =>
    if isControl c then none
    else (basicString? limit t).map (fun (cs, t) => (c :: cs, t))

def longBasicString? : (limit : Nat) → Text → Option (Text × Text)
  | 0, _ => none
  | _, [] => none
  | _, '"' :: '"' :: '"' :: t => some ([], t)
  | limit + 1, '\\' :: t => do
    let (c, t) ← longEscape? t
    let (cs, t) ← longBasicString? limit t
    return (c ++ cs, t)
  | limit + 1, c :: t =>
    if isControl c && c != '\n' then none
    else (longBasicString? limit t).map (fun (cs, t) => (c :: cs, t))

def literalString? (t : Text) : Option (Text × Text) :=
  match t.dropWhile (· != '\'') with
  | [] => none
  | _ :: rest =>
    let body := t.takeWhile (· != '\'')
    if body.any isControl then none else some (body, rest)

def longLiteralString? : Text → Option (Text × Text)
  | [] => none
  | '\'' :: '\'' :: '\'' :: t => some ([], t)
  | c :: t =>
    if isControl c && c != '\n' then none
    else (longLiteralString? t).map (fun (cs, t) => (c :: cs, t))

/-- Up to two more quotes right after a long string belong to it. -/
def trailingQuotes (quote : Char) (body t : Text) : Text × Text :=
  match t with
  | a :: b :: rest =>
    if a = quote then if b = quote then (body ++ [a, b], rest) else (body ++ [a], b :: rest)
    else (body, t)
  | [a] => if a = quote then (body ++ [a], []) else (body, t)
  | [] => (body, t)

def skipNewline : Text → Text
  | '\n' :: t => t
  | t => t

def stringValue? : Text → Option (Text × Text)
  | '"' :: '"' :: '"' :: t =>
    (longBasicString? (t.length + 1) (skipNewline t)).map
      (fun (body, rest) => trailingQuotes '"' body rest)
  | '"' :: t => basicString? (t.length + 1) t
  | '\'' :: '\'' :: '\'' :: t =>
    (longLiteralString? (skipNewline t)).map (fun (body, rest) => trailingQuotes '\'' body rest)
  | '\'' :: t => literalString? t
  | _ => none

def keyPart? : Text → Option (Text × Text)
  | '\'' :: t => literalString? t
  | '"' :: t => basicString? (t.length + 1) t
  | t => run? isKeyChar t

def key? : (limit : Nat) → Text → Option (Key × Text)
  | 0, _ => none
  | limit + 1, t => do
    let (part, t) ← keyPart? t
    match skipInline t with
    | '.' :: t =>
      let (parts, t) ← key? limit (skipInline t)
      return (part :: parts, t)
    | t => return ([part], t)

def digitsRest (p : Char → Bool) : Text → Text
  | '_' :: c :: t => if p c then digitsRest p t else '_' :: c :: t
  | c :: t => if p c then digitsRest p t else c :: t
  | [] => []

def digits? (p : Char → Bool) : Text → Option Text
  | c :: t => if p c then some (digitsRest p t) else none
  | [] => none

def basedInteger? : Text → Option Text
  | '0' :: 'x' :: t => digits? isHexDigit t
  | '0' :: 'b' :: t => digits? (fun c => c == '0' || c == '1') t
  | '0' :: 'o' :: t => digits? (fun c => '0' ≤ c && c ≤ '7') t
  | _ => none

def skipSign : Text → Text
  | '+' :: t => t
  | '-' :: t => t
  | t => t

def wholePart? (t : Text) : Option Text :=
  match skipSign t with
  | '0' :: t => some t
  | t => digits? isDigit t

def fraction? : Text → Option Text
  | '.' :: t => digits? isDigit t
  | _ => none

def exponent? : Text → Option Text
  | c :: t => if c = 'e' || c = 'E' then digits? isDigit (skipSign t) else none
  | [] => none

def number? (t : Text) : Option (Value × Text) :=
  match basedInteger? t with
  | some rest => some (.integer (t.take (offsetIn t rest)), rest)
  | none => do
    let whole ← wholePart? t
    let rest := (fraction? whole).getD whole
    let rest := (exponent? rest).getD rest
    let spelling := t.take (offsetIn t rest)
    if rest.length = whole.length then return (.integer spelling, rest)
    else return (.float spelling, rest)

def specialFloat? (t : Text) : Option (Value × Text) :=
  let unsigned := skipSign t
  match (literal? ['i', 'n', 'f'] unsigned).or (literal? ['n', 'a', 'n'] unsigned) with
  | some rest => some (.float (t.take (offsetIn t rest)), rest)
  | none => none

def twoDigits? (low high : Nat) : Text → Option (Nat × Text)
  | a :: b :: t =>
    let n := hexValue a * 10 + hexValue b
    if isDigit a && isDigit b && low ≤ n && n ≤ high then some (n, t) else none
  | _ => none

def clock? (t : Text) : Option Text := do
  let (_, t) ← twoDigits? 0 23 t
  let (_, t) ← twoDigits? 0 59 (← literal? [':'] t)
  let (_, t) ← twoDigits? 0 59 (← literal? [':'] t)
  return (((literal? ['.'] t).bind (run? isDigit)).map Prod.snd).getD t

def zone? : Text → Option Text
  | c :: t =>
    if c = 'Z' || c = 'z' then some t
    else if c = '+' || c = '-' then do
      let (_, t) ← twoDigits? 0 23 t
      let (_, t) ← twoDigits? 0 59 (← literal? [':'] t)
      return t
    else none
  | [] => none

def isLeapYear (year : Nat) : Bool := year % 4 = 0 && (year % 100 ≠ 0 || year % 400 = 0)

def monthLength (year month : Nat) : Nat :=
  if month = 2 then if isLeapYear year then 29 else 28
  else if [4, 6, 9, 11].contains month then 30
  else 31

/-- A date, possibly of the calendar's wrong length, and the rest. -/
def date? (t : Text) : Option ((Nat × Nat × Nat) × Text) := do
  let (a, t) ← twoDigits? 0 99 t
  let (b, t) ← twoDigits? 0 99 t
  let (month, t) ← twoDigits? 1 12 (← literal? ['-'] t)
  let (day, t) ← twoDigits? 1 31 (← literal? ['-'] t)
  return ((a * 100 + b, month, day), t)

def timeOfDay? : Text → Option Text
  | c :: t =>
    if c = 'T' || c = 't' || c = ' ' then (clock? t).map (fun t => (zone? t).getD t) else none
  | [] => none

/-- A moment of time. A date that the calendar lacks is no value at all. -/
def moment? (t : Text) : Option (Option (Value × Text)) :=
  match date? t with
  | some ((year, month, day), rest) =>
    if year = 0 || monthLength year month < day then some none
    else
      match timeOfDay? rest with
      | some rest => some (some (.moment .dateTime (t.take (offsetIn t rest)), rest))
      | none => some (some (.moment .date (t.take (offsetIn t rest)), rest))
  | none => (clock? t).map (fun rest => some (.moment .time (t.take (offsetIn t rest)), rest))

inductive ReadError where
  | malformed
  | longInteger (digits : Nat)
  | tooDeep
deriving DecidableEq, Repr

def orMalformed : Option α → Except ReadError α
  | some a => .ok a
  | none => .error .malformed

/-- How many decimal digits an integer has; those of another base are not counted. -/
def decimalDigits : Text → Nat
  | '0' :: 'x' :: _ | '0' :: 'b' :: _ | '0' :: 'o' :: _ => 0
  | t => t.countP isDigit

def checked (v : Value) : Except ReadError Value :=
  match v with
  | .integer spelling =>
    if digitLimit < decimalDigits spelling then .error (.longInteger (decimalDigits spelling))
    else .ok v
  | _ => .ok v

def plainValue? (t : Text) : Option (Value × Text) :=
  match moment? t with
  | some value => value
  | none => (number? t).or (specialFloat? t)

def boolean? (t : Text) : Option (Value × Text) :=
  ((literal? ['t', 'r', 'u', 'e'] t).map (fun rest => (.boolean true, rest))).or
    ((literal? ['f', 'a', 'l', 's', 'e'] t).map (fun rest => (.boolean false, rest)))

def simpleValue (t : Text) : Except ReadError (Value × Text) := do
  let (v, rest) ← orMalformed <|
    match t with
    | '"' :: _ | '\'' :: _ => (stringValue? t).map (fun (s, rest) => (.string s, rest))
    | _ => (boolean? t).or (plainValue? t)
  return (← checked v, rest)

/-- The room inside a value that takes so many levels. -/
def inside (levels room : Nat) : Except ReadError Nat :=
  if room < levels then .error .tooDeep else .ok (room - levels)

mutual

def value : (limit room : Nat) → Text → Except ReadError (Value × Text)
  | 0, _, _ => .error .malformed
  | limit + 1, room, '[' :: t => do
    let room ← inside 2 room
    match ← orMalformed (arrayGap? (t.length + 1) t) with
    | ']' :: t => return (.array [], t)
    | t =>
      let (vs, t) ← items limit room t
      return (.array vs, t)
  | limit + 1, room, '\x7b' :: t => do
    let room ← inside 3 room
    match skipInline t with
    | '\x7d' :: t => return (.table [], t)
    | t =>
      let (entries, t) ← pairs limit room {} t
      return (.table entries, t)
  | _, _, t => simpleValue t

def items : (limit room : Nat) → Text → Except ReadError (List Value × Text)
  | 0, _, _ => .error .malformed
  | limit + 1, room, t => do
    let (v, t) ← value limit room t
    match ← orMalformed (arrayGap? (t.length + 1) t) with
    | ']' :: t => return ([v], t)
    | ',' :: t =>
      match ← orMalformed (arrayGap? (t.length + 1) t) with
      | ']' :: t => return ([v], t)
      | t =>
        let (vs, t) ← items limit room t
        return (v :: vs, t)
    | _ => .error .malformed

def pairs : (limit room : Nat) → Inline → Text → Except ReadError (Table × Text)
  | 0, _, _, _ => .error .malformed
  | limit + 1, room, table, t => do
    let (k, t) ← orMalformed (key? (t.length + 1) t)
    let (v, t) ← value limit room (skipInline (← orMalformed (literal? ['='] t)))
    let table ← orMalformed (table.addPair k v)
    match skipInline t with
    | '\x7d' :: t => return (table.entries, t)
    | ',' :: t => pairs limit room table (skipInline t)
    | _ => .error .malformed

end

def pair (room : Nat) (d : Document) (t : Text) : Except ReadError (Document × Text) := do
  let (k, t) ← orMalformed (key? (t.length + 1) t)
  let t := skipInline (← orMalformed (literal? ['='] t))
  let (v, t) ← value (2 * t.length + 2) room t
  return (← orMalformed (d.addPair k v), skipInline t)

def header? (d : Document) : Text → Option (Document × Text)
  | '[' :: '[' :: t => do
    let (k, t) ← key? (t.length + 1) (skipInline t)
    let t ← literal? [']', ']'] t
    return (← d.settle.openItem k, skipInline t)
  | '[' :: t => do
    let (k, t) ← key? (t.length + 1) (skipInline t)
    let t ← literal? [']'] t
    return (← d.settle.openTable k, skipInline t)
  | _ => none

def statement (room : Nat) (d : Document) (t : Text) : Except ReadError (Document × Text) :=
  match t with
  | [] => .error .malformed
  | c :: _ =>
    if c = '[' then orMalformed (header? d t)
    else if c = '#' then .ok (d, t)
    else if isKeyChar c || c = '"' || c = '\'' then pair room d t
    else .error .malformed

def statements (room : Nat) : (limit : Nat) → Document → Text → Except ReadError Document
  | 0, _, _ => .error .malformed
  | limit + 1, d, t =>
    match skipInline t with
    | [] => .ok d
    | '\n' :: t => statements room limit d t
    | t => do
      let (d, t) ← statement room d t
      match ← orMalformed (comment? t) with
      | [] => return d
      | '\n' :: t => statements room limit d t
      | _ => .error .malformed

/-- A document, whose values may be nested as deep as there is room: an array takes two levels, an
inline table three. -/
def read (room : Nat) (t : Text) : Except ReadError Table :=
  let t := dropReturns t
  (statements room (t.length + 1) {} t).map Document.root

end RecorderStubs.Toml
