import RecorderStubs.Signature.Lexeme

/-! Where a new variant goes in an enum: the start of the line of its closing brace, or the brace
itself when it shares a line with the opening one. The first declaration of the enum counts; braces
are balanced as characters, whatever they stand in. -/
namespace RecorderStubs

/-- The name looked for after `pub enum`. A token class in angle brackets stands for any token of
the class; other texts stand for themselves. -/
inductive EnumTarget where
  | word (name : Text)
  | token (lexeme : Lexeme)
deriving DecidableEq, Repr

def EnumTarget.ofName (name : Text) : EnumTarget :=
  if name = ['<', 'i', 'd', 'e', 'n', 't', '>'] then .token .name
  else if name = ['<', 't', 'y', 'p', 'e', '>'] then .token .type
  else if name = ['<', 's', 't', 'r', 'i', 'n', 'g', '>'] then .token .string
  else .word name

/-- What can be left after a run of one class, the longest run first. -/
def runRests (p : Char → Bool) (t : Text) : List Text :=
  let longest := (t.takeWhile p).length
  (List.range longest).map (fun k => t.drop (longest - k))

/-- What can be left after a target, in the order in which the possibilities are tried. -/
def EnumTarget.rests : EnumTarget → Text → List Text
  | .word name, t => (literal? name t).toList
  | .token .blanks, t => runRests isBlank t ++ [t]
  | .token .gap, t => runRests isBlank t
  | .token .name, t => runRests isWord t
  | .token .type, t =>
    (((literal? mutableMark t).toList.flatMap (runRests isBlank)).flatMap (runRests isTypeChar))
      ++ runRests isTypeChar t
  | .token .string, t => (string? t).toList

/-- Whether the last character read and the next one are a word character and another. -/
def wordEndsAt (t rest : Text) : Bool :=
  startsWord (t.drop (offsetIn t rest - 1)) != startsWord rest

def publicWord : Text := ['p', 'u', 'b']
def enumWord : Text := ['e', 'n', 'u', 'm']

def enumMarker? (target : EnumTarget) (t : Text) : Option Text := do
  let rest ← literal? enumWord (← gap? (← literal? publicWord t))
  ((runRests isBlank rest).flatMap target.rests).find? (wordEndsAt t)

def findMarker? (target : EnumTarget) (afterWord : Bool) : Text → Option Text
  | [] => none
  | c :: t =>
    match if afterWord then none else enumMarker? target (c :: t) with
    | some rest => some rest
    | none => findMarker? target (isWord c) t

/-- The text from the brace that closes the `depth` open ones. -/
def closingBrace? (depth : Nat) : Text → Option Text
  | [] => none
  | c :: t =>
    if c = '\x7b' then closingBrace? (depth + 1) t
    else if c = '\x7d' then if depth ≤ 1 then some (c :: t) else closingBrace? (depth - 1) t
    else closingBrace? depth t

def lineStart (t : Text) (offset : Nat) : Nat :=
  offset - ((t.take offset).reverse.takeWhile (· != '\n')).length

inductive SlotCause where
  | noMarker
  | noOpening
  | noClosing
deriving DecidableEq, Repr

structure SlotError where
  cause : SlotCause
  enumName : Text
deriving DecidableEq, Repr

def SlotError.message (e : SlotError) : String :=
  let marker := "'pub enum " ++ String.ofList e.enumName ++ "'"
  match e.cause with
  | .noMarker => "No " ++ marker ++ " declaration found in companion file"
  | .noOpening => marker ++ " has no opening brace"
  | .noClosing => marker ++ " is missing its closing brace"

def enumSlot (t : Text) (enumName : Text) : Except SlotError Nat :=
  match findMarker? (.ofName enumName) false t with
  | none => .error ⟨.noMarker, enumName⟩
  | some rest =>
    match rest.dropWhile (· != '\x7b') with
    | [] => .error ⟨.noOpening, enumName⟩
    | brace :: body =>
      match closingBrace? 1 body with
      | none => .error ⟨.noClosing, enumName⟩
      | some closing =>
        let opened := offsetIn t (brace :: body)
        let closed := offsetIn t closing
        let start := lineStart t closed
        .ok (if start ≤ opened then closed else start)

end RecorderStubs
