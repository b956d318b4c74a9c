import RecorderStubs.Signature.Lexeme

/-! Inert regions of a source: comments, string literals and character literals, which hold no
code. Block comments nest. An unclosed comment, string or raw string runs on to the end, except
that a string stops before a backslash that ends the text. A quote that starts no character
literal is the mark of a lifetime. -/
namespace RecorderStubs

def lineCommentRest (t : Text) : Text := t.dropWhile (· != '\n')

/-- The rest after a block comment of which `depth` levels are open. -/
def blockCommentRest (depth : Nat) : Text → Text
  | [] => []
  | '/' :: '*' :: t => blockCommentRest (depth + 1) t
  | '*' :: '/' :: t => if depth ≤ 1 then t else blockCommentRest (depth - 1) t
  | _ :: t => blockCommentRest depth t

def stringLiteralRest : Text → Text
  | [] => []
  | '"' :: t => t
  | ['\\'] => ['\\']
  | '\\' :: _ :: t => stringLiteralRest t
  | _ :: t => stringLiteralRest t

def rawOpening? (t : Text) : Option (Nat × Text) := do
  let t ← literal? ['r'] ((literal? ['b'] t).getD t)
  let t' ← literal? ['"'] (t.dropWhile (· == '#'))
  return ((t.takeWhile (· == '#')).length, t')

/-- The rest after a raw string: a quote and as many hashes as opened it. -/
def rawStringRest (hashes : Nat) : Text → Text
  | [] => []
  | c :: t =>
    match literal? ('"' :: List.replicate hashes '#') (c :: t) with
    | some rest => rest
    | none => rawStringRest hashes t

def isHexDigit (c : Char) : Bool :=
  ('0' ≤ c && c ≤ '9') || ('a' ≤ c && c ≤ 'f') || ('A' ≤ c && c ≤ 'F')

def byteEscape? : Text → Option Text
  | 'x' :: a :: b :: t => if isHexDigit a && isHexDigit b then some t else none
  | _ => none

def codePointEscape? (t : Text) : Option Text := do
  let t ← literal? ['u', '\x7b'] t
  let digits := t.takeWhile isHexDigit
  if digits.isEmpty || 6 < digits.length then none
  else literal? ['\x7d'] (t.dropWhile isHexDigit)

def simpleEscape? : Text → Option Text
  | [] => none
  | c :: t => if c = '\n' then none else some t

def closingQuote? : Text → Option Text := literal? ['\'']

/-- The rest after a character literal of which the opening quote has been read. Of the escapes,
the first that leads to the closing quote counts. -/
def charLiteralRest? : Text → Option Text
  | [] => none
  | '\\' :: t =>
    ((byteEscape? t).bind closingQuote?).or
      (((codePointEscape? t).bind closingQuote?).or ((simpleEscape? t).bind closingQuote?))
  | c :: t => if c = '\'' || c = '\n' then none else closingQuote? t

def quotedRest? : Text → Option Text
  | '"' :: t => some (stringLiteralRest t)
  | '\'' :: t => charLiteralRest? t
  | _ => none

/-- The rest after the region that starts at the head of a text. The letters of a byte or raw
literal start one only where no word character stands before them. -/
def inertRest? (afterWord : Bool) : Text → Option Text
  | '/' :: '/' :: t => some (lineCommentRest t)
  | '/' :: '*' :: t => some (blockCommentRest 1 t)
  | t =>
    match quotedRest? t with
    | some rest => some rest
    | none =>
      if afterWord then none
      else
        match rawOpening? t with
        | some (hashes, rest) => some (rawStringRest hashes rest)
        | none => (literal? ['b'] t).bind quotedRest?

/-- The regions from an offset on; `skip` characters are still inside the last one. -/
def inertFrom (offset skip : Nat) (afterWord : Bool) : Text → List Span
  | [] => []
  | c :: t =>
    match skip with
    | skip + 1 => inertFrom (offset + 1) skip (isWord c) t
    | 0 =>
      match inertRest? afterWord (c :: t) with
      | some rest =>
        let size := offsetIn (c :: t) rest
        ⟨offset, offset + size⟩ :: inertFrom (offset + 1) (size - 1) (isWord c) t
      | none => inertFrom (offset + 1) 0 (isWord c) t

def inertSpans (t : Text) : List Span := inertFrom 0 0 false t

/-- How many of the spans, which stand in order, start at an offset or before it. The number is
looked for by halves, between two bounds. -/
def startsUpTo (spans : Array Span) (offset low high : Nat) (inside : high ≤ spans.size) : Nat :=
  if h : low < high then
    let middle := (low + high) / 2
    if offset < spans[middle].start then startsUpTo spans offset low middle (by omega)
    else startsUpTo spans offset (middle + 1) high inside
  else low
termination_by high - low

/-- Whether one of the spans, which stand in order, holds an offset. Only the last one that starts
there or before can. -/
def coveredAt (spans : Array Span) (offset : Nat) : Bool :=
  match startsUpTo spans offset 0 spans.size (Nat.le_refl _) with
  | 0 => false
  | index + 1 => spans[index]?.any (fun s => offset < s.stop)

end RecorderStubs
