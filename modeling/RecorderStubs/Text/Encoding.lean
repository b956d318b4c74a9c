import RecorderStubs.Text.Quoted

/-! Texts as bytes. Reading reports the first ill-formed sequence by its longest well-formed part;
writing reports the first run of code points that the encoding cannot hold. A text in memory may
have lone surrogates, which no file gives and no encoding holds. -/
namespace RecorderStubs

abbrev Bytes := List UInt8

inductive Encoding where
  | utf8
  | latin1
  | ascii
deriving DecidableEq, Repr

namespace Encoding

def name : Encoding → String
  | utf8 => "utf-8"
  | latin1 => "latin-1"
  | ascii => "ascii"

def limit : Encoding → Nat
  | utf8 => 0x110000
  | latin1 => 256
  | ascii => 128

/-- Whether a code point has bytes; surrogates have none. -/
def holds (encoding : Encoding) (code : Nat) : Bool :=
  match encoding with
  | utf8 => code < 0xd800 || (0xdfff < code && code < encoding.limit)
  | _ => code < encoding.limit

def bytesOf (encoding : Encoding) (code : Nat) : Bytes :=
  match encoding with
  | utf8 => String.utf8EncodeChar (Char.ofNat code)
  | _ => [UInt8.ofNat code]

end Encoding

/-- A code point, which unlike a character may be a surrogate. -/
abbrev CodePoint := Fin 0x110000

class Coded (α : Type) where
  ofChar : Char → α
  code : α → Nat
  code_ofChar : ∀ c, code (ofChar c) = c.toNat

instance : Coded Char := ⟨id, Char.toNat, fun _ => rfl⟩

def Coded.text [Coded α] (t : Text) : List α := t.map Coded.ofChar

theorem Coded.text_char (t : Text) : (Coded.text t : Text) = t := List.map_id t

theorem toNat_lt_limit (c : Char) : c.toNat < 0x110000 := by
  rcases c.valid with low | ⟨_, high⟩
  · exact Nat.lt_trans low (by decide)
  · exact high

instance : Coded CodePoint := ⟨fun c => ⟨c.toNat, toNat_lt_limit c⟩, Fin.val, fun _ => rfl⟩

inductive DecodeReason where
  | invalidStart
  | invalidContinuation
  | unexpectedEnd
  | outOfRange (limit : Nat)
deriving DecidableEq, Repr

def DecodeReason.text : DecodeReason → String
  | invalidStart => "invalid start byte"
  | invalidContinuation => "invalid continuation byte"
  | unexpectedEnd => "unexpected end of data"
  | outOfRange limit => s!"ordinal not in range({limit})"

structure DecodeError where
  encoding : Encoding
  first : UInt8
  start : Nat
  length : Nat
  reason : DecodeReason
deriving DecidableEq, Repr

def DecodeError.message (e : DecodeError) : String :=
  let place :=
    if e.length ≤ 1 then
      "byte 0x" ++ String.ofList (hexDigits 2 e.first.toNat) ++ s!" in position {e.start}"
    else s!"bytes in position {e.start}-{e.start + e.length - 1}"
  s!"'{e.encoding.name}' codec can't decode " ++ place ++ ": " ++ e.reason.text

structure EncodeError where
  encoding : Encoding
  first : Nat
  start : Nat
  length : Nat
deriving DecidableEq, Repr

def EncodeError.message (e : EncodeError) : String :=
  let place :=
    if e.length ≤ 1 then
      "character '" ++ String.ofList (codePointEscape e.first) ++ s!"' in position {e.start}"
    else s!"characters in position {e.start}-{e.start + e.length - 1}"
  let reason :=
    if e.encoding = .utf8 then "surrogates not allowed"
    else s!"ordinal not in range({e.encoding.limit})"
  s!"'{e.encoding.name}' codec can't encode " ++ place ++ ": " ++ reason

/-- The bits of a sequence's first byte and the continuation bytes that follow it; the second byte
has its own range, which leaves out overlong forms, surrogates and what lies above the last code
point. -/
structure Lead where
  bits : Nat
  low : Nat
  high : Nat
  more : Nat

def lead? (b : UInt8) : Option Lead :=
  let n := b.toNat
  if n < 0x80 then some ⟨n, 0, 0, 0⟩
  else if n < 0xc2 then none
  else if n < 0xe0 then some ⟨n - 0xc0, 0x80, 0xbf, 1⟩
  else if n < 0xf0 then
    some ⟨n - 0xe0, if n = 0xe0 then 0xa0 else 0x80, if n = 0xed then 0x9f else 0xbf, 2⟩
  else if n < 0xf5 then
    some ⟨n - 0xf0, if n = 0xf0 then 0x90 else 0x80, if n = 0xf4 then 0x8f else 0xbf, 3⟩
  else none

/-- What is known while a sequence is read: its first byte and offset, the bytes read so far, the
bits so far, and what may follow. -/
structure Pending where
  first : UInt8
  start : Nat
  length : Nat
  lead : Lead

def decodeUtf8From (offset : Nat) : Option Pending → Bytes → Except DecodeError Text
  | none, [] => .ok []
  | some p, [] => .error ⟨.utf8, p.first, p.start, p.length, .unexpectedEnd⟩
  | none, b :: bytes =>
    match lead? b with
    | none => .error ⟨.utf8, b, offset, 1, .invalidStart⟩
    | some lead =>
      if lead.more = 0 then
        (decodeUtf8From (offset + 1) none bytes).map (Char.ofNat lead.bits :: ·)
      else decodeUtf8From (offset + 1) (some ⟨b, offset, 1, lead⟩) bytes
  | some p, b :: bytes =>
    let n := b.toNat
    if n < p.lead.low || p.lead.high < n then
      .error ⟨.utf8, p.first, p.start, p.length, .invalidContinuation⟩
    else
      let bits := p.lead.bits * 64 + (n - 0x80)
      if p.lead.more ≤ 1 then
        (decodeUtf8From (offset + 1) none bytes).map (Char.ofNat bits :: ·)
      else
        let lead := ⟨bits, 0x80, 0xbf, p.lead.more - 1⟩
        decodeUtf8From (offset + 1) (some ⟨p.first, p.start, p.length + 1, lead⟩) bytes

def decodeBytesFrom (encoding : Encoding) (offset : Nat) : Bytes → Except DecodeError Text
  | [] => .ok []
  | b :: bytes =>
    if b.toNat < encoding.limit then
      (decodeBytesFrom encoding (offset + 1) bytes).map (Char.ofNat b.toNat :: ·)
    else .error ⟨encoding, b, offset, 1, .outOfRange encoding.limit⟩

def Encoding.decode (encoding : Encoding) (bytes : Bytes) : Except DecodeError Text :=
  match encoding with
  | .utf8 => decodeUtf8From 0 none bytes
  | _ => decodeBytesFrom encoding 0 bytes

def encodeUtf8 (t : Text) : Bytes := t.flatMap String.utf8EncodeChar

def Encoding.encode [Coded α] (encoding : Encoding) (t : List α) : Except EncodeError Bytes :=
  let codes := t.map Coded.code
  match codes.dropWhile encoding.holds with
  | [] => .ok (codes.flatMap encoding.bytesOf)
  | first :: rest =>
    let run := (first :: rest).takeWhile (fun code => !encoding.holds code)
    .error ⟨encoding, first, (codes.takeWhile encoding.holds).length, run.length⟩

/-- Line ends as read from a file: a carriage return, alone or before a newline, is a newline. -/
def unifyNewlines : Text → Text
  | [] => []
  | '\r' :: '\n' :: t => '\n' :: unifyNewlines t
  | c :: t => (if c = '\r' then '\n' else c) :: unifyNewlines t

end RecorderStubs
