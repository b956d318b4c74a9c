import RecorderStubs.Signature.Lexeme

/-! Method declarations whose body is the placeholder `unimplemented!("...");`. A declaration is
a header, parameters while they last, and a tail; each part has a recogniser that gives the rest
of the text. -/
namespace RecorderStubs

structure Parameter where
  name : Text
  type : Text
deriving DecidableEq, Repr

/-- The name of a method and its parameters in order, the receiver left out. -/
structure Signature where
  name : Text
  parameters : List Parameter
deriving DecidableEq, Repr

def Signature.parameterNames (s : Signature) : List Text := s.parameters.map Parameter.name

structure Declaration where
  signature : Signature
  placeholder : Span
  start : Int
deriving DecidableEq, Repr

def unsafeWord : Text := ['u', 'n', 's', 'a', 'f', 'e']
def functionWord : Text := ['f', 'n']
def mutableWord : Text := ['m', 'u', 't']
def receiverWord : Text := ['s', 'e', 'l', 'f']
def unimplementedCall : Text :=
  ['u', 'n', 'i', 'm', 'p', 'l', 'e', 'm', 'e', 'n', 't', 'e', 'd', '!', '(']

/-- Skips a word and the gap after it, if they are there. -/
def skipWord (word t : Text) : Text := ((literal? word t).bind gap?).getD t

/-- The name of a method that takes `&self` or `&mut self`, and the rest after the receiver. -/
def header? (t : Text) : Option (Text × Text) := do
  let t ← gap? (← literal? functionWord (skipWord unsafeWord t))
  let (name, t) ← name? t
  let t ← literal? ['(', '&'] t
  let t ← literal? receiverWord (skipWord mutableWord t)
  if startsWord t then none else some (name, t)

def parameter? (t : Text) : Option (Parameter × Text) := do
  let t ← literal? [','] t
  let (name, t) ← name? (skipBlanks t)
  let t ← literal? [':'] t
  let (type, t) ← type? (skipBlanks t)
  return (⟨name, type⟩, skipBlanks t)

/-- The rest after the placeholder. -/
def placeholder? (t : Text) : Option Text := do
  let t ← string? (skipBlanks (← literal? unimplementedCall t))
  let t ← literal? [')'] (skipBlanks t)
  literal? [';'] (skipBlanks t)

def result? (t : Text) : Option Text := do
  let (_, t) ← type? (skipBlanks (← literal? ['-', '>'] t))
  return skipBlanks t

/-- The rest after the parenthesis that closes the parameters, the result and the opening brace. -/
def opening? (t : Text) : Option Text := do
  let t ← literal? [')'] (skipBlanks ((literal? [','] t).getD t))
  let t := skipBlanks t
  let t ← literal? ['\x7b'] ((result? t).getD t)
  return skipBlanks t

def tail? (t : Text) : Option (Text × Text) := do
  let body ← opening? t
  return (body, ← placeholder? body)

theorem length_skipBlanks_le (t : Text) : (skipBlanks t).length ≤ t.length :=
  (List.dropWhile_suffix isBlank).length_le

theorem length_of_run? {p : Char → Bool} {t run rest : Text} (h : run? p t = some (run, rest)) :
    rest.length ≤ t.length := by
  unfold run? at h
  split at h
  · contradiction
  · cases h
    exact (List.dropWhile_suffix p).length_le

theorem length_of_literal? {literal t rest : Text} (h : literal? literal t = some rest) :
    t.length = literal.length + rest.length := by
  rw [literal?_eq_some.mp h, List.length_append]

theorem length_of_type? {t type rest : Text} (h : type? t = some (type, rest)) :
    rest.length ≤ t.length := by
  unfold type? at h
  cases hm : mutableType? t with
  | none =>
    rw [hm] at h
    exact length_of_run? h
  | some found =>
    rw [hm] at h
    cases h
    simp only [mutableType?, Option.bind_eq_bind, Option.bind_eq_some_iff] at hm
    obtain ⟨a, ha, ⟨blanks, b⟩, hb, ⟨run, c⟩, hc, hout⟩ := hm
    cases hout
    have h₁ := length_of_literal? ha
    have h₂ := length_of_run? hb
    have h₃ := length_of_run? hc
    dsimp only at h₃ ⊢
    omega

theorem length_of_parameter? {t rest : Text} {p : Parameter}
    (h : parameter? t = some (p, rest)) : rest.length < t.length := by
  simp only [parameter?, Option.bind_eq_bind, Option.bind_eq_some_iff] at h
  obtain ⟨a, ha, ⟨name, b⟩, hb, c, hc, ⟨type, d⟩, hd, hout⟩ := h
  cases hout
  have h₁ := length_of_literal? ha
  have h₂ := length_of_run? hb
  have h₃ := length_of_literal? hc
  have h₄ := length_of_type? hd
  have h₅ := length_skipBlanks_le a
  have h₆ := length_skipBlanks_le c
  have h₇ := length_skipBlanks_le d
  simp only [List.length_cons, List.length_nil] at h₁ h₃ ⊢
  omega

def parameters (t : Text) : List Parameter × Text :=
  match _found : parameter? t with
  | none => ([], t)
  | some (p, rest) =>
    let (ps, rest) := parameters rest
    (p :: ps, rest)
termination_by t.length
decreasing_by exact length_of_parameter? _found

/-- What stands at the head of a text: a method and the text after its parameters, or a stub with
the text at its placeholder and the text after it. -/
inductive Reading where
  | nothing
  | method (name rest : Text)
  | stub (signature : Signature) (body rest : Text)
deriving DecidableEq, Repr

namespace Reading

def of (t : Text) : Reading :=
  match header? t with
  | none => nothing
  | some (name, rest) =>
    let (ps, rest) := parameters rest
    match tail? rest with
    | none => method name rest
    | some (body, rest) => stub ⟨name, ps⟩ body rest

def isStub : Reading → Bool
  | stub _ _ _ => true
  | _ => false

end Reading

inductive ParseError where
  | noHeader (offset : Int)
  | unexpectedBody (name : Text) (offset : Nat)
deriving DecidableEq, Repr

/-- Reads the declaration at an offset, clamped into the text. -/
def parse (t : Text) (offset : Int) : Except ParseError Declaration :=
  match Reading.of (textFrom t offset) with
  | .nothing => .error (.noHeader offset)
  | .method name rest => .error (.unexpectedBody name (offsetIn t rest))
  | .stub s body rest => .ok ⟨s, ⟨offsetIn t body, offsetIn t rest⟩, offset⟩

end RecorderStubs
