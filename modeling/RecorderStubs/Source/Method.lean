import RecorderStubs.Signature.Declaration
import RecorderStubs.Source.Inert
import RecorderStubs.Text.Position

/-! The methods of a source that take `&self`, in source order, without those in comments and
literals. -/
namespace RecorderStubs

/-- A method header; the declaration is there while the body is the placeholder. -/
structure Method where
  offset : Nat
  line : Nat
  name : Text
  stub? : Option Declaration
deriving DecidableEq, Repr

def Method.isStub (m : Method) : Bool := m.stub?.isSome

def unsafeSize (t : Text) : Nat :=
  match literal? unsafeWord t with
  | none => 0
  | some rest =>
    match rest.takeWhile isBlank with
    | [] => 0
    | blanks => unsafeWord.length + blanks.length

/-- Where the `fn` stands in the keyword `fn` or `unsafe fn` at the head of a text, as whole
words. -/
def keyword? (t : Text) : Option Nat := do
  let rest ← literal? functionWord (t.drop (unsafeSize t))
  if startsWord rest then none else some (unsafeSize t)

/-- Where keywords start and where their `fn` stands; `skip` characters belong to the last one. -/
def keywordsFrom (offset skip : Nat) (afterWord : Bool) : Text → List (Nat × Nat)
  | [] => []
  | c :: t =>
    match skip with
    | skip + 1 => keywordsFrom (offset + 1) skip (isWord c) t
    | 0 =>
      match if afterWord then none else keyword? (c :: t) with
      | some size => (offset, offset + size) :: keywordsFrom (offset + 1) (size + 1) (isWord c) t
      | none => keywordsFrom (offset + 1) 0 (isWord c) t

/-- Where the declaration of a keyword starts. An `unsafe` in a comment right before a live `fn`
does not belong to it. -/
def liveStart? (inert : Nat → Bool) : Nat × Nat → Option Nat
  | (start, function) =>
    if !inert start then some start
    else if !inert function then some function
    else none

def liveStarts (t : Text) : List Nat :=
  (keywordsFrom 0 0 false t).filterMap (liveStart? (coveredAt (inertSpans t).toArray))

def methodAt? (t : Text) (offset : Nat) : Option Method :=
  match parse t offset with
  | .ok d => some ⟨offset, lineOf t offset, d.signature.name, some d⟩
  | .error (.unexpectedBody name _) => some ⟨offset, lineOf t offset, name, none⟩
  | .error (.noHeader _) => none

def methods (t : Text) : List Method := (liveStarts t).filterMap (methodAt? t)

def stubs (t : Text) : List Method := (methods t).filter Method.isStub

def isStubAt (t : Text) (offset : Nat) : Bool := (Reading.of (textFrom t offset)).isStub

def firstStub? (t : Text) : Option Nat := (liveStarts t).find? (isStubAt t)

theorem methodAt?_of_isStubAt {t : Text} {offset : Nat} (h : isStubAt t offset = true) :
    ∃ m, methodAt? t offset = some m ∧ m.isStub = true ∧ m.offset = offset := by
  unfold isStubAt at h
  unfold methodAt? parse
  cases hr : Reading.of (textFrom t offset) with
  | nothing => simp [hr, Reading.isStub] at h
  | method name rest => simp [hr, Reading.isStub] at h
  | stub s body rest => exact ⟨_, rfl, rfl, rfl⟩

theorem isStub_eq_false_of_methodAt? {t : Text} {offset : Nat} {m : Method}
    (h : isStubAt t offset = false) (found : methodAt? t offset = some m) : m.isStub = false := by
  unfold isStubAt at h
  unfold methodAt? parse at found
  cases hr : Reading.of (textFrom t offset) with
  | nothing => simp [hr] at found
  | method name rest =>
    simp only [hr, Option.some.injEq] at found
    subst found
    rfl
  | stub s body rest => simp [hr, Reading.isStub] at h

/-- The search for the first stub stops where the list of all stubs begins. -/
theorem firstStub?_eq (t : Text) : firstStub? t = (stubs t).head?.map Method.offset := by
  unfold firstStub? stubs methods
  induction liveStarts t with
  | nil => rfl
  | cons offset starts ih =>
    cases h : isStubAt t offset with
    | true =>
      obtain ⟨m, found, stub, rfl⟩ := methodAt?_of_isStubAt h
      simp [h, found, stub]
    | false =>
      cases found : methodAt? t offset with
      | none => simp [h, found, ih]
      | some m => simp [h, found, isStub_eq_false_of_methodAt? h found, ih]

end RecorderStubs
