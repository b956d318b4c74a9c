/-! Texts are lists of characters, so an offset counts characters. Offsets that come from outside
are integers: they are clamped into the text, or, for slices, counted from its end when negative. -/
namespace RecorderStubs

abbrev Text := List Char

def literal? : Text → Text → Option Text
  | [], t => some t
  | _ :: _, [] => none
  | c :: cs, d :: t => if c = d then literal? cs t else none

def offsetIn (whole rest : Text) : Nat := whole.length - rest.length

def textBefore (t : Text) (offset : Int) : Text := t.take offset.toNat

def textFrom (t : Text) (offset : Int) : Text := t.drop offset.toNat

/-- A bound of a slice: negative bounds count from the end. -/
def sliceBound (length : Nat) (bound : Int) : Nat :=
  if bound < 0 then (bound + length).toNat else min bound.toNat length

def slice (t : Text) (start stop : Int) : Text :=
  (t.take (sliceBound t.length stop)).drop (sliceBound t.length start)

/-- The length of a slice with the given bounds, unless they are inverted. -/
def sliceLength? (start stop : Int) : Option Nat :=
  if start ≤ stop then some (stop - start).toNat else none

def negativeLengthMessage : String := "__len__() should return >= 0"

def occurrenceFrom? (part : Text) (offset : Nat) : Text → Option Nat
  | [] => if part.isEmpty then some offset else none
  | c :: t =>
    match literal? part (c :: t) with
    | some _ => some offset
    | none => occurrenceFrom? part (offset + 1) t

def occurrence? (part t : Text) : Option Nat := occurrenceFrom? part 0 t

/-- The characters from `start` up to, not including, `stop`. -/
structure Span where
  start : Nat
  stop : Nat
deriving DecidableEq, Repr

def Span.length (s : Span) : Nat := s.stop - s.start
def Span.cut (s : Span) (t : Text) : Text := (t.take s.stop).drop s.start
def Span.contains (s : Span) (offset : Nat) : Bool := s.start ≤ offset && offset < s.stop

structure RegionError where
  start : Int
  stop : Int
  length : Nat
deriving DecidableEq, Repr

def RegionError.message (e : RegionError) : String :=
  s!"Invalid region ({e.start}, {e.stop}) for buffer of length {e.length}"

/-- Replaces a region, which must lie inside the text and not be inverted. -/
def replaceRegion (t : List α) (start stop : Int) (new : List α) :
    Except RegionError (List α) :=
  if 0 ≤ start ∧ start ≤ stop ∧ stop ≤ t.length then
    .ok (t.take start.toNat ++ new ++ t.drop stop.toNat)
  else
    .error ⟨start, stop, t.length⟩

theorem literal?_eq_some {literal t rest : Text} :
    literal? literal t = some rest ↔ t = literal ++ rest := by
  induction literal generalizing t with
  | nil => simp [literal?]
  | cons c cs ih =>
    cases t with
    | nil => simp [literal?]
    | cons d t =>
      by_cases h : c = d
      · subst h
        simp [literal?, ih]
      · have h' : d ≠ c := fun e => h e.symm
        simp [literal?, h, h']

end RecorderStubs
