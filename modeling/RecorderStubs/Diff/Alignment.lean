/-! Alignment of two lists: the longest block they share, then what stands before it, then what
stands after it. Elements that are very common in a long second list are left out of the search,
but the block that is found grows over them. -/
namespace RecorderStubs.Diff

variable {α : Type}

/-- A part of an alignment: elements of both lists, or those of one replaced by those of the
other. -/
inductive Segment (α : Type) where
  | keep (items : List α)
  | change (old new : List α)
deriving Repr

namespace Segment

def old : Segment α → List α
  | keep items => items
  | change old _ => old

def new : Segment α → List α
  | keep items => items
  | change _ new => new

end Segment

def changed (xs ys : List α) : List (Segment α) :=
  if xs.isEmpty && ys.isEmpty then [] else [.change xs ys]

def joinKept : List (Segment α) → List (Segment α)
  | [] => []
  | .change xs ys :: rest => .change xs ys :: joinKept rest
  | .keep xs :: rest =>
    match joinKept rest with
    | .keep ys :: rest => .keep (xs ++ ys) :: rest
    | rest => .keep xs :: rest

variable [BEq α]

def commonStart : List α → List α → List α
  | x :: xs, y :: ys => if x == y then x :: commonStart xs ys else []
  | _, _ => []

theorem length_commonStart_le (xs ys : List α) : (commonStart xs ys).length ≤ xs.length := by
  induction xs generalizing ys with
  | nil => simp [commonStart]
  | cons x xs ih =>
    cases ys with
    | nil => simp [commonStart]
    | cons y ys =>
      by_cases h : (x == y) = true
      · simp [commonStart, h, ih]
      · simp [commonStart, h]

def commonEndLength (xs ys : List α) : Nat := (commonStart xs.reverse ys.reverse).length

/-- The elements that are too common to look for: in a list of 200 or more, those that occur
more than once in a hundred places and one time more. -/
def commonItems (ys : List α) : List α :=
  if ys.length < 200 then []
  else ys.eraseDups.filter (fun y => ys.length / 100 + 1 < ys.count y)

/-- Where an element stands in a list, counted from the given place. -/
def placesFrom (place : Nat) (x : α) : List α → List Nat
  | [] => []
  | y :: ys => if x == y then place :: placesFrom (place + 1) x ys else placesFrom (place + 1) x ys

/-- A place in the second list, and the size of the longest block that ends there and at the element
of the first list that is being read. -/
structure Run where
  place : Nat
  size : Nat

/-- The size of the run that ends right before a place, when the runs start there or later. -/
def sizeBefore (place : Nat) : List Run → Nat
  | r :: _ => if r.place + 1 = place then r.size else 0
  | [] => 0

/-- The runs at the next element of the first list, which stands at the given places, from those at
the element before it. Both ascend. -/
def nextRuns (runs : List Run) : List Nat → List Run
  | [] => []
  | place :: places =>
    let runs := runs.dropWhile (·.place + 1 < place)
    ⟨place, sizeBefore place runs + 1⟩ :: nextRuns runs places

/-- A block by the places where it ends, counted from one, and its size. -/
structure Best where
  oldEnd : Nat
  newEnd : Nat
  size : Nat

def Best.improve (oldEnd : Nat) (b : Best) (r : Run) : Best :=
  if b.size < r.size then ⟨oldEnd, r.place, r.size⟩ else b

/-- The longest block, of several the first in the first list and then in the second. Elements that
are too common stand in none. -/
def bestFrom (common ys : List α) (oldEnd : Nat) (runs : List Run) (b : Best) : List α → Best
  | [] => b
  | x :: xs =>
    let runs := if common.contains x then [] else nextRuns runs (placesFrom 1 x ys)
    bestFrom common ys (oldEnd + 1) runs (runs.foldl (Best.improve oldEnd) b) xs

structure Block (α : Type) where
  old : Nat
  new : Nat
  items : List α

def block (common xs ys : List α) : Block α :=
  let b := bestFrom common ys 1 [] ⟨0, 0, 0⟩ xs
  let i := b.oldEnd - b.size
  let j := b.newEnd - b.size
  let grown := commonEndLength (xs.take i) (ys.take j)
  ⟨i - grown, j - grown, commonStart (xs.drop (i - grown)) (ys.drop (j - grown))⟩

theorem length_block_items_le (common xs ys : List α) :
    (block common xs ys).items.length ≤ xs.length - (block common xs ys).old := by
  rw [← List.length_drop]
  exact length_commonStart_le _ _

def segments (common xs ys : List α) : List (Segment α) :=
  match _found : block common xs ys with
  | ⟨i, j, kept⟩ =>
    if _none : kept = [] then changed xs ys
    else
      segments common (xs.take i) (ys.take j)
        ++ .keep kept
        :: segments common (xs.drop (i + kept.length)) (ys.drop (j + kept.length))
termination_by xs.length
decreasing_by
  all_goals
    have positive := List.length_pos_iff.mpr _none
    have bounded := length_block_items_le common xs ys
    rw [_found] at bounded
    dsimp only at bounded
    simp only [List.length_drop, List.length_take]
    omega

def align (xs ys : List α) : List (Segment α) := joinKept (segments (commonItems ys) xs ys)

end RecorderStubs.Diff
