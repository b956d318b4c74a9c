import RecorderStubs.Diff.Alignment

/-! What an alignment keeps and changes. Whatever block is kept, both lists can be read off the
segments. Of a list and itself the longest block without common elements lies at the same place on
both sides, and it grows over the whole list; so nothing is changed. -/
namespace RecorderStubs.Diff

variable {α : Type}

structure Aligns (ss : List (Segment α)) (xs ys : List α) : Prop where
  old : ss.flatMap Segment.old = xs
  new : ss.flatMap Segment.new = ys

namespace Aligns

theorem nil : Aligns ([] : List (Segment α)) [] [] := ⟨rfl, rfl⟩

theorem keep (items : List α) : Aligns [.keep items] items items := by
  constructor <;> exact List.append_nil items

theorem change (xs ys : List α) : Aligns [.change xs ys] xs ys :=
  ⟨List.append_nil xs, List.append_nil ys⟩

theorem append {ss ss' : List (Segment α)} {xs xs' ys ys' : List α} (h : Aligns ss xs ys)
    (h' : Aligns ss' xs' ys') : Aligns (ss ++ ss') (xs ++ xs') (ys ++ ys') :=
  ⟨by rw [List.flatMap_append, h.old, h'.old], by rw [List.flatMap_append, h.new, h'.new]⟩

end Aligns

theorem aligns_changed (xs ys : List α) : Aligns (changed xs ys) xs ys := by
  unfold changed
  split
  · rename_i none
    simp only [Bool.and_eq_true, List.isEmpty_iff] at none
    rw [none.1, none.2]
    exact .nil
  · exact .change xs ys

theorem flatMap_joinKept {side : Segment α → List α}
    (joins : ∀ xs ys, side (.keep (xs ++ ys)) = side (.keep xs) ++ side (.keep ys))
    (ss : List (Segment α)) : (joinKept ss).flatMap side = ss.flatMap side := by
  fun_induction joinKept ss with
  | case1 => rfl
  | case2 xs ys rest ih => rw [List.flatMap_cons, List.flatMap_cons, ih]
  | case3 xs rest ys rest' joined ih =>
    rw [joined, List.flatMap_cons] at ih
    rw [List.flatMap_cons, List.flatMap_cons, joins, List.append_assoc, ih]
  | case4 xs rest _ ih => rw [List.flatMap_cons, List.flatMap_cons, ih]

theorem Aligns.joinKept {ss : List (Segment α)} {xs ys : List α} (h : Aligns ss xs ys) :
    Aligns (joinKept ss) xs ys :=
  ⟨(flatMap_joinKept (fun _ _ => rfl) ss).trans h.old,
    (flatMap_joinKept (fun _ _ => rfl) ss).trans h.new⟩

variable [BEq α] [LawfulBEq α]

theorem commonStart_shared (xs ys : List α) :
    commonStart xs ys <+: xs ∧ commonStart xs ys <+: ys := by
  fun_induction commonStart xs ys with
  | case1 x xs y ys same ih =>
    obtain rfl := eq_of_beq same
    exact ⟨List.cons_prefix_cons.mpr ⟨rfl, ih.1⟩, List.cons_prefix_cons.mpr ⟨rfl, ih.2⟩⟩
  | case2 => exact ⟨List.nil_prefix, List.nil_prefix⟩
  | case3 => exact ⟨List.nil_prefix, List.nil_prefix⟩

theorem commonStart_self (xs : List α) : commonStart xs xs = xs := by
  induction xs with
  | nil => rfl
  | cons x xs ih => rw [commonStart, if_pos (BEq.refl x), ih]

omit [BEq α] [LawfulBEq α] in
theorem take_kept_drop {xs kept : List α} {i : Nat} (h : kept <+: xs.drop i) :
    xs.take i ++ (kept ++ xs.drop (i + kept.length)) = xs := by
  obtain ⟨rest, cut⟩ := h
  have behind : xs.drop (i + kept.length) = rest := by
    rw [← List.drop_drop, ← cut, List.drop_left]
  rw [behind, cut, List.take_append_drop]

omit [LawfulBEq α] in
theorem segments_eq (common xs ys : List α) : segments common xs ys =
    if (block common xs ys).items = [] then changed xs ys
    else
      segments common (xs.take (block common xs ys).old) (ys.take (block common xs ys).new)
        ++ .keep (block common xs ys).items
        :: segments common
          (xs.drop ((block common xs ys).old + (block common xs ys).items.length))
          (ys.drop ((block common xs ys).new + (block common xs ys).items.length)) := by
  rw [segments]
  generalize block common xs ys = b
  cases b with
  | mk i j kept => rfl

/-- The kept block stands in both lists where it is said to stand, so nothing is lost. -/
theorem aligns_segments (common xs ys : List α) : Aligns (segments common xs ys) xs ys := by
  induction size : xs.length using Nat.strongRecOn generalizing xs ys with
  | ind size ih =>
    have shared : (block common xs ys).items <+: xs.drop (block common xs ys).old ∧
        (block common xs ys).items <+: ys.drop (block common xs ys).new := commonStart_shared ..
    have bounded := length_block_items_le common xs ys
    rw [segments_eq]
    generalize block common xs ys = b at shared bounded
    split
    · exact aligns_changed xs ys
    · rename_i nonempty
      have positive := List.length_pos_iff.mpr nonempty
      have before := ih _ (by rw [List.length_take]; omega) (xs.take b.old) (ys.take b.new) rfl
      have behind := ih _ (by rw [List.length_drop]; omega) (xs.drop (b.old + b.items.length))
        (ys.drop (b.new + b.items.length)) rfl
      have whole := before.append ((Aligns.keep b.items).append behind)
      rwa [take_kept_drop shared.1, take_kept_drop shared.2] at whole

theorem aligns_align (xs ys : List α) : Aligns (align xs ys) xs ys :=
  (aligns_segments (commonItems ys) xs ys).joinKept

/-- The size of the longest block without common elements that ends where two lists end; both are
given last element first. -/
def runSize (common : List α) : List α → List α → Nat
  | x :: u, y :: v => if x == y && !common.contains x then runSize common u v + 1 else 0
  | _, _ => 0

theorem runSize_self (common : List α) (x : α) (u : List α) : runSize common (x :: u) (x :: u) =
    if common.contains x then 0 else runSize common u u + 1 := by
  rw [runSize, BEq.refl x]
  cases common.contains x <;> rfl

/-- No block that ends at an element is longer than the one it has with itself. -/
theorem runSize_le (common u v : List α) :
    runSize common u v ≤ runSize common u u ∧ runSize common u v ≤ runSize common v v := by
  fun_induction runSize common u v with
  | case1 x u y v same ih =>
    simp only [Bool.and_eq_true, Bool.not_eq_true'] at same
    obtain rfl := eq_of_beq same.1
    simp only [runSize_self, same.2, Bool.false_eq_true, if_false]
    omega
  | case2 => exact ⟨Nat.zero_le _, Nat.zero_le _⟩
  | case3 => exact ⟨Nat.zero_le _, Nat.zero_le _⟩

theorem mem_placesFrom {x : α} {ys : List α} {place n : Nat} :
    n ∈ placesFrom place x ys ↔ ∃ m, n = place + m ∧ ys[m]? = some x := by
  induction ys generalizing place with
  | nil => simp [placesFrom]
  | cons y ys ih =>
    have later : n ∈ placesFrom (place + 1) x ys ↔ ∃ m, n = place + (m + 1) ∧ ys[m]? = some x := by
      rw [ih]
      simp only [Nat.add_assoc, Nat.add_comm 1]
    have split : (∃ m, n = place + m ∧ (y :: ys)[m]? = some x) ↔
        (n = place ∧ y = x) ∨ ∃ m, n = place + (m + 1) ∧ ys[m]? = some x := by
      constructor
      · rintro ⟨m, rfl, at'⟩
        cases m with
        | zero => exact .inl ⟨rfl, by simpa using at'⟩
        | succ m => exact .inr ⟨m, rfl, by simpa using at'⟩
      · rintro (⟨rfl, rfl⟩ | ⟨m, rfl, at'⟩)
        · exact ⟨0, rfl, rfl⟩
        · exact ⟨m + 1, rfl, by simpa using at'⟩
    rw [split, placesFrom]
    by_cases same : (x == y) = true
    · obtain rfl := eq_of_beq same
      rw [if_pos same, List.mem_cons, later]
      simp
    · have other : y ≠ x := fun e => same (beq_iff_eq.mpr e.symm)
      rw [if_neg same, later]
      simp [other]

omit [LawfulBEq α] in
theorem placesFrom_ascending (x : α) (ys : List α) (place : Nat) :
    (placesFrom place x ys).Pairwise (· < ·) ∧ ∀ n ∈ placesFrom place x ys, place ≤ n := by
  induction ys generalizing place with
  | nil => exact ⟨.nil, nofun⟩
  | cons y ys ih =>
    obtain ⟨ascending, behind⟩ := ih (place + 1)
    have low : ∀ n ∈ placesFrom (place + 1) x ys, place < n := fun n member => behind n member
    rw [placesFrom]
    split
    · exact ⟨List.pairwise_cons.mpr ⟨low, ascending⟩,
        List.forall_mem_cons.mpr ⟨Nat.le_refl _, fun n member => Nat.le_of_lt (low n member)⟩⟩
    · exact ⟨ascending, fun n member => Nat.le_of_lt (low n member)⟩

theorem dropWhile_dropWhile {β : Type} {p q : β → Bool} (weaker : ∀ a, q a = true → p a = true)
    (l : List β) : (l.dropWhile q).dropWhile p = l.dropWhile p := by
  induction l with
  | nil => rfl
  | cons a l ih =>
    by_cases h : q a = true
    · rw [List.dropWhile_cons_of_pos h, List.dropWhile_cons_of_pos (weaker a h), ih]
    · rw [List.dropWhile_cons_of_neg h]

def sizeAt (runs : List Run) (place : Nat) : Nat :=
  sizeBefore place (runs.dropWhile (·.place + 1 < place))

/-- Since the places ascend, what was dropped for one of them is not needed for the next. -/
theorem nextRuns_eq {places : List Nat} (ascending : places.Pairwise (· < ·)) (runs : List Run) :
    nextRuns runs places = places.map fun place => ⟨place, sizeAt runs place + 1⟩ := by
  induction places generalizing runs with
  | nil => rfl
  | cons place places ih =>
    obtain ⟨low, ascending⟩ := List.pairwise_cons.mp ascending
    rw [nextRuns, ih ascending, List.map_cons, sizeAt]
    congr 1
    refine List.map_congr_left fun next member => ?_
    have less := low next member
    rw [sizeAt, sizeAt, dropWhile_dropWhile]
    intro r early
    simp only [decide_eq_true_eq] at early ⊢
    omega

theorem sizeAt_eq {runs : List Run} (ascending : runs.Pairwise (fun r s => r.place < s.place))
    {r : Run} (member : r ∈ runs) : sizeAt runs (r.place + 1) = r.size := by
  induction runs with
  | nil => cases member
  | cons s runs ih =>
    obtain ⟨low, ascending⟩ := List.pairwise_cons.mp ascending
    unfold sizeAt
    rcases List.mem_cons.mp member with rfl | later
    · rw [List.dropWhile_cons_of_neg (by simp)]
      simp [sizeBefore]
    · have less := low r later
      rw [List.dropWhile_cons_of_pos (by simpa using less)]
      exact ih ascending later

theorem sizeAt_eq_zero {runs : List Run} {place : Nat} (none : ∀ r ∈ runs, r.place + 1 ≠ place) :
    sizeAt runs place = 0 := by
  unfold sizeAt
  cases left : runs.dropWhile (·.place + 1 < place) with
  | nil => rfl
  | cons r rest =>
    have member : r ∈ runs := (List.dropWhile_suffix _).subset (left ▸ List.mem_cons_self ..)
    exact if_neg (none r member)

/-- The runs at an element of the first list, which with those before it is given last first: one
for every place of the second list where a block of at least one element ends. -/
structure Row (common u ys : List α) (runs : List Run) : Prop where
  ascending : runs.Pairwise (fun r s => r.place < s.place)
  mem : ∀ r, r ∈ runs ↔ 0 < r.size ∧ r.place ≤ ys.length ∧
    r.size = runSize common u (ys.take r.place).reverse

omit [LawfulBEq α] in
theorem row_nil (common ys : List α) : Row common [] ys [] := by
  refine ⟨.nil, fun r => ⟨nofun, fun ⟨positive, _, size⟩ => ?_⟩⟩
  rw [size, runSize] at positive
  · cases positive
  · nofun

namespace Row

variable {common u ys : List α} {runs : List Run} (row : Row common u ys runs)
include row

omit [LawfulBEq α] in
theorem sizeAt_succ {m : Nat} (inside : m ≤ ys.length) :
    sizeAt runs (m + 1) = runSize common u (ys.take m).reverse := by
  by_cases positive : 0 < runSize common u (ys.take m).reverse
  · exact sizeAt_eq row.ascending ((row.mem ⟨m, _⟩).mpr ⟨positive, inside, rfl⟩)
  · have zero : runSize common u (ys.take m).reverse = 0 := by omega
    rw [zero]
    refine sizeAt_eq_zero fun r member here => ?_
    obtain ⟨filled, _, size⟩ := (row.mem r).mp member
    obtain rfl : r.place = m := by omega
    omega

theorem next (x : α) : Row common (x :: u) ys
    (if common.contains x then [] else nextRuns runs (placesFrom 1 x ys)) := by
  have last : ∀ m y, ys[m]? = some y →
      (ys.take (m + 1)).reverse = y :: (ys.take m).reverse := fun m y found => by
    rw [List.take_add_one, found, List.reverse_append]
    rfl
  cases popular : common.contains x with
  | true =>
    -- A common element ends no block.
    refine ⟨.nil, fun r => ⟨nofun, fun ⟨positive, _, size⟩ => ?_⟩⟩
    have none : ∀ v, runSize common (x :: u) v = 0 := by
      intro v
      have bound := (runSize_le common (x :: u) v).1
      rw [runSize_self, popular, if_pos rfl] at bound
      omega
    rw [size, none] at positive
    cases positive
  | false =>
    obtain ⟨ascending, _⟩ := placesFrom_ascending x ys 1
    rw [if_neg (by decide), nextRuns_eq ascending]
    refine ⟨List.pairwise_map.mpr ascending, fun r => ?_⟩
    rw [List.mem_map]
    constructor
    · rintro ⟨place, found, rfl⟩
      obtain ⟨m, rfl, at'⟩ := mem_placesFrom.mp found
      obtain ⟨inside, _⟩ := List.getElem?_eq_some_iff.mp at'
      refine ⟨Nat.succ_pos _, by dsimp only; omega, ?_⟩
      dsimp only
      rw [Nat.add_comm 1 m, row.sizeAt_succ (Nat.le_of_lt inside), last m x at', runSize,
        BEq.refl x, popular]
      rfl
    · rintro ⟨positive, inside, size⟩
      obtain ⟨place, s⟩ := r
      dsimp only at positive inside size
      cases place with
      | zero =>
        rw [size] at positive
        cases positive
      | succ m =>
        have at' : ys[m]? = some ys[m] := List.getElem?_eq_getElem inside
        rw [last m _ at', runSize] at size
        split at size
        · rename_i same
          simp only [Bool.and_eq_true] at same
          rw [← eq_of_beq same.1] at at'
          refine ⟨m + 1, mem_placesFrom.mpr ⟨m, Nat.add_comm m 1, at'⟩, ?_⟩
          rw [row.sizeAt_succ (Nat.le_of_lt inside), size]
        · omega

end Row

theorem foldl_improve {runs : List Run} {b : Best} (small : ∀ r ∈ runs, r.size ≤ b.size)
    (oldEnd : Nat) : runs.foldl (Best.improve oldEnd) b = b := by
  induction runs with
  | nil => rfl
  | cons r runs ih =>
    obtain ⟨first, others⟩ := List.forall_mem_cons.mp small
    rw [List.foldl_cons, Best.improve, if_neg (Nat.not_lt.mpr first), ih others]

/-- The best block up to an element of a list, when both lists are the same: it ends at the same
place on both sides, and no block of an element with itself is longer. -/
structure Diagonal (common ys : List α) (k : Nat) (b : Best) : Prop where
  same : b.oldEnd = b.newEnd
  inside : b.oldEnd ≤ ys.length
  longest : ∀ n ≤ k, runSize common (ys.take n).reverse (ys.take n).reverse ≤ b.size

/-- Off the diagonal nothing is better: before it, the block was found at its earlier end; behind
it, the block of the element with itself came first. -/
theorem Diagonal.next {common ys u : List α} {k : Nat} {b : Best} {runs : List Run}
    (h : Diagonal common ys k b) (row : Row common u ys runs) (at' : (ys.take (k + 1)).reverse = u)
    (inside : k < ys.length) :
    Diagonal common ys (k + 1) (runs.foldl (Best.improve (k + 1)) b) := by
  have bounded : ∀ r ∈ runs, r.size ≤ runSize common u u := fun r member => by
    rw [((row.mem r).mp member).2.2]
    exact (runSize_le ..).1
  by_cases better : b.size < runSize common u u
  · -- The block of the element with itself is the first that is better.
    have found : (⟨k + 1, runSize common u u⟩ : Run) ∈ runs :=
      (row.mem _).mpr ⟨by dsimp only; omega, inside, by dsimp only; rw [at']⟩
    obtain ⟨before, behind, split⟩ := List.append_of_mem found
    have ascending := row.ascending
    rw [split, List.pairwise_append] at ascending
    have early : ∀ r ∈ before, r.size ≤ b.size := fun r member => by
      have place : r.place < k + 1 := ascending.2.2 r member _ (List.mem_cons_self ..)
      rw [((row.mem r).mp (split ▸ List.mem_append_left _ member)).2.2]
      exact Nat.le_trans (runSize_le ..).2 (h.longest r.place (by omega))
    have late : ∀ r ∈ behind, r.size ≤ runSize common u u := fun r member =>
      bounded r (split ▸ List.mem_append_right _ (List.mem_cons_of_mem _ member))
    rw [split, List.foldl_append, foldl_improve early, List.foldl_cons, Best.improve, if_pos better,
      foldl_improve late]
    refine ⟨rfl, inside, fun n upTo => ?_⟩
    rcases Nat.lt_or_eq_of_le upTo with less | rfl
    · exact Nat.le_trans (h.longest n (by omega)) (Nat.le_of_lt better)
    · exact Nat.le_of_eq (by rw [at'])
  · rw [foldl_improve fun r member => Nat.le_trans (bounded r member) (Nat.le_of_not_lt better)]
    refine ⟨h.same, h.inside, fun n upTo => ?_⟩
    rcases Nat.lt_or_eq_of_le upTo with less | rfl
    · exact h.longest n (by omega)
    · rw [at']
      exact Nat.le_of_not_lt better

theorem bestFrom_diagonal {common ys u v : List α} {runs : List Run} {b : Best}
    (split : ys = u.reverse ++ v) (row : Row common u ys runs)
    (h : Diagonal common ys u.length b) :
    Diagonal common ys ys.length (bestFrom common ys (u.length + 1) runs b v) := by
  induction v generalizing u runs b with
  | nil =>
    have all : ys.length = u.length := by rw [split, List.append_nil, List.length_reverse]
    rw [all]
    exact h
  | cons x v ih =>
    have split' : ys = (x :: u).reverse ++ v := by rw [split, List.reverse_cons]; simp
    have at' : (ys.take (u.length + 1)).reverse = x :: u := by
      rw [split', List.take_left' (by simp), List.reverse_reverse]
    have inside : u.length < ys.length := by
      rw [split, List.length_append, List.length_reverse, List.length_cons]
      omega
    exact ih split' (row.next x) (h.next (row.next x) at' inside)

theorem block_self (common xs : List α) : block common xs xs = ⟨0, 0, xs⟩ := by
  have start : Diagonal common xs 0 ⟨0, 0, 0⟩ :=
    ⟨rfl, Nat.zero_le _, fun n none => by rw [Nat.le_zero.mp none]; exact Nat.le_refl 0⟩
  have found : Diagonal common xs xs.length (bestFrom common xs 1 [] ⟨0, 0, 0⟩ xs) :=
    bestFrom_diagonal (u := []) rfl (row_nil common xs) start
  unfold block
  generalize bestFrom common xs 1 [] ⟨0, 0, 0⟩ xs = b at found
  have inside : b.oldEnd - b.size ≤ xs.length := Nat.le_trans (Nat.sub_le ..) found.inside
  have grown : ∀ t : List α, commonEndLength t t = t.length := fun t => by
    rw [commonEndLength, commonStart_self, List.length_reverse]
  simp only [← found.same, grown, List.length_take, Nat.min_eq_left inside, Nat.sub_self,
    List.drop_zero, commonStart_self]

theorem segments_self (common xs : List α) :
    segments common xs xs = if xs = [] then [] else [.keep xs] := by
  have none : segments common ([] : List α) [] = [] := by
    rw [segments_eq, block_self]
    rfl
  by_cases empty : xs = []
  · rw [empty, if_pos rfl, none]
  · rw [if_neg empty, segments_eq, block_self, if_neg empty]
    simp only [List.take_zero, Nat.zero_add, List.drop_length, none, List.nil_append]

theorem align_self (xs : List α) : align xs xs = if xs = [] then [] else [.keep xs] := by
  rw [align, segments_self]
  split
  · rfl
  · rfl

end RecorderStubs.Diff
