import RecorderStubs.Proofs.Inert
import RecorderStubs.Source.Method

/-! The keywords of a text. Up to a character that is neither part of a word nor blank, keywords do
not depend on what follows it; and no two keywords share a character. -/
namespace RecorderStubs

theorem exists_unsafe (t : Text) : ∃ mark, Optionally unsafeWord mark ∧
    unsafeSize t = mark.length ∧ mark <+: t := by
  cases found : literal? unsafeWord t with
  | none => exact ⟨[], .inl rfl, by simp [unsafeSize, found], List.nil_prefix⟩
  | some rest =>
    cases blanks : rest.takeWhile isBlank with
    | nil => exact ⟨[], .inl rfl, by simp [unsafeSize, found, blanks], List.nil_prefix⟩
    | cons c gap =>
      have run : RunOf isBlank (c :: gap) := ⟨by simp, blanks ▸ allOf_takeWhile isBlank rest⟩
      refine ⟨unsafeWord ++ c :: gap, .inr ⟨c :: gap, run, rfl⟩, ?_, ?_⟩
      · simp [unsafeSize, found, blanks]
      · rw [literal?_eq_some.mp found, ← blanks]
        exact (List.prefix_append_right_inj _).mpr (List.takeWhile_prefix isBlank)

theorem unsafeSize_append {mark rest : Text} (h : Optionally unsafeWord mark) :
    unsafeSize (mark ++ (functionWord ++ rest)) = mark.length := by
  rcases h with rfl | ⟨gap, run, rfl⟩
  · rfl
  · have solid : Stops isBlank (functionWord ++ rest) := stops_cons.mpr (by decide)
    obtain ⟨c, u, rfl, _⟩ := run.head
    unfold unsafeSize
    rw [List.append_assoc, literal?_append]
    simp only [takeWhile_run run.2 solid, List.length_append]

theorem keyword?_eq_some {t : Text} {size : Nat} :
    keyword? t = some size ↔ ∃ mark rest, Optionally unsafeWord mark ∧ size = mark.length ∧
      t = mark ++ (functionWord ++ rest) ∧ Stops isWord rest := by
  unfold keyword?
  simp only [Option.bind_eq_bind, Option.bind_eq_some_iff]
  constructor
  · rintro ⟨rest, found, out⟩
    obtain ⟨mark, marked, long, first⟩ := exists_unsafe t
    have split := (List.prefix_iff_eq_append.mp first).symm
    cases word : startsWord rest with
    | true => simp [word] at out
    | false =>
      simp only [word, Bool.false_eq_true, if_false, Option.some.injEq] at out
      rw [← long, literal?_eq_some.mp found] at split
      exact ⟨mark, rest, marked, out ▸ long, split, startsWord_eq_false.mp word⟩
  · rintro ⟨mark, rest, marked, rfl, rfl, stop⟩
    refine ⟨rest, ?_, ?_⟩
    · rw [unsafeSize_append marked, List.drop_left]
      exact literal?_append ..
    · rw [startsWord_eq_false.mpr stop, unsafeSize_append marked]
      rfl

theorem mark_free {c : Char} (word : isWord c = false) (solid : isBlank c = false) {mark : Text}
    (h : Optionally unsafeWord mark) : c ∉ mark ++ functionWord := by
  have letters : AllOf isWord (unsafeWord ++ functionWord) := by decide
  intro member
  rcases h with rfl | ⟨gap, run, rfl⟩
  · rw [letters c (List.mem_append_right _ member)] at word
    cases word
  · rcases List.mem_append.mp member with member | member
    · rcases List.mem_append.mp member with member | member
      · rw [letters c (List.mem_append_left _ member)] at word
        cases word
      · rw [run.2 c member] at solid
        cases solid
    · rw [letters c (List.mem_append_right _ member)] at word
      cases word

theorem keyword?_barrier {c : Char} (word : isWord c = false) (solid : isBlank c = false)
    {a u : Text} {size : Nat} (h : keyword? (a ++ c :: u) = some size) :
    size + 2 ≤ a.length ∧ ∀ v, keyword? (a ++ c :: v) = some size := by
  obtain ⟨mark, rest, marked, rfl, same, stop⟩ := keyword?_eq_some.mp h
  rw [← List.append_assoc] at same
  obtain ⟨d, rfl, rfl⟩ := prefix_before same.symm (mark_free word solid marked)
  refine ⟨?_, fun v => keyword?_eq_some.mpr ⟨mark, d ++ c :: v, marked, rfl, ?_, ?_⟩⟩
  · simp only [List.length_append, functionWord, List.length_cons, List.length_nil]
    omega
  · simp only [List.append_assoc]
  · cases d with
    | nil => exact stops_cons.mpr word
    | cons e d => exact stops_cons.mpr (stops_cons.mp stop)

theorem keyword?_past_barrier {c : Char} (word : isWord c = false) (solid : isBlank c = false)
    (a u v : Text) : keyword? (a ++ c :: u) = keyword? (a ++ c :: v) := by
  refine Option.ext fun size => ⟨fun h => ?_, fun h => ?_⟩
  · exact (keyword?_barrier word solid h).2 v
  · exact (keyword?_barrier word solid h).2 u

theorem keywordsFrom_none {offset : Nat} {afterWord : Bool} {c : Char} {t : Text}
    (h : (if afterWord then none else keyword? (c :: t)) = none) :
    keywordsFrom offset 0 afterWord (c :: t) = keywordsFrom (offset + 1) 0 (isWord c) t := by
  rw [keywordsFrom]
  simp only [h]

theorem keywordsFrom_some {offset size : Nat} {afterWord : Bool} {c : Char} {t : Text}
    (h : (if afterWord then none else keyword? (c :: t)) = some size) :
    keywordsFrom offset 0 afterWord (c :: t) =
      (offset, offset + size) :: keywordsFrom (offset + 1) (size + 1) (isWord c) t := by
  rw [keywordsFrom]
  simp only [h]

theorem keyword?_of_free {afterWord : Bool} {t : Text} {size : Nat}
    (h : (if afterWord then none else keyword? t) = some size) : keyword? t = some size := by
  cases afterWord with
  | true => cases h
  | false => exact h

/-- In a text that starts at `offset`, a keyword behind the first `skip` characters. -/
def KeywordIn (offset skip start function : Nat) (t : Text) : Prop :=
  ∃ a mark rest, Optionally unsafeWord mark ∧ Stops isWord rest ∧
    t = a ++ (mark ++ (functionWord ++ rest)) ∧ start = offset + a.length ∧
    function = start + mark.length ∧ skip ≤ a.length

theorem KeywordIn.cons {offset skip skip' start function : Nat} {t : Text}
    (h : KeywordIn (offset + 1) skip' start function t) (le : skip ≤ skip' + 1) (c : Char) :
    KeywordIn offset skip start function (c :: t) := by
  obtain ⟨a, mark, rest, marked, stop, rfl, rfl, rfl, inside⟩ := h
  refine ⟨c :: a, mark, rest, marked, stop, rfl, ?_, rfl, ?_⟩ <;>
    rw [List.length_cons] <;> omega

theorem mem_keywordsFrom {offset skip start function : Nat} {afterWord : Bool} {t : Text}
    (h : (start, function) ∈ keywordsFrom offset skip afterWord t) :
    KeywordIn offset skip start function t := by
  induction t generalizing offset skip afterWord with
  | nil => cases h
  | cons c t ih =>
    cases skip with
    | succ skip => exact (ih h).cons (Nat.le_refl _) c
    | zero =>
      cases found : (if afterWord then none else keyword? (c :: t)) with
      | none =>
        rw [keywordsFrom_none found] at h
        exact (ih h).cons (Nat.zero_le _) c
      | some size =>
        rw [keywordsFrom_some found] at h
        rcases List.mem_cons.mp h with same | h
        · cases same
          obtain ⟨mark, rest, marked, rfl, split, stop⟩ :=
            keyword?_eq_some.mp (keyword?_of_free found)
          exact ⟨[], mark, rest, marked, stop, split, rfl, rfl, Nat.le_refl _⟩
        · exact (ih h).cons (Nat.zero_le _) c

theorem keywordsFrom_pairwise (offset skip : Nat) (afterWord : Bool) (t : Text) :
    (keywordsFrom offset skip afterWord t).Pairwise (fun k l => k.2 + 2 ≤ l.1) := by
  induction t generalizing offset skip afterWord with
  | nil => exact .nil
  | cons c t ih =>
    cases skip with
    | succ skip => exact ih (offset + 1) skip (isWord c)
    | zero =>
      cases found : (if afterWord then none else keyword? (c :: t)) with
      | none =>
        rw [keywordsFrom_none found]
        exact ih (offset + 1) 0 (isWord c)
      | some size =>
        rw [keywordsFrom_some found]
        refine List.pairwise_cons.mpr ⟨fun l member => ?_, ih (offset + 1) (size + 1) (isWord c)⟩
        obtain ⟨a, mark, rest, _, _, _, start, _, inside⟩ := mem_keywordsFrom member
        dsimp only
        omega

theorem keywordsFrom_free {t : Text} (h : 'f' ∉ t) (offset skip : Nat) (afterWord : Bool) :
    keywordsFrom offset skip afterWord t = [] := by
  refine List.eq_nil_iff_forall_not_mem.mpr fun k member => h ?_
  obtain ⟨a, mark, rest, _, _, rfl, _⟩ := mem_keywordsFrom member
  simp [functionWord]

/-- A character that is neither part of a word nor blank separates the keywords before it from
those after it. -/
theorem keywordsFrom_append {c : Char} (word : isWord c = false) (solid : isBlank c = false)
    (a u : Text) (offset skip : Nat) (afterWord : Bool) (inside : skip ≤ a.length) :
    keywordsFrom offset skip afterWord (a ++ c :: u) =
      keywordsFrom offset skip afterWord (a ++ [c]) ++
        keywordsFrom (offset + (a.length + 1)) 0 false u := by
  induction a generalizing offset skip afterWord with
  | nil =>
    obtain rfl : skip = 0 := by simpa using inside
    have none : ∀ v, (if afterWord then none else keyword? (c :: v)) = none := fun v => by
      cases found : (if afterWord then none else keyword? (c :: v)) with
      | none => rfl
      | some size =>
        have short := (keyword?_barrier (a := []) word solid (keyword?_of_free found)).1
        simp at short
    rw [List.nil_append, List.nil_append, keywordsFrom_none (none u), keywordsFrom_none (none []),
      word]
    rfl
  | cons d a ih =>
    have next : offset + ((d :: a).length + 1) = offset + 1 + (a.length + 1) := by
      rw [List.length_cons]
      omega
    rw [List.length_cons] at inside
    rw [next]
    cases skip with
    | succ skip => exact ih (offset + 1) skip (isWord d) (by omega)
    | zero =>
      -- A keyword ends before the character that separates, so what follows does not matter.
      have same : keyword? (d :: (a ++ c :: u)) = keyword? (d :: (a ++ [c])) :=
        keyword?_past_barrier word solid (d :: a) u []
      rw [List.cons_append, List.cons_append]
      cases found : (if afterWord then none else keyword? (d :: (a ++ c :: u))) with
      | none =>
        have found' := found
        rw [same] at found'
        rw [keywordsFrom_none found, keywordsFrom_none found']
        exact ih (offset + 1) 0 (isWord d) (Nat.zero_le _)
      | some size =>
        have found' := found
        rw [same] at found'
        have short := (keyword?_barrier (a := d :: a) word solid (keyword?_of_free found)).1
        rw [List.length_cons] at short
        rw [keywordsFrom_some found, keywordsFrom_some found', List.cons_append,
          ih (offset + 1) (size + 1) (isWord d) (by omega)]

theorem keywordsFrom_shift (d offset skip : Nat) (afterWord : Bool) (t : Text) :
    keywordsFrom (d + offset) skip afterWord t =
      (keywordsFrom offset skip afterWord t).map (fun k => (d + k.1, d + k.2)) := by
  induction t generalizing offset skip afterWord with
  | nil => rfl
  | cons c t ih =>
    cases skip with
    | succ skip => exact ih (offset + 1) skip (isWord c)
    | zero =>
      cases found : (if afterWord then none else keyword? (c :: t)) with
      | none =>
        rw [keywordsFrom_none found, keywordsFrom_none found]
        exact ih (offset + 1) 0 (isWord c)
      | some size =>
        rw [keywordsFrom_some found, keywordsFrom_some found, List.map_cons, ← ih]
        simp only [Nat.add_assoc]

end RecorderStubs
