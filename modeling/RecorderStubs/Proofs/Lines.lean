import Mathlib.Data.List.GetD
import RecorderStubs.Proofs.Listing
import RecorderStubs.Proofs.Slot

/-! The line of a method, and where that line leads. A listing counts newlines, a cursor counts
lines, which end at every line break. So the position of a method leads back to it just when the
breaks before it are newlines, alone or behind carriage returns; only right before the method, in
its own line, one other break does no harm. -/
namespace RecorderStubs

/-- How many line breaks are not counted with the newlines. -/
def strayBreaks : Text → Nat
  | [] => 0
  | '\r' :: '\n' :: t => strayBreaks t
  | c :: t => (if c ≠ '\n' ∧ c ∈ lineBreaks then 1 else 0) + strayBreaks t

/-- The lines before a place are as many as the newlines, and the place can still be reached on its
own line. -/
def LinesAgree (x : Text) : Prop :=
  strayBreaks x = 0 ∨
    ∃ y b, x = y ++ [b] ∧ strayBreaks y = 0 ∧ b ∈ lineBreaks ∧ b ≠ '\n' ∧ b ≠ '\r'

/-- A text that ends with a newline, if it is not empty. -/
def Ended (t : Text) : Prop := t = [] ∨ t.getLast? = some '\n'

section
variable {c : Char} {t : Text}

theorem Ended.tail (h : Ended (c :: t)) : Ended t ∧ (t = [] → c = '\n') := by
  rcases h with empty | last
  · cases empty
  · cases t with
    | nil => exact ⟨.inl rfl, fun _ => by simpa using last⟩
    | cons d t => exact ⟨.inr (by simpa using last), nofun⟩

/-- The character is no carriage return right before a newline. -/
def Alone (c : Char) (t : Text) : Prop := ∀ u, c = '\r' → t ≠ '\n' :: u

theorem plain_ne {d : Char} (plain : c ∉ lineBreaks) (broken : d ∈ lineBreaks) : c ≠ d := by
  rintro rfl
  exact plain broken

theorem alone_of_plain (plain : c ∉ lineBreaks) : Alone c t := by
  intro u same
  exact absurd same (plain_ne plain (by decide))

theorem splitLines_break (alone : Alone c t) (broken : c ∈ lineBreaks) :
    splitLines (c :: t) = [c] :: splitLines t := by
  rw [splitLines, if_pos (by simpa using broken)]
  exact alone

theorem splitLines_plain (plain : c ∉ lineBreaks) : splitLines (c :: t) =
    (c :: (splitLines t).headD []) :: (splitLines t).tail := by
  rw [splitLines, if_neg (by simpa using plain)]
  · cases splitLines t with
    | nil => rfl
    | cons l ls => rfl
  · exact alone_of_plain plain

theorem strayBreaks_alone (alone : Alone c t) :
    strayBreaks (c :: t) = (if c ≠ '\n' ∧ c ∈ lineBreaks then 1 else 0) + strayBreaks t := by
  rw [strayBreaks]
  exact alone

theorem strayBreaks_plain (plain : c ∉ lineBreaks) : strayBreaks (c :: t) = strayBreaks t := by
  rw [strayBreaks_alone (alone_of_plain plain), if_neg (fun both => plain both.2), Nat.zero_add]

end

@[elab_as_elim]
theorem break_induction {motive : Text → Prop} (nil : motive [])
    (pair : ∀ t, motive t → motive ('\r' :: '\n' :: t))
    (broken : ∀ c t, Alone c t → c ∈ lineBreaks → motive t → motive (c :: t))
    (plain : ∀ c t, c ∉ lineBreaks → motive t → motive (c :: t)) (t : Text) : motive t := by
  fun_induction strayBreaks t with
  | case1 => exact nil
  | case2 t ih => exact pair t ih
  | case3 c t alone ih =>
    by_cases found : c ∈ lineBreaks
    · exact broken c t alone found ih
    · exact plain c t found ih

theorem splitLines_flatten (t : Text) : (splitLines t).flatten = t := by
  induction t using break_induction with
  | nil => rfl
  | pair t ih => simp [splitLines, ih]
  | broken c t alone broken ih => simp [splitLines_break alone broken, ih]
  | plain c t plain ih =>
    rw [splitLines_plain plain, List.flatten_cons]
    cases lines : splitLines t with
    | nil =>
      rw [lines] at ih
      rw [← ih]
      rfl
    | cons l ls =>
      rw [lines] at ih
      rw [← ih]
      rfl

theorem splitLines_nonempty {t l : Text} (h : l ∈ splitLines t) : l ≠ [] := by
  induction t using break_induction with
  | nil => cases h
  | pair t ih =>
    rcases List.mem_cons.mp h with rfl | later
    · nofun
    · exact ih later
  | broken c t alone broken ih =>
    rw [splitLines_break alone broken] at h
    rcases List.mem_cons.mp h with rfl | later
    · nofun
    · exact ih later
  | plain c t plain ih =>
    rw [splitLines_plain plain] at h
    rcases List.mem_cons.mp h with rfl | later
    · nofun
    · exact ih (List.mem_of_mem_tail later)

theorem splitLines_ne_nil {t : Text} (h : t ≠ []) : splitLines t ≠ [] := by
  intro none
  apply h
  rw [← splitLines_flatten t, none]
  rfl

theorem Ended.lines {c : Char} {t : Text} (h : Ended (c :: t)) (plain : c ∉ lineBreaks) :
    ∃ l ls, splitLines t = l :: ls := by
  apply List.exists_cons_of_ne_nil
  apply splitLines_ne_nil
  intro none
  exact plain_ne plain (by decide) (h.tail.2 none)

theorem Alone.append {c : Char} {t : Text} (h : Alone c t) (last : t = [] → c = '\n') (u : Text) :
    Alone c (t ++ u) := by
  intro v same behind
  cases t with
  | nil =>
    rw [last rfl] at same
    exact absurd same (by decide)
  | cons d t =>
    obtain ⟨rfl, _⟩ := List.cons.inj behind
    exact h t same rfl

theorem splitLines_append {y : Text} (ended : Ended y) (u : Text) :
    splitLines (y ++ u) = splitLines y ++ splitLines u := by
  induction y using break_induction with
  | nil => rfl
  | pair t ih =>
    simp only [List.cons_append, splitLines, ih ended.tail.1.tail.1]
  | broken c t alone broken ih =>
    obtain ⟨ended, last⟩ := ended.tail
    rw [List.cons_append, splitLines_break (alone.append last u) broken, ih ended,
      splitLines_break alone broken, List.cons_append]
  | plain c t plain ih =>
    obtain ⟨l, ls, lines⟩ := ended.lines plain
    rw [List.cons_append, splitLines_plain plain, splitLines_plain plain, ih ended.tail.1, lines]
    rfl

theorem strayBreaks_append {y : Text} (ended : Ended y) (u : Text) :
    strayBreaks (y ++ u) = strayBreaks y + strayBreaks u := by
  induction y using break_induction with
  | nil => simp [strayBreaks]
  | pair t ih => simp only [List.cons_append, strayBreaks, ih ended.tail.1.tail.1]
  | broken c t alone _ ih =>
    obtain ⟨ended, last⟩ := ended.tail
    rw [List.cons_append, strayBreaks_alone (alone.append last u), ih ended,
      strayBreaks_alone alone, Nat.add_assoc]
  | plain c t plain ih =>
    rw [List.cons_append, strayBreaks_plain plain, strayBreaks_plain plain, ih ended.tail.1]

theorem length_splitLines {y : Text} (ended : Ended y) :
    (splitLines y).length = y.count '\n' + strayBreaks y := by
  induction y using break_induction with
  | nil => rfl
  | pair t ih =>
    have rest := ih ended.tail.1.tail.1
    simp [splitLines, strayBreaks, rest]
    omega
  | broken c t alone broken ih =>
    have rest := ih ended.tail.1
    rw [splitLines_break alone broken, strayBreaks_alone alone, List.length_cons, rest,
      List.count_cons]
    by_cases newline : c = '\n'
    · simp [newline]
      omega
    · simp [newline, broken]
      omega
  | plain c t plain ih =>
    obtain ⟨l, ls, lines⟩ := ended.lines plain
    have rest := ih ended.tail.1
    have other : c ≠ '\n' := plain_ne plain (by decide)
    rw [lines] at rest
    rw [splitLines_plain plain, strayBreaks_plain plain, List.count_cons_of_ne other, lines]
    exact rest

theorem lineContent_cons {c : Char} (plain : c ∉ lineBreaks) (l : Text) :
    lineContent (c :: l) = c :: lineContent l := by
  have newline : c ≠ '\n' := plain_ne plain (by decide)
  have carriage : c ≠ '\r' := plain_ne plain (by decide)
  unfold lineContent
  rw [List.reverse_cons, List.dropWhile_append]
  split
  · rename_i none
    simp [List.isEmpty_iff.mp none, newline, carriage]
  · rw [List.reverse_append]
    rfl

theorem linesAgree_plain {c : Char} {z : Text} (plain : c ∉ lineBreaks) :
    LinesAgree (c :: z) ↔ LinesAgree z := by
  unfold LinesAgree
  rw [strayBreaks_plain plain]
  constructor
  · rintro (none | ⟨y, b, split, none, broken, others⟩)
    · exact .inl none
    · cases y with
      | nil =>
        obtain ⟨rfl, _⟩ := List.cons.inj split
        exact absurd broken plain
      | cons d y =>
        obtain ⟨rfl, rfl⟩ := List.cons.inj split
        rw [strayBreaks_plain plain] at none
        exact .inr ⟨y, b, rfl, none, broken, others⟩
  · rintro (none | ⟨y, b, rfl, none, broken, others⟩)
    · exact .inl none
    · exact .inr ⟨c :: y, b, rfl, by rw [strayBreaks_plain plain, none], broken, others⟩

theorem linesAgree_broken {c : Char} {z : Text} (alone : Alone c z) (broken : c ∈ lineBreaks)
    (other : c ≠ '\n') : LinesAgree (c :: z) ↔ z = [] ∧ c ≠ '\r' := by
  have stray : ∀ y, Alone c y → strayBreaks (c :: y) ≠ 0 := by
    intro y alone
    rw [strayBreaks_alone alone, if_pos ⟨other, broken⟩]
    omega
  constructor
  · rintro (none | ⟨y, b, split, none, _, _, last⟩)
    · exact absurd none (stray z alone)
    · cases y with
      | nil =>
        obtain ⟨rfl, rfl⟩ := List.cons.inj split
        exact ⟨rfl, last⟩
      | cons d y =>
        obtain ⟨rfl, rfl⟩ := List.cons.inj split
        refine absurd none (stray y ?_)
        rintro u same rfl
        exact alone (u ++ [b]) same rfl
  · rintro ⟨rfl, last⟩
    exact .inr ⟨[], c, rfl, rfl, broken, other, last⟩

theorem reaches_iff {z r : Text} {c : Char} (free : '\n' ∉ z) (other : c ≠ '\n') :
    z.length ≤ (lineContent ((splitLines (z ++ c :: r)).headD [])).length ↔ LinesAgree z := by
  -- A line break that is no newline ends the line, and the place is behind it unless the break is
  -- its own last character.
  induction z with
  | nil => exact ⟨fun _ => .inl rfl, fun _ => Nat.zero_le _⟩
  | cons d z ih =>
    simp only [List.mem_cons, not_or] at free
    obtain ⟨first, free⟩ := free
    by_cases broken : d ∈ lineBreaks
    · have alone : Alone d z := by
        rintro u _ rfl
        exact free (List.mem_cons_self ..)
      have apart : Alone d (z ++ c :: r) := by
        intro u same behind
        cases z with
        | nil => exact other (List.cons.inj behind).1
        | cons e z => exact alone z same (by rw [(List.cons.inj behind).1])
      rw [linesAgree_broken alone broken (Ne.symm first), List.cons_append,
        splitLines_break apart broken, List.headD_cons]
      by_cases last : d = '\r'
      · subst last
        exact ⟨fun short => absurd short (Nat.not_succ_le_zero _), fun ⟨_, no⟩ => absurd rfl no⟩
      · have kept : lineContent [d] = [d] := by
          simp [lineContent, Ne.symm first, last]
        rw [kept, List.length_cons, List.length_singleton]
        constructor
        · intro short
          exact ⟨List.eq_nil_of_length_eq_zero (by omega), last⟩
        · rintro ⟨rfl, _⟩
          exact Nat.le_refl _
    · rw [linesAgree_plain broken, List.cons_append, splitLines_plain broken, List.headD_cons,
        lineContent_cons broken, List.length_cons, List.length_cons, Nat.add_le_add_iff_right]
      exact ih free

theorem linesAgree_append {y z : Text} (ended : Ended y) :
    LinesAgree (y ++ z) ↔ strayBreaks y = 0 ∧ LinesAgree z := by
  constructor
  · rintro (none | ⟨w, b, split, none, broken, newline, last⟩)
    · rw [strayBreaks_append ended] at none
      exact ⟨by omega, .inl (by omega)⟩
    · rcases List.eq_nil_or_concat z with rfl | ⟨z, e, rfl⟩
      · rw [List.append_nil] at split
        subst split
        rcases ended with empty | ends
        · simp at empty
        · exact absurd (by simpa using ends) newline
      · rw [List.concat_eq_append, ← List.append_assoc] at split
        obtain ⟨rfl, same⟩ := List.append_inj' split rfl
        obtain rfl := List.head_eq_of_cons_eq same
        rw [strayBreaks_append ended] at none
        rw [List.concat_eq_append]
        exact ⟨by omega, .inr ⟨z, e, rfl, by omega, broken, newline, last⟩⟩
  · rintro ⟨above, none | ⟨w, b, rfl, none, others⟩⟩
    · exact .inl (by rw [strayBreaks_append ended, above, none])
    · refine .inr ⟨y ++ w, b, by simp, ?_, others⟩
      rw [strayBreaks_append ended, above, none]

theorem exists_ended (x : Text) : ∃ y z, x = y ++ z ∧ Ended y ∧ '\n' ∉ z := by
  obtain ⟨above, below, rfl, line, place⟩ := exists_last_line x
  rcases place with ⟨rfl, free⟩ | newline
  · exact ⟨[], above, by simp, .inl rfl, free⟩
  · exact ⟨above, below, rfl, .inr newline, line⟩

theorem Ended.stops {y : Text} (h : Ended y) : Stops (· != '\n') y.reverse := by
  rcases h with rfl | newline
  · exact stops_nil _
  · obtain ⟨w, rfl⟩ := List.getLast?_eq_some_iff.mp newline
    rw [List.reverse_append]
    exact stops_cons.mpr (by decide)

theorem positionOf_append {y z : Text} (ended : Ended y) (free : '\n' ∉ z) (u : Text) :
    positionOf ((y ++ z) ++ u) (y ++ z).length = ⟨y.count '\n' + 1, z.length + 1⟩ := by
  have before : textBefore ((y ++ z) ++ u) (y ++ z).length = y ++ z := by
    rw [textBefore, Int.toNat_natCast, List.take_left]
  have run : AllOf (· != '\n') z.reverse := by
    intro c member
    have other : c ≠ '\n' := fun same => free (same ▸ List.mem_reverse.mp member)
    simpa using other
  have line : (y ++ z).reverse.takeWhile (· != '\n') = z.reverse := by
    rw [List.reverse_append]
    exact takeWhile_run run ended.stops
  simp only [positionOf, lineOf, before, line, List.length_reverse, List.count_append,
    List.count_eq_zero_of_not_mem free, Nat.add_zero]

theorem length_line_le (t : Text) (n : Nat) :
    ((splitLines t).take n).flatten.length + ((splitLines t).getD n []).length ≤ t.length := by
  have split : ((splitLines t).take n).flatten ++ ((splitLines t).drop n).flatten = t := by
    rw [← List.flatten_append, List.take_append_drop, splitLines_flatten]
  have sizes := congrArg List.length split
  rw [List.length_append] at sizes
  by_cases few : n < (splitLines t).length
  · rw [List.drop_eq_getElem_cons few, List.flatten_cons, List.length_append] at sizes
    rw [List.getD_eq_getElem _ _ few]
    omega
  · rw [List.getD_eq_default _ _ (Nat.not_lt.mp few), List.length_nil]
    omega

theorem length_take_lines {t : Text} {n : Nat} (few : n < (splitLines t).length) :
    ((splitLines t).take n).flatten.length < t.length := by
  have fits := length_line_le t n
  rw [List.getD_eq_getElem _ _ few] at fits
  have some := List.length_pos_iff.mpr (splitLines_nonempty (List.getElem_mem few))
  omega

theorem offsetOfLine_iff {y z r : Text} {c : Char} (ended : Ended y) :
    offsetOfLine ((y ++ z) ++ c :: r) (y.count '\n' + 1 : Nat) (some (z.length + 1 : Nat)) =
      .ok (y ++ z).length ↔ strayBreaks y = 0 ∧
        z.length ≤ (lineContent ((splitLines (z ++ c :: r)).headD [])).length := by
  have lines : splitLines ((y ++ z) ++ c :: r) = splitLines y ++ splitLines (z ++ c :: r) := by
    rw [List.append_assoc, splitLines_append ended]
  obtain ⟨l, ls, own⟩ := List.exists_cons_of_ne_nil
    (splitLines_ne_nil (t := z ++ c :: r) (by simp))
  have many := length_splitLines ended
  have inside : ¬(((y.count '\n' + 1 : Nat) : Int) < 1 ∨
      ((max (splitLines y ++ l :: ls).length 1 : Nat) : Int) < (y.count '\n' + 1 : Nat)) := by
    rw [List.length_append, List.length_cons]
    omega
  have index : (((y.count '\n' + 1 : Nat) : Int) - 1).toNat = y.count '\n' := by omega
  have column : (((z.length + 1 : Nat) : Int) - 1).toNat = z.length := by omega
  simp only [offsetOfLine, lines, own, if_neg inside, index, column, List.headD_cons]
  by_cases none : strayBreaks y = 0
  · have whole : y.count '\n' = (splitLines y).length := by omega
    have start : ((splitLines y ++ l :: ls).take (splitLines y).length).flatten = y := by
      rw [List.take_left, splitLines_flatten]
    have here : (splitLines y ++ l :: ls).getD (splitLines y).length [] = l := by
      simp [List.getD_eq_getElem?_getD]
    rw [whole, start, here]
    constructor
    · intro found
      split at found
      · cases found
      · exact ⟨none, by omega⟩
    · rintro ⟨_, reaches⟩
      rw [if_neg (by omega), List.length_append]
  · -- There are more lines above than newlines, so the cursor stays on one of them.
    have few : y.count '\n' < (splitLines y).length := by omega
    have start := length_take_lines few
    rw [List.take_append_of_le_length (Nat.le_of_lt few)]
    constructor
    · intro found
      split at found
      · cases found
      · have same := Except.ok.inj found
        rw [List.length_append] at same
        omega
    · intro agree
      exact absurd agree.1 none

theorem offsetOfLine_positionOf {x r : Text} {c : Char} (other : c ≠ '\n') :
    offsetOfLine (x ++ c :: r) (positionOf (x ++ c :: r) x.length).line
      (some ((positionOf (x ++ c :: r) x.length).column : Nat)) = .ok x.length ↔ LinesAgree x := by
  obtain ⟨y, z, rfl, ended, free⟩ := exists_ended x
  rw [positionOf_append ended free, linesAgree_append ended, ← reaches_iff free other]
  exact offsetOfLine_iff ended

theorem liveStarts_head {t : Text} {start : Nat} (h : start ∈ liveStarts t) :
    ∃ x c r, t = x ++ c :: r ∧ x.length = start ∧ c ≠ '\n' := by
  obtain ⟨⟨q, f⟩, member, _, which, _⟩ := mem_liveStarts h
  obtain ⟨a, mark, rest, marked, _, rfl, first, second, _⟩ := mem_keywordsFrom member
  rw [Nat.zero_add] at first
  rcases which with rfl | rfl
  · rcases marked with rfl | ⟨gap, _, rfl⟩
    · exact ⟨a, 'f', 'n' :: rest, rfl, first.symm, by decide⟩
    · exact ⟨a, 'u', _, rfl, first.symm, by decide⟩
  · refine ⟨a ++ mark, 'f', 'n' :: rest, by simp [functionWord], ?_, by decide⟩
    rw [List.length_append, second, first]

theorem methodAt?_line {t : Text} {offset : Nat} {m : Method} (h : methodAt? t offset = some m) :
    m.line = lineOf t offset := by
  unfold methodAt? at h
  split at h
  · cases h
    rfl
  · cases h
    rfl
  · cases h

/-- The position of a method in a listing leads a cursor back to the method, just when both ways to
count lines agree on the text before it. -/
theorem line_leads_back {t : Text} {m : Method} (listed : m ∈ methods t) :
    m.line = (positionOf t m.offset).line ∧
    (offsetOfLine t (positionOf t m.offset).line (some ((positionOf t m.offset).column : Nat)) =
      .ok m.offset ↔ LinesAgree (t.take m.offset)) := by
  obtain ⟨live, found⟩ := mem_methods.mp listed
  obtain ⟨x, c, r, rfl, start, other⟩ := liveStarts_head live
  constructor
  · exact methodAt?_line found
  · rw [← start, List.take_left]
    exact offsetOfLine_positionOf other

def feedBefore : Text := "// a\r\n\x0cfn b(&self) \x7b\x7d".toList

theorem line_leads_back_feed :
    (⟨7, 2, ['b'], none⟩ : Method) ∈ methods feedBefore ∧
    LinesAgree (feedBefore.take 7) ∧ offsetOfLine feedBefore 2 (some 2) = .ok 7 := by
  have listed : (⟨7, 2, ['b'], none⟩ : Method) ∈ methods feedBefore := by decide +kernel
  have agree : LinesAgree (feedBefore.take 7) :=
    .inr ⟨feedBefore.take 6, '\x0c', by decide +kernel, by decide +kernel, by decide, by decide,
      by decide⟩
  exact ⟨listed, agree, (line_leads_back listed).2.mpr agree⟩

/-- A form feed before a newline. The cursor takes the rest of the first line for the second. -/
theorem line_leads_astray :
    let t := "// a\x0c\nfn foo(&self) \x7b\x7d".toList
    (⟨6, 2, ['f', 'o', 'o'], none⟩ : Method) ∈ methods t ∧ positionOf t 6 = ⟨2, 1⟩ ∧
      offsetOfLine t 2 (some 1) = .ok 5 := by
  decide +kernel

end RecorderStubs
