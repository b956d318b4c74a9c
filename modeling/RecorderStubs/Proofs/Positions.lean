import RecorderStubs.Proofs.Lines

/-! Offsets against lines and columns. In a text whose lines end at newlines only, both ways to
count lines agree everywhere, so the position of an offset leads back to the offset, and the offset
of a position has that position. Only the place behind a last newline is on no line. -/
namespace RecorderStubs

/-- All lines end at newlines, or at the end of the text. -/
def NewlinesOnly (t : Text) : Prop := ∀ c ∈ t, c ∈ lineBreaks → c = '\n'

instance (t : Text) : Decidable (NewlinesOnly t) :=
  List.decidableBAll (fun c => c ∈ lineBreaks → c = '\n') t

/-- The place behind a newline that ends the text. It is on no line of its own. -/
def BehindLast (t : Text) (offset : Nat) : Prop := offset = t.length ∧ t.getLast? = some '\n'

instance (t : Text) (offset : Nat) : Decidable (BehindLast t offset) :=
  inferInstanceAs (Decidable (_ ∧ _))

/-- A character on a line that is not blank. -/
def SolidOn (t : Text) (line : Int) (offset : Nat) : Prop :=
  lineOf t offset = line ∧ ∃ c, t[offset]? = some c ∧ isBlank c = false

/-- Where the characters of a line end. -/
def EndOn (t : Text) (line : Int) (offset : Nat) : Prop :=
  lineOf t offset = line ∧ (t[offset]? = some '\n' ∨ offset = t.length)

/-- A line of a text: what stands above it, its characters, and what follows, its newline first. -/
structure LineAt (t above line below : Text) : Prop where
  split : t = above ++ (line ++ below)
  start : Ended above
  free : '\n' ∉ line
  stop : below = [] ∨ ∃ rest, below = '\n' :: rest
  there : above = [] ∨ line ++ below ≠ []

section
variable {t line rest : Text}

theorem NewlinesOnly.subset {u : Text} (h : NewlinesOnly t) (inside : u ⊆ t) : NewlinesOnly u :=
  fun c member => h c (inside member)

theorem NewlinesOnly.plain (h : NewlinesOnly line) (free : '\n' ∉ line) :
    ∀ c ∈ line, c ∉ lineBreaks := by
  intro c member broken
  exact free (h c member broken ▸ member)

theorem NewlinesOnly.strayBreaks (h : NewlinesOnly t) : strayBreaks t = 0 := by
  induction t using break_induction with
  | nil => rfl
  | pair t _ => exact absurd (h '\r' (List.mem_cons_self ..) (by decide)) (by decide)
  | broken c t alone broken ih =>
    have newline := h c (List.mem_cons_self ..) broken
    have rest := ih (h.subset (List.subset_cons_self c t))
    rw [strayBreaks_alone alone, if_neg (fun other => other.1 newline), rest]
  | plain c t plain ih =>
    rw [strayBreaks_plain plain]
    exact ih (h.subset (List.subset_cons_self c t))

theorem splitLines_line (plain : ∀ c ∈ line, c ∉ lineBreaks) :
    splitLines (line ++ '\n' :: rest) = (line ++ ['\n']) :: splitLines rest := by
  induction line with
  | nil => exact splitLines_break nofun (by decide)
  | cons c line ih =>
    obtain ⟨first, others⟩ := List.forall_mem_cons.mp plain
    rw [List.cons_append, splitLines_plain first, ih others]
    rfl

theorem splitLines_last (plain : ∀ c ∈ line, c ∉ lineBreaks) (present : line ≠ []) :
    splitLines line = [line] := by
  induction line with
  | nil => exact absurd rfl present
  | cons c line ih =>
    obtain ⟨first, others⟩ := List.forall_mem_cons.mp plain
    rw [splitLines_plain first]
    cases line with
    | nil => rfl
    | cons d line =>
      rw [ih others nofun]
      rfl

theorem lineContent_line (plain : ∀ c ∈ line, c ∉ lineBreaks) {ending : Text}
    (ends : ending = [] ∨ ending = ['\n']) : lineContent (line ++ ending) = line := by
  induction line with
  | nil => rcases ends with rfl | rfl <;> rfl
  | cons c line ih =>
    obtain ⟨first, others⟩ := List.forall_mem_cons.mp plain
    rw [List.cons_append, lineContent_cons first, ih others]

end

namespace LineAt
variable {t above line below : Text} (h : LineAt t above line below)
include h

theorem plain (only : NewlinesOnly t) : ∀ c ∈ line, c ∉ lineBreaks := by
  apply NewlinesOnly.plain _ h.free
  apply only.subset
  intro c member
  rw [h.split]
  simp [member]

theorem lines_above (only : NewlinesOnly t) : (splitLines above).length = above.count '\n' := by
  have none : strayBreaks above = 0 := by
    apply NewlinesOnly.strayBreaks
    apply only.subset
    intro c member
    rw [h.split]
    exact List.mem_append_left _ member
  rw [length_splitLines h.start, none, Nat.add_zero]

theorem lines_below (only : NewlinesOnly t) :
    lineContent ((splitLines (line ++ below)).headD []) = line := by
  have plain := h.plain only
  rcases h.stop with rfl | ⟨rest, rfl⟩
  · cases line with
    | nil => rfl
    | cons c line =>
      rw [List.append_nil, splitLines_last plain nofun, List.headD_cons]
      simpa using lineContent_line plain (.inl rfl)
  · rw [splitLines_line plain, List.headD_cons, lineContent_line plain (.inr rfl)]

theorem offset_eq (only : NewlinesOnly t) (column : Option Int) :
    offsetOfLine t (above.count '\n' + 1 : Nat) column =
      match column with
      | none => .ok (above.length + (line.length - (trimStart line).length))
      | some c =>
        if c < 1 ∨ (line.length + 1 : Nat) < c then
          .error (.column c (above.count '\n' + 1 : Nat) line.length)
        else .ok (above.length + (c - 1).toNat) := by
  have many := h.lines_above only
  have content := h.lines_below only
  have lines : splitLines t = splitLines above ++ splitLines (line ++ below) := by
    rw [h.split, splitLines_append h.start]
  have inside : ¬(((above.count '\n' + 1 : Nat) : Int) < 1 ∨
      ((max (splitLines t).length 1 : Nat) : Int) < (above.count '\n' + 1 : Nat)) := by
    rw [lines, List.length_append, many]
    rcases h.there with rfl | present
    · rw [List.count_nil]
      omega
    · have some := List.length_pos_iff.mpr (splitLines_ne_nil present)
      omega
  have index : (((above.count '\n' + 1 : Nat) : Int) - 1).toNat = (splitLines above).length := by
    omega
  have start : ((splitLines t).take (splitLines above).length).flatten.length = above.length := by
    rw [lines, List.take_left, splitLines_flatten]
  have here : lineContent ((splitLines t).getD (splitLines above).length []) = line := by
    rw [lines, List.getD_eq_getElem?_getD, List.getElem?_append_right (Nat.le_refl _), Nat.sub_self,
      ← List.head?_eq_getElem?, ← List.headD_eq_head?_getD, content]
  cases column with
  | none => simp only [offsetOfLine, if_neg inside, index, start, here]
  | some c => simp only [offsetOfLine, if_neg inside, index, start, here]

theorem first_eq (only : NewlinesOnly t) : offsetOfLine t (above.count '\n' + 1 : Nat) none =
    .ok (above.length + (line.takeWhile isBlank).length) := by
  have whole : line.takeWhile isBlank ++ trimStart line = line := List.takeWhile_append_dropWhile
  have sizes := congrArg List.length whole
  rw [List.length_append] at sizes
  rw [h.offset_eq only]
  dsimp only
  congr 2
  omega

theorem position {p : Nat} (within : p ≤ line.length) :
    positionOf t ↑(above.length + p) = ⟨above.count '\n' + 1, p + 1⟩ := by
  have free : '\n' ∉ line.take p := fun member => h.free (List.mem_of_mem_take member)
  have found := positionOf_append h.start free (line.drop p ++ below)
  have size : (line.take p).length = p := by
    rw [List.length_take]
    omega
  rw [List.length_append, size, List.append_assoc, ← List.append_assoc (line.take p),
    List.take_append_drop, ← h.split] at found
  exact found

theorem bounds {p : Nat} (inside : p ≤ t.length) (same : lineOf t p = above.count '\n' + 1) :
    above.length ≤ p ∧ p ≤ above.length + line.length := by
  have count : (t.take p).count '\n' = above.count '\n' := by
    rw [lineOf, textBefore, Int.toNat_natCast] at same
    omega
  constructor
  · apply Nat.le_of_not_lt
    intro early
    rcases h.start with rfl | newline
    · exact absurd early (Nat.not_lt_zero p)
    · obtain ⟨w, rfl⟩ := List.getLast?_eq_some_iff.mp newline
      rw [List.length_append, List.length_singleton] at early
      have whole : w <+: t := ⟨['\n'] ++ (line ++ below), by rw [h.split, List.append_assoc]⟩
      have part : t.take p <+: w := by
        apply List.prefix_of_prefix_length_le (List.take_prefix p t) whole
        rw [List.length_take]
        omega
      have fewer := part.sublist.count_le '\n'
      rw [List.count_append, List.count_singleton_self] at count
      omega
  · apply Nat.le_of_not_lt
    intro late
    rcases h.stop with rfl | ⟨rest, rfl⟩
    · rw [h.split, List.append_nil, List.length_append] at inside
      omega
    · have whole : above ++ line ++ ['\n'] <+: t := ⟨rest, by rw [h.split]; simp⟩
      have part : above ++ line ++ ['\n'] <+: t.take p := by
        apply List.prefix_of_prefix_length_le whole (List.take_prefix p t)
        rw [List.length_append, List.length_append, List.length_take, List.length_singleton]
        omega
      have more := part.sublist.count_le '\n'
      simp only [List.count_append, List.count_singleton_self] at more
      omega

end LineAt

theorem lineAt_of_split {t above rest : Text} (split : t = above ++ rest) (start : Ended above)
    (there : above = [] ∨ rest ≠ []) :
    LineAt t above (rest.takeWhile (· != '\n')) (rest.dropWhile (· != '\n')) where
  split := by rw [List.takeWhile_append_dropWhile, split]
  start := start
  free := (allOf_takeWhile _ rest).not_mem (by decide)
  stop := by
    have stops := stops_dropWhile (· != '\n') rest
    cases found : rest.dropWhile (· != '\n') with
    | nil => exact .inl rfl
    | cons c below =>
      rw [found, stops_cons] at stops
      exact .inr ⟨below, by rw [bne_eq_false_iff_eq.mp stops]⟩
  there := by rwa [List.takeWhile_append_dropWhile]

/-- Every line that is counted is there: the next one begins behind the newline of the one before,
as long as something stands behind that newline. -/
theorem exists_lineAt {t : Text} (only : NewlinesOnly t) {n : Nat}
    (few : n < max (splitLines t).length 1) :
    ∃ above line below, LineAt t above line below ∧ above.count '\n' = n := by
  induction n with
  | zero => exact ⟨[], _, _, lineAt_of_split rfl (.inl rfl) (.inl rfl), rfl⟩
  | succ n ih =>
    obtain ⟨above, line, below, here, count⟩ := ih (by omega)
    have plain := here.plain only
    have lines : (splitLines t).length = n + (splitLines (line ++ below)).length := by
      rw [here.split, splitLines_append here.start, List.length_append, here.lines_above only,
        count]
    rcases here.stop with rfl | ⟨rest, rfl⟩
    · rw [List.append_nil] at lines
      cases line with
      | nil =>
        rw [splitLines, List.length_nil] at lines
        omega
      | cons c line =>
        rw [splitLines_last plain (List.cons_ne_nil c line), List.length_singleton] at lines
        omega
    · rw [splitLines_line plain, List.length_cons] at lines
      have present : rest ≠ [] := by
        rintro rfl
        rw [splitLines, List.length_nil] at lines
        omega
      have split : t = above ++ line ++ ['\n'] ++ rest := by simp [here.split]
      have next := lineAt_of_split split (.inr (by simp)) (.inr present)
      refine ⟨_, _, _, next, ?_⟩
      rw [List.count_append, List.count_append, count, List.count_eq_zero_of_not_mem here.free,
        List.count_singleton_self]

theorem exists_lineAt_offset {t : Text} {offset : Nat} (inside : offset ≤ t.length)
    (before : ¬BehindLast t offset) : ∃ above line below p, LineAt t above line below ∧
      offset = above.length + p ∧ p ≤ line.length := by
  obtain ⟨y, z, cut, ended, free⟩ := exists_ended (t.take offset)
  have size : offset = y.length + z.length := by
    have sizes := congrArg List.length cut
    rw [List.length_take, List.length_append] at sizes
    omega
  have split : t = y ++ (z ++ t.drop offset) := by
    rw [← List.append_assoc, ← cut, List.take_append_drop]
  have there : y = [] ∨ z ++ t.drop offset ≠ [] := by
    apply ended.imp_right
    rintro newline empty
    obtain ⟨rfl, none⟩ := List.append_eq_nil_iff.mp empty
    rw [none] at split
    rw [List.append_nil, List.append_nil] at split
    subst split
    exact before ⟨size, newline⟩
  have all : AllOf (· != '\n') z := by
    intro c member
    have other : c ≠ '\n' := fun same => free (same ▸ member)
    simpa using other
  refine ⟨y, _, _, z.length, lineAt_of_split split ended there, size, ?_⟩
  rw [List.takeWhile_append_of_pos all, List.length_append]
  exact Nat.le_add_right ..

section
variable {t : Text} (only : NewlinesOnly t)
include only

theorem exists_lineAt_accepted {n : Int} {column : Option Int} {offset : Nat}
    (found : offsetOfLine t n column = .ok offset) :
    ∃ above line below, LineAt t above line below ∧ n = (above.count '\n' + 1 : Nat) := by
  have inside : ¬(n < 1 ∨ (max (splitLines t).length 1 : Nat) < n) := by
    intro outside
    rw [offsetOfLine, if_pos outside] at found
    cases found
  obtain ⟨above, line, below, here, count⟩ := exists_lineAt only (n := (n - 1).toNat) (by omega)
  exact ⟨above, line, below, here, by omega⟩

theorem position_of_offset {n column : Int} {offset : Nat}
    (found : offsetOfLine t n (some column) = .ok offset) :
    (positionOf t offset).line = n ∧ (positionOf t offset).column = column := by
  obtain ⟨above, line, below, here, rfl⟩ := exists_lineAt_accepted only found
  rw [here.offset_eq only] at found
  dsimp only at found
  split at found
  · cases found
  · rename_i within
    cases found
    rw [here.position (by omega)]
    dsimp only
    omega

theorem offset_of_position {offset : Nat} (inside : offset ≤ t.length) :
    offsetOfLine t (positionOf t offset).line (some ((positionOf t offset).column : Nat)) =
      if BehindLast t offset then .error (.line (positionOf t offset).line (splitLines t).length)
      else .ok offset := by
  split
  · rename_i last
    obtain ⟨rfl, newline⟩ := last
    have place := positionOf_append (y := t) (z := []) (.inr newline) (by simp) []
    rw [List.append_nil, List.append_nil] at place
    have lines := length_splitLines (y := t) (.inr newline)
    rw [only.strayBreaks, Nat.add_zero] at lines
    have some : 0 < t.count '\n' := List.count_pos_iff.mpr (List.mem_of_getLast? newline)
    rw [place]
    dsimp only
    rw [offsetOfLine, if_pos (by omega)]
  · rename_i before
    obtain ⟨above, line, below, p, here, rfl, within⟩ := exists_lineAt_offset inside before
    rw [here.position within, here.offset_eq only]
    dsimp only
    rw [if_neg (by omega)]
    congr 2
    omega

/-- The lines that a cursor can name without a column are those with an offset on them. -/
theorem line_accepted_iff {n : Int} : (∃ offset, offsetOfLine t n none = .ok offset) ↔
    ∃ p, p ≤ t.length ∧ lineOf t p = n ∧ ¬BehindLast t p := by
  constructor
  · rintro ⟨offset, found⟩
    obtain ⟨above, line, below, here, rfl⟩ := exists_lineAt_accepted only found
    have named : lineOf t above.length = above.count '\n' + 1 :=
      congrArg Position.line (here.position (Nat.zero_le _))
    refine ⟨above.length, ?_, by exact_mod_cast named, ?_⟩
    · rw [here.split, List.length_append]
      exact Nat.le_add_right ..
    · rintro ⟨all, newline⟩
      have none : line ++ below = [] := by
        rw [here.split, List.length_append] at all
        exact List.eq_nil_of_length_eq_zero (by omega)
      obtain rfl := here.there.resolve_right (fun present => present none)
      rw [here.split, none] at newline
      cases newline
  · rintro ⟨p, inside, rfl, before⟩
    obtain ⟨above, line, below, q, here, rfl, within⟩ := exists_lineAt_offset inside before
    have named : lineOf t ↑(above.length + q) = above.count '\n' + 1 :=
      congrArg Position.line (here.position within)
    rw [named]
    exact ⟨_, here.first_eq only⟩

end

section
variable {t above line below : Text} (h : LineAt t above line below)
include h

theorem LineAt.getElem? (q : Nat) : t[above.length + q]? = (line ++ below)[q]? := by
  rw [h.split, List.getElem?_append_right (Nat.le_add_right ..), Nat.add_sub_cancel_left]

theorem LineAt.newline {c : Char} (next : t[above.length + line.length]? = some c) : c = '\n' := by
  rw [h.getElem?, List.getElem?_append_right (Nat.le_refl _), Nat.sub_self] at next
  rcases h.stop with rfl | ⟨rest, rfl⟩
  · cases next
  · cases next
    rfl

theorem LineAt.behind_blanks :
    t[above.length + (line.takeWhile isBlank).length]? = (trimStart line ++ below).head? := by
  have split : line ++ below = line.takeWhile isBlank ++ (trimStart line ++ below) := by
    rw [trimStart, ← List.append_assoc, List.takeWhile_append_dropWhile]
  rw [h.getElem?, split, List.getElem?_append_right (Nat.le_refl _), Nat.sub_self,
    List.head?_eq_getElem?]

/-- What is not blank on a line stands behind the blanks it begins with, and before its end. -/
theorem LineAt.solid {p : Nat} (solid : SolidOn t (above.count '\n' + 1 : Nat) p) :
    above.length + (line.takeWhile isBlank).length ≤ p ∧ p < above.length + line.length := by
  obtain ⟨same, c, found, hard⟩ := solid
  have inside : p < t.length := (List.getElem?_eq_some_iff.mp found).1
  obtain ⟨low, high⟩ := h.bounds (Nat.le_of_lt inside) (by exact_mod_cast same)
  obtain ⟨q, rfl⟩ := Nat.exists_eq_add_of_le low
  constructor
  · apply Nat.le_of_not_lt
    intro early
    have short : q < (line.takeWhile isBlank).length := by omega
    have blank : AllOf isBlank (line.takeWhile isBlank) := allOf_takeWhile isBlank line
    rw [h.getElem?, ← List.takeWhile_append_dropWhile (p := isBlank) (l := line), List.append_assoc,
      List.getElem?_append_left short] at found
    rw [blank c (List.mem_of_getElem? found)] at hard
    cases hard
  · apply Nat.lt_of_le_of_ne high
    intro last
    rw [last] at found
    rw [h.newline found] at hard
    cases hard

end

theorem first_of_line {t : Text} (only : NewlinesOnly t) {n : Int} {offset : Nat}
    (found : offsetOfLine t n none = .ok offset) :
    (SolidOn t n offset ∧ ∀ p < offset, ¬SolidOn t n p) ∨
      (∀ p, ¬SolidOn t n p) ∧ EndOn t n offset := by
  obtain ⟨above, line, below, here, rfl⟩ := exists_lineAt_accepted only found
  rw [here.first_eq only] at found
  cases found
  have sizes : (line.takeWhile isBlank).length + (trimStart line).length = line.length := by
    rw [trimStart, ← List.length_append, List.takeWhile_append_dropWhile]
  have same : lineOf t ↑(above.length + (line.takeWhile isBlank).length) = above.count '\n' + 1 :=
    congrArg Position.line (here.position (by omega))
  have next := here.behind_blanks
  cases rest : trimStart line with
  | nil =>
    rw [rest, List.length_nil] at sizes
    rw [rest, List.nil_append] at next
    refine .inr ⟨fun p solid => ?_, by exact_mod_cast same, ?_⟩
    · have place := here.solid solid
      omega
    · rcases here.stop with rfl | ⟨more, rfl⟩
      · have whole := congrArg List.length here.split
        rw [List.append_nil, List.length_append] at whole
        exact .inr (by omega)
      · exact .inl next
  | cons c more =>
    rw [rest] at next
    refine .inl ⟨⟨by exact_mod_cast same, c, next, ?_⟩, fun p early solid => ?_⟩
    · have stops := stops_dropWhile isBlank line
      rw [← trimStart, rest] at stops
      exact stops_cons.mp stops
    · have place := here.solid solid
      omega

/-- Offsets and positions are inverse to each other where lines end at newlines only. A position
that leads somewhere is the position of that place; an offset is led back to by its position, unless
it is behind a last newline, whose line is out of range. Without a column a line that is there leads
to its first character that is not blank, or else to its end. -/
theorem positions_inverse {t : Text} (only : NewlinesOnly t) :
    (∀ n column offset, offsetOfLine t n (some column) = .ok offset →
      (positionOf t offset).line = n ∧ (positionOf t offset).column = column) ∧
    (∀ offset : Nat, offset ≤ t.length →
      offsetOfLine t (positionOf t offset).line (some ((positionOf t offset).column : Nat)) =
        if BehindLast t offset then
          .error (.line (positionOf t offset).line (splitLines t).length)
        else .ok offset) ∧
    (∀ n, (∃ offset, offsetOfLine t n none = .ok offset) ↔
      ∃ p, p ≤ t.length ∧ lineOf t p = n ∧ ¬BehindLast t p) ∧
    (∀ n offset, offsetOfLine t n none = .ok offset →
      (SolidOn t n offset ∧ ∀ p < offset, ¬SolidOn t n p) ∨
        (∀ p, ¬SolidOn t n p) ∧ EndOn t n offset) := by
  refine ⟨?_, ?_, ?_, ?_⟩
  · intro n column offset found
    exact position_of_offset only found
  · intro offset inside
    exact offset_of_position only inside
  · intro n
    exact line_accepted_iff only
  · intro n offset found
    exact first_of_line only found

def fourLines : Text := " a\n\t \n\n\n".toList

theorem positions_inverse_four :
    NewlinesOnly fourLines ∧
    positionOf fourLines 5 = ⟨2, 3⟩ ∧ offsetOfLine fourLines 2 (some 3) = .ok 5 ∧
    offsetOfLine fourLines 5 (some 1) = .error (.line 5 4) ∧
    (∀ p, ¬SolidOn fourLines 2 p) ∧ EndOn fourLines 2 5 := by
  have only : NewlinesOnly fourLines := by decide +kernel
  have place : positionOf fourLines (5 : Nat) = ⟨2, 3⟩ := by decide +kernel
  have final : positionOf fourLines (8 : Nat) = ⟨5, 1⟩ := by decide +kernel
  have lines : (splitLines fourLines).length = 4 := by decide +kernel
  obtain ⟨_, back, _, first⟩ := positions_inverse only
  have middle := back 5 (by decide +kernel)
  have last := back 8 (by decide +kernel)
  rw [place, if_neg (by decide +kernel)] at middle
  rw [final, if_pos (by decide +kernel), lines] at last
  have blank : offsetOfLine fourLines 2 none = .ok 5 := by decide +kernel
  refine ⟨only, place, middle, last, ?_⟩
  apply (first 2 5 blank).resolve_left
  rintro ⟨⟨_, c, found, hard⟩, _⟩
  cases found
  cases hard

end RecorderStubs
