import RecorderStubs.Proofs.Run

/-! Where the slot of an enum lies, in offsets: behind the brace that opens the enum and not behind
the one that closes it. The slot is found just when the declaration and both braces are there. It is
the start of a line, so it may lie deeper than the body of the enum: a variant whose fields are
closed on the line that also closes the enum takes in what is put there. -/
namespace RecorderStubs

/-- How many more braces a text opens than it closes. -/
def braceBalance (t : Text) : Int := t.count '\x7b' - t.count '\x7d'

@[simp] theorem braceBalance_nil : braceBalance [] = 0 := rfl

@[simp] theorem braceBalance_append (a b : Text) :
    braceBalance (a ++ b) = braceBalance a + braceBalance b := by
  simp only [braceBalance, List.count_append]
  omega

@[simp] theorem braceBalance_opening (t : Text) :
    braceBalance ('\x7b' :: t) = 1 + braceBalance t := by
  simp [braceBalance]
  omega

@[simp] theorem braceBalance_closing (t : Text) :
    braceBalance ('\x7d' :: t) = braceBalance t - 1 := by
  simp [braceBalance]
  omega

theorem braceBalance_other {c : Char} (opening : c ≠ '\x7b') (closing : c ≠ '\x7d') (t : Text) :
    braceBalance (c :: t) = braceBalance t := by
  simp [braceBalance, opening, closing]

/-- One character read inside open braces: it closes the last one, or the search goes on with as
many open as the character leaves. -/
theorem closingBrace?_step {depth : Nat} (inside : 1 ≤ depth) (c : Char) (t : Text) :
    (c = '\x7d' ∧ depth = 1 ∧ closingBrace? depth (c :: t) = some (c :: t)) ∨
      ∃ depth', 1 ≤ depth' ∧ closingBrace? depth (c :: t) = closingBrace? depth' t ∧
        ∀ v, depth + braceBalance (c :: v) = depth' + braceBalance v := by
  rw [closingBrace?]
  by_cases opening : c = '\x7b'
  · subst opening
    refine .inr ⟨depth + 1, Nat.le_add_left .., if_pos rfl, fun v => ?_⟩
    rw [braceBalance_opening]
    omega
  · rw [if_neg opening]
    by_cases closing : c = '\x7d'
    · subst closing
      rw [if_pos rfl]
      by_cases last : depth ≤ 1
      · exact .inl ⟨rfl, by omega, if_pos last⟩
      · refine .inr ⟨depth - 1, by omega, if_neg last, fun v => ?_⟩
        rw [braceBalance_closing]
        omega
    · rw [if_neg closing]
      exact .inr ⟨depth, inside, rfl, fun v => by rw [braceBalance_other opening closing]⟩

/-- As long as every part of a text leaves a brace open, so does every part of a longer one. -/
theorem open_cons {depth depth' : Nat} {c : Char} {t : Text} (inside : 1 ≤ depth)
    (step : ∀ v, depth + braceBalance (c :: v) = depth' + braceBalance v)
    (later : ∀ part, part <+: t → 1 ≤ depth' + braceBalance part) :
    ∀ part, part <+: c :: t → 1 ≤ depth + braceBalance part := by
  intro part first
  rcases List.prefix_cons_iff.mp first with rfl | ⟨rest, rfl, behind⟩
  · rw [braceBalance_nil]
    omega
  · rw [step]
    exact later rest behind

/-- The brace that is found closes the last open one, and before it one is open all the time. -/
theorem closingBrace?_balance {depth : Nat} {t closing : Text} (inside : 1 ≤ depth)
    (h : closingBrace? depth t = some closing) :
    ∃ inner u, t = inner ++ closing ∧ closing = '\x7d' :: u ∧ depth + braceBalance inner = 1 ∧
      ∀ part, part <+: inner → 1 ≤ depth + braceBalance part := by
  induction t generalizing depth with
  | nil => cases h
  | cons c t ih =>
    rcases closingBrace?_step inside c t with ⟨rfl, rfl, here⟩ | ⟨depth', inside', later, step⟩
    · cases here.symm.trans h
      refine ⟨[], t, rfl, rfl, rfl, fun part first => ?_⟩
      rw [List.prefix_nil.mp first, braceBalance_nil]
      omega
    · obtain ⟨inner, u, rfl, brace, zero, above⟩ := ih inside' (later.symm.trans h)
      exact ⟨c :: inner, u, rfl, brace, by rw [step, zero], open_cons inside step above⟩

theorem closingBrace?_open {depth : Nat} {t : Text} (inside : 1 ≤ depth)
    (h : closingBrace? depth t = none) : ∀ part, part <+: t → 1 ≤ depth + braceBalance part := by
  induction t generalizing depth with
  | nil =>
    intro part first
    rw [List.prefix_nil.mp first, braceBalance_nil]
    omega
  | cons c t ih =>
    rcases closingBrace?_step inside c t with ⟨_, _, here⟩ | ⟨depth', inside', later, step⟩
    · cases here.symm.trans h
    · exact open_cons inside step (ih inside' (later.symm.trans h))

theorem getElem?_behind (a u : Text) (c : Char) : (a ++ c :: u)[a.length]? = some c := by
  simp

/-- A declaration of the enum in a text, with what stands around it. The words are not part of
longer ones. -/
structure Marks (name : Text) (afterWord : Bool) (t x m rest : Text) : Prop where
  split : t = x ++ (m ++ rest)
  marker : MarkerText name m
  start : endsWord afterWord x = false
  stop : endsWord false m ≠ startsWord rest

/-- A declaration of the enum takes up the span. -/
def MarkedAt (name t : Text) (s : Span) : Prop :=
  ∃ x m rest, Marks name false t x m rest ∧ s = ⟨x.length, x.length + m.length⟩

structure FirstMarked (name t : Text) (s : Span) : Prop where
  marked : MarkedAt name t s
  first : ∀ r, MarkedAt name t r → s.start ≤ r.start

structure FirstOpening (t : Text) (start opening : Nat) : Prop where
  behind : start ≤ opening
  brace : t[opening]? = some '\x7b'
  first : ∀ i, start ≤ i → i < opening → t[i]? ≠ some '\x7b'

/-- The brace count from `opening` on gets back to zero at `closing`, for the first time. -/
structure FirstClosing (t : Text) (opening closing : Nat) : Prop where
  behind : opening < closing
  brace : t[closing]? = some '\x7d'
  zero : braceBalance (Span.cut ⟨opening, closing + 1⟩ t) = 0
  first : ∀ i, opening ≤ i → i < closing → braceBalance (Span.cut ⟨opening, i + 1⟩ t) ≠ 0

/-- The first declaration of the enum, with the braces of its body. -/
structure EnumBody (name t : Text) (marker : Span) (opening closing : Nat) : Prop where
  declared : FirstMarked name t marker
  opened : FirstOpening t marker.stop opening
  closed : FirstClosing t opening closing

inductive Unslotted (name t : Text) : SlotCause → Prop where
  | noMarker (none : ∀ s, ¬ MarkedAt name t s) : Unslotted name t .noMarker
  | noOpening {s : Span} (declared : FirstMarked name t s)
      (none : ∀ i, s.stop ≤ i → t[i]? ≠ some '\x7b') : Unslotted name t .noOpening
  | noClosing {s : Span} {opening : Nat} (declared : FirstMarked name t s)
      (opened : FirstOpening t s.stop opening)
      (none : ∀ i, opening ≤ i → i < t.length → braceBalance (Span.cut ⟨opening, i + 1⟩ t) ≠ 0) :
      Unslotted name t .noClosing

theorem Marks.step {name : Text} (h : RunOf isIdentifierChar name) {afterWord : Bool} {c : Char}
    {t x m rest : Text} (marks : Marks name afterWord (c :: t) x m rest) :
    (x = [] ∧ (if afterWord then none else enumMarker? (.word name) (c :: t)) = some rest) ∨
      ∃ x', x = c :: x' ∧ Marks name (isWord c) t x' m rest := by
  obtain ⟨split, marker, start, stop⟩ := marks
  cases x with
  | nil =>
    rw [endsWord_nil] at start
    subst start
    exact .inl ⟨rfl, (enumMarker?_eq_some h).mpr ⟨m, marker, split, stop⟩⟩
  | cons d x =>
    obtain ⟨rfl, behind⟩ := List.cons.inj split
    rw [endsWord_cons] at start
    exact .inr ⟨x, rfl, behind, marker, start, stop⟩

theorem findMarker?_first {name t rest : Text} (h : RunOf isIdentifierChar name) {afterWord : Bool}
    (found : findMarker? (.word name) afterWord t = some rest) :
    ∃ x m, Marks name afterWord t x m rest ∧
      ∀ x' m' rest', Marks name afterWord t x' m' rest' → x.length ≤ x'.length := by
  induction t generalizing afterWord with
  | nil => cases found
  | cons c t ih =>
    cases here : (if afterWord then none else enumMarker? (.word name) (c :: t)) with
    | none =>
      rw [findMarker?_none here] at found
      obtain ⟨x, m, marks, first⟩ := ih found
      refine ⟨c :: x, m, ⟨?_, marks.marker, ?_, marks.stop⟩, fun x' m' rest' other => ?_⟩
      · rw [List.cons_append, ← marks.split]
      · rw [endsWord_cons, marks.start]
      · rcases other.step h with ⟨_, there⟩ | ⟨x', rfl, later⟩
        · rw [here] at there
          cases there
        · exact Nat.succ_le_succ (first x' m' rest' later)
    | some final =>
      rw [findMarker?_some here] at found
      cases found
      cases afterWord with
      | true => cases here
      | false =>
        obtain ⟨m, marker, split, stop⟩ := (enumMarker?_eq_some h).mp here
        exact ⟨[], m, ⟨split, marker, rfl, stop⟩, fun _ _ _ _ => Nat.zero_le _⟩

theorem MarkerText.head {name m : Text} (h : MarkerText name m) : ∃ u, m = 'p' :: u := by
  obtain ⟨gap, gap', _, _, rfl⟩ := h
  exact ⟨_, rfl⟩

theorem findMarker?_missing {name t : Text} (h : RunOf isIdentifierChar name) {afterWord : Bool}
    (none : findMarker? (.word name) afterWord t = none) (x m rest : Text) :
    ¬ Marks name afterWord t x m rest := by
  intro marks
  induction t generalizing afterWord x with
  | nil =>
    obtain ⟨u, rfl⟩ := marks.marker.head
    simpa using marks.split
  | cons c t ih =>
    rcases marks.step h with ⟨_, here⟩ | ⟨x', rfl, later⟩
    · rw [findMarker?_some here] at none
      cases none
    · cases here : (if afterWord then Option.none else enumMarker? (.word name) (c :: t)) with
      | none => exact ih (findMarker?_none here ▸ none) x' later
      | some rest =>
        rw [findMarker?_some here] at none
        cases none

theorem Marks.markedAt {name t x m rest : Text} (h : Marks name false t x m rest) :
    MarkedAt name t ⟨x.length, x.length + m.length⟩ := ⟨x, m, rest, h, rfl⟩

theorem Marks.whole {name t x m rest : Text} (h : Marks name false t x m rest) :
    t = (x ++ m) ++ rest := by
  rw [h.split, List.append_assoc]

theorem exists_firstMarked {name t rest : Text} (h : RunOf isIdentifierChar name)
    (found : findMarker? (.word name) false t = some rest) :
    ∃ w, t = w ++ rest ∧ ∃ start, FirstMarked name t ⟨start, w.length⟩ := by
  obtain ⟨x, m, marks, first⟩ := findMarker?_first h found
  refine ⟨x ++ m, marks.whole, x.length, ?_⟩
  rw [List.length_append]
  refine ⟨marks.markedAt, ?_⟩
  rintro _ ⟨x', m', rest', other, rfl⟩
  exact first x' m' rest' other

theorem MarkedAt.stop_unique {name t : Text} (h : RunOf isIdentifierChar name) {r s : Span}
    (hr : MarkedAt name t r) (hs : MarkedAt name t s) (start : r.start = s.start) : r = s := by
  obtain ⟨x, m, rest, marks, rfl⟩ := hr
  obtain ⟨x', m', rest', marks', rfl⟩ := hs
  obtain ⟨rfl, same⟩ := List.append_inj (marks.split.symm.trans marks'.split) start
  have reads := (enumMarker?_eq_some h).mpr ⟨m, marks.marker, rfl, marks.stop⟩
  have reads' := (enumMarker?_eq_some h).mpr ⟨m', marks'.marker, rfl, marks'.stop⟩
  rw [same] at reads
  obtain rfl := Option.some.inj (reads.symm.trans reads')
  obtain rfl := List.append_cancel_right same
  rfl

theorem FirstMarked.unique {name t : Text} (h : RunOf isIdentifierChar name) {r s : Span}
    (hr : FirstMarked name t r) (hs : FirstMarked name t s) : r = s :=
  hr.marked.stop_unique h hs.marked
    (Nat.le_antisymm (hr.first s hs.marked) (hs.first r hr.marked))

theorem FirstOpening.of_split {w gap u : Text} (free : '\x7b' ∉ gap) :
    FirstOpening (w ++ (gap ++ '\x7b' :: u)) w.length (w ++ gap).length := by
  refine ⟨by simp, by simp [← List.append_assoc], fun i low high brace => ?_⟩
  rw [List.length_append] at high
  rw [List.getElem?_append_right low, List.getElem?_append_left (by omega)] at brace
  exact free (List.mem_of_getElem? brace)

theorem FirstOpening.unique {t : Text} {start r s : Nat} (hr : FirstOpening t start r)
    (hs : FirstOpening t start s) : r = s := by
  rcases Nat.lt_trichotomy r s with less | same | more
  · exact absurd hr.brace (hs.first r hr.behind less)
  · exact same
  · exact absurd hs.brace (hr.first s hs.behind more)

/-- The text from an opening brace through an offset behind it. -/
theorem cut_opening (w body : Text) (k : Nat) :
    Span.cut ⟨w.length, w.length + k + 1⟩ (w ++ '\x7b' :: body) = '\x7b' :: body.take k := by
  rw [Span.cut, Nat.add_assoc, List.take_length_add_append, List.drop_left, List.take_succ_cons]

theorem FirstClosing.of_closingBrace? {w inner closing : Text}
    (h : closingBrace? 1 (inner ++ closing) = some closing) :
    FirstClosing (w ++ '\x7b' :: (inner ++ closing)) w.length (w.length + 1 + inner.length) := by
  obtain ⟨inner', u, same, rfl, zero, above⟩ := closingBrace?_balance (Nat.le_refl 1) h
  obtain rfl := List.append_cancel_right same
  have place : w.length + 1 + inner.length = w.length + (inner.length + 1) := by omega
  refine ⟨by omega, ?_, ?_, fun i low high => ?_⟩
  · rw [place, List.getElem?_append_right (Nat.le_add_right ..), Nat.add_sub_cancel_left]
    simp
  · have through : (inner ++ '\x7d' :: u).take (inner.length + 1) = inner ++ ['\x7d'] :=
      List.take_length_add_append ..
    rw [place, cut_opening, through, braceBalance_opening, braceBalance_append,
      braceBalance_closing, braceBalance_nil]
    omega
  · obtain ⟨k, rfl⟩ := Nat.exists_eq_add_of_le low
    have inside : (inner ++ '\x7d' :: u).take k = inner.take k :=
      List.take_append_of_le_length (by omega)
    have one := above (inner.take k) (List.take_prefix k inner)
    rw [cut_opening, inside, braceBalance_opening]
    omega

theorem never_closing {w body : Text} (h : closingBrace? 1 body = none) (i : Nat)
    (low : w.length ≤ i) :
    braceBalance (Span.cut ⟨w.length, i + 1⟩ (w ++ '\x7b' :: body)) ≠ 0 := by
  obtain ⟨k, rfl⟩ := Nat.exists_eq_add_of_le low
  have one := closingBrace?_open (Nat.le_refl 1) h (body.take k) (List.take_prefix k body)
  rw [cut_opening, braceBalance_opening]
  omega

/-- Where the slot lies between the braces: at the closing one if the body is on one line, else at
the start of the last line. -/
structure SlotBetween (t : Text) (opening slot closing : Nat) : Prop where
  behind : opening < slot
  upTo : slot ≤ closing
  line : '\n' ∉ Span.cut ⟨slot, closing⟩ t
  place : (slot = closing ∧ '\n' ∉ Span.cut ⟨opening, closing⟩ t) ∨ t[slot - 1]? = some '\n'
  depth : 1 ≤ braceBalance (Span.cut ⟨opening, slot⟩ t)
  level : braceBalance (Span.cut ⟨opening, slot⟩ t) + braceBalance (Span.cut ⟨slot, closing⟩ t) = 1

theorem SlotParts.balance {t name w above below closing : Text}
    (h : SlotParts t name w above below closing) :
    1 ≤ braceBalance ('\x7b' :: above) ∧
      braceBalance ('\x7b' :: above) + braceBalance below = 1 := by
  have closes := h.closes
  rw [← List.append_assoc] at closes
  obtain ⟨inner, u, same, _, zero, open'⟩ := closingBrace?_balance (Nat.le_refl 1) closes
  obtain rfl := List.append_cancel_right same
  have above' := open' above (List.prefix_append ..)
  rw [braceBalance_append] at zero
  rw [braceBalance_opening]
  omega

theorem SlotParts.between {t name w above below closing : Text}
    (h : SlotParts t name w above below closing) :
    SlotBetween t w.length (w ++ '\x7b' :: above).length
      (w.length + 1 + (above ++ below).length) := by
  have size : (w ++ '\x7b' :: above).length = w.length + ('\x7b' :: above).length :=
    List.length_append
  have stop : w.length + 1 + (above ++ below).length =
      (w ++ '\x7b' :: above).length + below.length := by
    simp only [List.length_append, List.length_cons]
    omega
  have upper : Span.cut ⟨w.length, (w ++ '\x7b' :: above).length⟩ t = '\x7b' :: above := by
    rw [size, h.whole, List.append_assoc, cut_middle]
  have lower : Span.cut ⟨(w ++ '\x7b' :: above).length, w.length + 1 + (above ++ below).length⟩ t =
      below := by
    rw [stop, h.whole, cut_middle]
  obtain ⟨depth, level⟩ := h.balance
  refine ⟨by rw [size, List.length_cons]; omega, by omega, ?_, ?_, ?_, ?_⟩
  · rw [lower]
    exact h.line
  · rcases h.place with ⟨rfl, oneLine⟩ | newline
    · refine .inl ⟨stop.symm, ?_⟩
      rw [stop, List.length_nil, Nat.add_zero, upper]
      simpa using oneLine
    · obtain ⟨y, rfl⟩ := List.getLast?_eq_some_iff.mp newline
      right
      have last : t = (w ++ '\x7b' :: y) ++ '\n' :: (below ++ closing) := by
        rw [h.whole]
        simp
      have place : (w ++ '\x7b' :: (y ++ ['\n'])).length - 1 = (w ++ '\x7b' :: y).length := by
        simp
      rw [place, last, getElem?_behind]
  · rw [upper]
    exact depth
  · rw [upper, lower]
    exact level

theorem exists_enumBody {t : Text} {i : Identifier} {slot : Nat}
    (h : enumSlot t i.text = .ok slot) : ∃ marker opening closing,
      EnumBody i.text t marker opening closing ∧ SlotBetween t opening slot closing := by
  obtain ⟨w, above, below, closing, parts, rfl⟩ := exists_slotParts h
  obtain ⟨gap, free, found⟩ := parts.found
  obtain ⟨x, split, start, declared⟩ := exists_firstMarked i.run found
  have before : w = x ++ gap := by
    refine List.append_cancel_right (parts.split.symm.trans ?_)
    rw [split, List.append_assoc]
  have closes := parts.closes
  rw [← List.append_assoc] at closes
  refine ⟨⟨start, x.length⟩, w.length, w.length + 1 + (above ++ below).length,
    ⟨declared, ?_, ?_⟩, parts.between⟩
  · rw [split, before]
    exact .of_split free
  · rw [parts.split, ← List.append_assoc above]
    exact .of_closingBrace? closes

theorem EnumBody.not_unslotted {i : Identifier} {t : Text} {marker : Span} {opening closing : Nat}
    (h : EnumBody i.text t marker opening closing) (cause : SlotCause) :
    ¬ Unslotted i.text t cause := by
  rintro (none | ⟨declared, none⟩ | ⟨declared, opened, none⟩)
  · exact none marker h.declared.marked
  · obtain rfl := h.declared.unique i.run declared
    exact none opening h.opened.behind h.opened.brace
  · obtain rfl := h.declared.unique i.run declared
    obtain rfl := h.opened.unique opened
    obtain ⟨inside, _⟩ := List.getElem?_eq_some_iff.mp h.closed.brace
    exact none closing (Nat.le_of_lt h.closed.behind) inside h.closed.zero

theorem Unslotted.unique {i : Identifier} {t : Text} {cause cause' : SlotCause}
    (h : Unslotted i.text t cause) (h' : Unslotted i.text t cause') : cause = cause' := by
  cases h with
  | noMarker none =>
    cases h' with
    | noMarker _ => rfl
    | noOpening declared _ => exact absurd declared.marked (none _)
    | noClosing declared _ _ => exact absurd declared.marked (none _)
  | noOpening declared none =>
    cases h' with
    | noMarker none' => exact absurd declared.marked (none' _)
    | noOpening _ _ => rfl
    | noClosing declared' opened _ =>
      obtain rfl := declared.unique i.run declared'
      exact absurd opened.brace (none _ opened.behind)
  | noClosing declared opened none =>
    cases h' with
    | noMarker none' => exact absurd declared.marked (none' _)
    | noOpening declared' none' =>
      obtain rfl := declared.unique i.run declared'
      exact absurd opened.brace (none' _ opened.behind)
    | noClosing _ _ _ => rfl

theorem enumSlot_unslotted {t : Text} {i : Identifier} {e : SlotError}
    (h : enumSlot t i.text = .error e) : e.enumName = i.text ∧ Unslotted i.text t e.cause := by
  unfold enumSlot at h
  rw [ofName_identifier] at h
  split at h
  · rename_i none
    cases h
    refine ⟨rfl, .noMarker ?_⟩
    rintro _ ⟨x, m, rest, marks, rfl⟩
    exact findMarker?_missing i.run none x m rest marks
  · rename_i rest found
    obtain ⟨w, rfl, start, declared⟩ := exists_firstMarked i.run found
    split at h
    · rename_i dropped
      cases h
      refine ⟨rfl, .noOpening declared fun j low brace => ?_⟩
      rw [List.getElem?_append_right low] at brace
      obtain ⟨gap, u, rfl, free⟩ := List.eq_append_cons_of_mem (List.mem_of_getElem? brace)
      rw [dropWhile_before free] at dropped
      cases dropped
    · rename_i brace body dropped
      obtain ⟨rfl, gap, free, rfl⟩ := dropWhile_opening dropped
      split at h
      · rename_i none
        cases h
        refine ⟨rfl, .noClosing declared (.of_split free) fun j low _ => ?_⟩
        rw [← List.append_assoc]
        exact never_closing none j low
      · cases h

theorem enumSlot_error_iff {t : Text} {i : Identifier} {e : SlotError} :
    enumSlot t i.text = .error e ↔ e.enumName = i.text ∧ Unslotted i.text t e.cause := by
  refine ⟨enumSlot_unslotted, fun ⟨named, missing⟩ => ?_⟩
  cases found : enumSlot t i.text with
  | ok slot =>
    obtain ⟨marker, opening, closing, body, _⟩ := exists_enumBody found
    exact absurd missing (body.not_unslotted e.cause)
  | error e' =>
    obtain ⟨named', missing'⟩ := enumSlot_unslotted found
    obtain ⟨cause, name⟩ := e
    obtain ⟨cause', name'⟩ := e'
    obtain rfl : name' = name := named'.trans named.symm
    obtain rfl : cause' = cause := missing'.unique missing
    rfl

/-- No slot is found just when the declaration or one of its braces is missing; and a variant put
into a slot moves it right behind the variant. -/
theorem slot_found_and_kept (t : Text) (i : Identifier) :
    (∀ e, enumSlot t i.text = .error e ↔ e.enumName = i.text ∧ Unslotted i.text t e.cause) ∧
    ∀ slot, enumSlot t i.text = .ok slot → ∀ u place d, parse u place = .ok d →
      enumSlot (t.take slot ++ variantAt t slot d.signature ++ t.drop slot) i.text =
        .ok (slot + (variantAt t slot d.signature).length) := by
  refine ⟨fun e => enumSlot_error_iff, fun slot found u place d parsed => ?_⟩
  obtain ⟨_, _, _, _, valid, _⟩ := exists_stubAt parsed
  rw [← withVariants_one found]
  exact enumSlot_withVariants found valid

def oneLineEnum : Text := "pub enum Call \x7b a \x7b x: u8 \x7d, \x7d".toList

def brokenTypeStub : Text := "fn b(&self, y: &mut\nu8) \x7b unimplemented!(\"\"); \x7d".toList

def brokenTypeDeclaration : Declaration :=
  ⟨⟨['b'], [⟨['y'], ['&', 'm', 'u', 't', '\n', 'u', '8']⟩]⟩, ⟨26, 45⟩, 0⟩

theorem slot_found_and_kept_line :
    enumSlot oneLineEnum ['C', 'a', 'l', 'l'] = .ok 29 ∧
    parse brokenTypeStub 0 = .ok brokenTypeDeclaration ∧
    enumSlot (oneLineEnum.take 29 ++ variantAt oneLineEnum 29 brokenTypeDeclaration.signature ++
        oneLineEnum.drop 29) ['C', 'a', 'l', 'l'] =
      .ok (29 + (variantAt oneLineEnum 29 brokenTypeDeclaration.signature).length) := by
  have found : enumSlot oneLineEnum Identifier.usualEnum.text = .ok 29 := by decide +kernel
  have parsed : parse brokenTypeStub 0 = .ok brokenTypeDeclaration := by decide +kernel
  exact ⟨found, parsed, (slot_found_and_kept oneLineEnum .usualEnum).2 29 found _ 0 _ parsed⟩

/-- A slot lies behind the opening brace and not behind the closing one, inside as many braces as
the last line closes up to and with the one of the enum. So it is directly in the body just when the
last line matches its other braces. -/
theorem slot_enclosed {t : Text} {i : Identifier} {slot : Nat}
    (h : enumSlot t i.text = .ok slot) : ∃ marker opening closing,
      EnumBody i.text t marker opening closing ∧ opening < slot ∧ slot ≤ closing ∧
      1 ≤ braceBalance (Span.cut ⟨opening, slot⟩ t) ∧
      braceBalance (Span.cut ⟨opening, slot⟩ t) =
        1 - braceBalance (Span.cut ⟨slot, closing⟩ t) ∧
      '\n' ∉ Span.cut ⟨slot, closing⟩ t ∧
      ((slot = closing ∧ '\n' ∉ Span.cut ⟨opening, closing⟩ t) ∨ t[slot - 1]? = some '\n') := by
  obtain ⟨marker, opening, closing, body, slotted⟩ := exists_enumBody h
  have level := slotted.level
  exact ⟨marker, opening, closing, body, slotted.behind, slotted.upTo, slotted.depth, by omega,
    slotted.line, slotted.place⟩

def moduleEnum : Text :=
  "mod m \x7b\n  pub enum Call \x7b\n    a \x7b\n      x: u8\n    \x7d,\n  \x7d\n\x7d\n".toList

theorem slot_enclosed_module :
    enumSlot moduleEnum ['C', 'a', 'l', 'l'] = .ok 53 ∧ ∃ marker opening closing,
      EnumBody ['C', 'a', 'l', 'l'] moduleEnum marker opening closing ∧ opening < 53 ∧
      53 ≤ closing ∧ 1 ≤ braceBalance (Span.cut ⟨opening, 53⟩ moduleEnum) := by
  have found : enumSlot moduleEnum Identifier.usualEnum.text = .ok 53 := by decide +kernel
  obtain ⟨marker, opening, closing, body, behind, upTo, depth, _⟩ := slot_enclosed found
  exact ⟨found, marker, opening, closing, body, behind, upTo, depth⟩

def callMarker : Text := publicWord ++ ([' '] ++ (enumWord ++ ([' '] ++ ['C', 'a', 'l', 'l'])))

theorem callMarker_text : MarkerText ['C', 'a', 'l', 'l'] callMarker :=
  ⟨[' '], [' '], ⟨by decide, by decide⟩, ⟨by decide, by decide⟩, rfl⟩

/-- A variant whose fields are closed on the last line of the enum takes in the slot. -/
theorem slot_inside_variant :
    let t := "pub enum Call \x7b a \x7b\n\x7d \x7d".toList
    EnumBody ['C', 'a', 'l', 'l'] t ⟨0, 13⟩ 14 22 ∧ enumSlot t ['C', 'a', 'l', 'l'] = .ok 20 ∧
      braceBalance (Span.cut ⟨14, 20⟩ t) = 2 := by
  intro t
  obtain ⟨split, boundary, ⟨opens, between⟩, ⟨closes, zero, open'⟩, found, depth⟩ :
      t = [] ++ (callMarker ++ t.drop 13) ∧ endsWord false callMarker ≠ startsWord (t.drop 13) ∧
      (t[14]? = some '\x7b' ∧ ∀ i, 13 ≤ i → i < 14 → t[i]? ≠ some '\x7b') ∧
      (t[22]? = some '\x7d' ∧ braceBalance (Span.cut ⟨14, 23⟩ t) = 0 ∧
        ∀ i, 14 ≤ i → i < 22 → braceBalance (Span.cut ⟨14, i + 1⟩ t) ≠ 0) ∧
      enumSlot t ['C', 'a', 'l', 'l'] = .ok 20 ∧ braceBalance (Span.cut ⟨14, 20⟩ t) = 2 := by
    decide +kernel
  have first : FirstMarked ['C', 'a', 'l', 'l'] t ⟨0, 13⟩ :=
    ⟨⟨_, _, _, ⟨split, callMarker_text, rfl, boundary⟩, rfl⟩, fun r _ => Nat.zero_le _⟩
  exact ⟨⟨first, ⟨by decide, opens, between⟩, ⟨by decide, closes, zero, open'⟩⟩, found, depth⟩

end RecorderStubs
