import RecorderStubs.Proofs.Enclosure

/-! Comments and literals around the slot of an enum. The declaration and its braces are looked for
as characters, also where no code stands. What is found is code as long as no comment or literal
holds a declaration or a brace; and what is put into the slot is code unless a comment or a string
goes over the start of the last line. -/
namespace RecorderStubs

theorem blockCommentRest_closing {depth : Nat} {t : Text} (rest : blockCommentRest depth t ≠ []) :
    ∃ y, t = y ++ '*' :: '/' :: blockCommentRest depth t := by
  fun_induction blockCommentRest depth t with
  | case1 depth => exact absurd rfl rest
  | case2 depth t ih =>
    obtain ⟨y, same⟩ := ih rest
    exact ⟨'/' :: '*' :: y, congrArg (fun u => '/' :: '*' :: u) same⟩
  | case3 depth t shallow => exact ⟨[], rfl⟩
  | case4 depth t deep ih =>
    obtain ⟨y, same⟩ := ih rest
    exact ⟨'*' :: '/' :: y, congrArg (fun u => '*' :: '/' :: u) same⟩
  | case5 depth c t opens closes ih =>
    obtain ⟨y, same⟩ := ih rest
    exact ⟨c :: y, congrArg (c :: ·) same⟩

/-- A region over more than one line ends with a mark, if it ends before the text does. -/
theorem RegionAt.closing {t a r rest : Text} (h : RegionAt t a r rest) (newline : '\n' ∈ r)
    (nonempty : rest ≠ []) (other : rest ≠ ['\\']) :
    ∃ y mark, r = y ++ mark ∧ RunOf (fun c => !isQuiet c) mark := by
  obtain ⟨opener, go, x, opens, rfl, found⟩ := h.opener
  have marked : ∀ y mark, x ++ rest = y ++ (mark ++ rest) → RunOf (fun c => !isQuiet c) mark →
      ∃ y mark, opener ++ x = y ++ mark ∧ RunOf (fun c => !isQuiet c) mark := by
    intro y mark same run
    rw [← List.append_assoc] at same
    obtain rfl := List.append_cancel_right same
    exact ⟨opener ++ y, mark, (List.append_assoc ..).symm, run⟩
  have string : stringLiteralRest (x ++ rest) = rest →
      ∃ y mark, opener ++ x = y ++ mark ∧ RunOf (fun c => !isQuiet c) mark := by
    intro same
    obtain ⟨y, _, split⟩ := stringLiteralRest_closing (same.symm ▸ nonempty) (same.symm ▸ other)
    rw [same] at split
    exact marked y ['"'] split ⟨by simp, by decide⟩
  have char : charLiteralRest? (x ++ rest) = some rest →
      ∃ y mark, opener ++ x = y ++ mark ∧ RunOf (fun c => !isQuiet c) mark := by
    intro found
    obtain ⟨body, _, split⟩ := charLiteralRest?_sound found
    exact marked body ['\''] split ⟨by simp, by decide⟩
  generalize endsWord false a = afterWord at opens
  -- A line comment holds no newline; every other region is closed by a mark.
  cases opens with
  | line =>
    have free := (h.endsLine ⟨x ++ rest, rfl⟩).1
    rw [h.split, cut_middle] at free
    exact absurd newline free
  | block =>
    have same : blockCommentRest 1 (x ++ rest) = rest := Option.some.inj found
    obtain ⟨y, split⟩ := blockCommentRest_closing (same.symm ▸ nonempty)
    rw [same] at split
    exact marked (y ++ ['*']) ['/'] (by simpa using split) ⟨by simp, by decide⟩
  | string => exact string (Option.some.inj found)
  | char => exact char found
  | raw hashes kind =>
    obtain ⟨y, split⟩ := rawStringRest_sound (Option.some.inj found) nonempty
    refine marked y (rawClosing hashes) (by rw [split, List.append_assoc])
      ⟨by simp [rawClosing], allOf_cons.mpr ⟨by decide, fun c member => ?_⟩⟩
    rw [(List.mem_replicate.mp member).2]
    decide
  | byteString => exact string (Option.some.inj found)
  | byteChar => exact char found

theorem mem_cut {s : Span} {t : Text} {c : Char} :
    c ∈ s.cut t ↔ ∃ i, s.start ≤ i ∧ i < s.stop ∧ t[i]? = some c := by
  simp only [Span.cut, List.mem_iff_getElem?, List.getElem?_drop, List.getElem?_take]
  constructor
  · rintro ⟨k, found⟩
    split at found
    · exact ⟨s.start + k, by omega, by assumption, found⟩
    · cases found
  · rintro ⟨i, low, high, found⟩
    obtain ⟨k, rfl⟩ := Nat.exists_eq_add_of_le low
    exact ⟨k, by rw [if_pos high, found]⟩

theorem Clear.outside {t : Text} {offset : Nat} (h : Clear t offset) {r : Span}
    (member : r ∈ inertSpans t) (starts : r.start ≤ offset) : r.stop ≤ offset := by
  have apart := clear_iff.mp h r member
  simp only [Span.contains, Bool.and_eq_false_iff, decide_eq_false_iff_not] at apart
  omega

structure InCode (t : Text) (marker : Span) (opening closing slot : Nat) : Prop where
  marker : Clear t marker.start
  opening : Clear t opening
  closing : Clear t closing
  slot : ∀ r ∈ inertSpans t, r.start < slot → r.stop ≤ slot

/-- A region that goes over the slot holds the newline before it. -/
theorem SlotBetween.straddled {t : Text} {opening slot closing : Nat}
    (h : SlotBetween t opening slot closing) (clear : Clear t closing) {r : Span}
    (member : r ∈ inertSpans t) (starts : r.start < slot) (reaches : slot < r.stop) :
    '\n' ∈ r.cut t ∧ r.stop ≤ closing := by
  have stop := clear.outside member (Nat.le_of_lt (Nat.lt_of_lt_of_le starts h.upTo))
  rcases h.place with ⟨rfl, _⟩ | newline
  · omega
  · exact ⟨mem_cut.mpr ⟨slot - 1, by omega, by omega, newline⟩, stop⟩

theorem SlotBetween.inCode_iff {t : Text} {opening slot closing : Nat}
    (h : SlotBetween t opening slot closing) (marker : Span) :
    InCode t marker opening closing slot ↔
      Clear t marker.start ∧ Clear t opening ∧ Clear t closing ∧
        ∀ r ∈ inertSpans t, '\n' ∈ r.cut t → slot < r.stop → closing < r.stop := by
  constructor
  · rintro ⟨declared, opened, closed, free⟩
    refine ⟨declared, opened, closed, fun r member newline reaches => ?_⟩
    obtain ⟨i, low, high, found⟩ := mem_cut.mp newline
    refine Nat.lt_of_not_le fun stop => ?_
    -- The last line has no newline, so the one in the region stands before the slot.
    have before : i < slot := Nat.lt_of_not_le fun behind =>
      h.line (mem_cut.mpr ⟨i, behind, Nat.lt_of_lt_of_le high stop, found⟩)
    have := free r member (by omega)
    omega
  · rintro ⟨declared, opened, closed, free⟩
    refine ⟨declared, opened, closed, fun r member starts => ?_⟩
    refine Nat.le_of_not_lt fun reaches => ?_
    obtain ⟨newline, stop⟩ := h.straddled closed member starts reaches
    have := free r member newline reaches
    omega

/-- A region that goes over the slot ends with a mark on the last line. -/
theorem SlotBetween.clear_of_blank {t : Text} {opening slot closing : Nat}
    (h : SlotBetween t opening slot closing) (brace : t[closing]? = some '\x7d')
    (clear : Clear t closing) (blank : AllOf isBlank (Span.cut ⟨slot, closing⟩ t)) {r : Span}
    (member : r ∈ inertSpans t) (starts : r.start < slot) : r.stop ≤ slot := by
  refine Nat.le_of_not_lt fun reaches => ?_
  obtain ⟨newline, stop⟩ := h.straddled clear member starts reaches
  obtain ⟨a, r, rest, region, rfl⟩ := mem_inertSpans member
  have behind : rest[closing - (a.length + r.length)]? = some '\x7d' := by
    rw [← region.drop_stop, List.getElem?_drop, Nat.add_sub_cancel' stop, brace]
  have nonempty : rest ≠ [] := by
    rintro rfl
    cases behind
  have other : rest ≠ ['\\'] := by
    rintro rfl
    simpa using List.mem_of_getElem? behind
  rw [region.split, cut_middle] at newline
  obtain ⟨y, mark, rfl, filled, loud⟩ := region.closing newline nonempty other
  obtain ⟨z, c, rfl⟩ := (List.eq_nil_or_concat mark).resolve_left filled
  have shape : t = (a ++ (y ++ z)) ++ c :: rest := by
    rw [region.split]
    simp
  have last : t[(a ++ (y ++ z)).length]? = some c := by
    rw [shape, getElem?_behind]
  have size : a.length + (y ++ z.concat c).length = (a ++ (y ++ z)).length + 1 := by
    simp
    omega
  rw [size] at reaches stop
  have inside : c ∈ Span.cut ⟨slot, closing⟩ t :=
    mem_cut.mpr ⟨_, Nat.le_of_lt_succ reaches, stop, last⟩
  have quiet := quiet_of_class (by decide) (blank c inside)
  simpa [quiet] using loud c (by simp)

/-- A region without a brace, in which no declaration of the enum starts. -/
structure Harmless (name t : Text) (r : Span) : Prop where
  marker : ∀ s, MarkedAt name t s → r.contains s.start = false
  opening : '\x7b' ∉ r.cut t
  closing : '\x7d' ∉ r.cut t

theorem MarkedAt.head {name t : Text} {s : Span} (h : MarkedAt name t s) :
    t[s.start]? = some 'p' := by
  obtain ⟨x, m, rest, marks, rfl⟩ := h
  obtain ⟨u, rfl⟩ := marks.marker.head
  rw [marks.split, List.cons_append, getElem?_behind]

theorem MarkedAt.proper {name t : Text} {s : Span} (h : MarkedAt name t s) : s.start ≤ s.stop := by
  obtain ⟨x, m, rest, _, rfl⟩ := h
  exact Nat.le_add_right ..

theorem outside_of_free {t : Text} {offset : Nat} {c : Char} (found : t[offset]? = some c)
    {r : Span} (free : c ∉ r.cut t) : r.contains offset = false := by
  rw [Bool.eq_false_iff]
  intro inside
  simp only [Span.contains, Bool.and_eq_true, decide_eq_true_eq] at inside
  exact free (mem_cut.mpr ⟨offset, inside.1, inside.2, found⟩)

/-- Regions that start behind an offset do not hold it. -/
theorem clear_up_to {t : Text} {offset bound : Nat} (low : offset ≤ bound)
    (h : ∀ r ∈ inertSpans t, r.start ≤ bound → r.contains offset = false) : Clear t offset := by
  refine clear_iff.mpr fun r member => ?_
  by_cases starts : r.start ≤ bound
  · exact h r member starts
  · simp only [Span.contains, Bool.and_eq_false_iff, decide_eq_false_iff_not]
    omega

theorem EnumBody.clear {name t : Text} {marker : Span} {opening closing : Nat}
    (h : EnumBody name t marker opening closing)
    (harmless : ∀ r ∈ inertSpans t, r.start ≤ closing → Harmless name t r) :
    Clear t marker.start ∧ Clear t opening ∧ Clear t closing := by
  have proper := h.declared.marked.proper
  have behind := h.opened.behind
  have beyond := h.closed.behind
  exact ⟨clear_up_to (by omega) fun r member starts =>
      (harmless r member starts).marker marker h.declared.marked,
    clear_up_to (by omega) fun r member starts =>
      outside_of_free h.opened.brace (harmless r member starts).opening,
    clear_up_to (Nat.le_refl _) fun r member starts =>
      outside_of_free h.closed.brace (harmless r member starts).closing⟩

/-- The declaration, the braces and the slot that are found are code just when no region holds the
start of the declaration or one of the braces, and none with a newline ends between the slot and the
closing brace. That is so if regions hold neither declarations nor braces and the last line is
blank. -/
theorem slot_in_code {t : Text} {i : Identifier} {slot : Nat} (h : enumSlot t i.text = .ok slot) :
    ∃ marker opening closing, EnumBody i.text t marker opening closing ∧
      (InCode t marker opening closing slot ↔
        Clear t marker.start ∧ Clear t opening ∧ Clear t closing ∧
          ∀ r ∈ inertSpans t, '\n' ∈ r.cut t → slot < r.stop → closing < r.stop) ∧
      ((∀ r ∈ inertSpans t, r.start ≤ closing → Harmless i.text t r) →
        Clear t marker.start ∧ Clear t opening ∧ Clear t closing ∧
          (AllOf isBlank (Span.cut ⟨slot, closing⟩ t) → InCode t marker opening closing slot)) := by
  obtain ⟨marker, opening, closing, body, slotted⟩ := exists_enumBody h
  refine ⟨marker, opening, closing, body, slotted.inCode_iff marker, fun harmless => ?_⟩
  obtain ⟨declared, opened, closed⟩ := body.clear harmless
  exact ⟨declared, opened, closed, fun blank => ⟨declared, opened, closed, fun r member starts =>
    slotted.clear_of_blank body.closed.brace closed blank member starts⟩⟩

def commentedEnum : Text := "/* the\n   calls */\npub enum Call \x7b\n    a, // 'b\n\x7d\n".toList

theorem commentedEnum_harmless (r : Span) (member : r ∈ inertSpans commentedEnum) (name : Text) :
    Harmless name commentedEnum r := by
  have spans : inertSpans commentedEnum = [⟨0, 18⟩, ⟨42, 47⟩] := by decide +kernel
  rw [spans] at member
  have free : ∀ r ∈ [(⟨0, 18⟩ : Span), ⟨42, 47⟩], 'p' ∉ r.cut commentedEnum ∧
      '\x7b' ∉ r.cut commentedEnum ∧ '\x7d' ∉ r.cut commentedEnum := by decide +kernel
  obtain ⟨declared, opened, closed⟩ := free r member
  exact ⟨fun s marked => outside_of_free marked.head declared, opened, closed⟩

theorem slot_in_code_commented :
    enumSlot commentedEnum ['C', 'a', 'l', 'l'] = .ok 48 ∧ ∃ marker opening closing,
      EnumBody ['C', 'a', 'l', 'l'] commentedEnum marker opening closing ∧
      InCode commentedEnum marker opening closing 48 := by
  have found : enumSlot commentedEnum Identifier.usualEnum.text = .ok 48 := by decide +kernel
  obtain ⟨marker, opening, closing, body, _, usual⟩ := slot_in_code found
  obtain ⟨_, _, _, inCode⟩ := usual fun r member _ => commentedEnum_harmless r member _
  have only : ∀ k < commentedEnum.length, commentedEnum[k]? = some '\x7d' → k = 48 := by
    decide +kernel
  obtain ⟨inside, _⟩ := List.getElem?_eq_some_iff.mp body.closed.brace
  obtain rfl := only closing inside body.closed.brace
  exact ⟨found, marker, opening, 48, body, inCode (by decide +kernel)⟩

/-- An enum that has been commented out is found before the one in the code. -/
theorem slot_inside_comment :
    let t := "// pub enum Call \x7b \x7d\npub enum Call \x7b\n\x7d\n".toList
    EnumBody ['C', 'a', 'l', 'l'] t ⟨3, 16⟩ 17 19 ∧ enumSlot t ['C', 'a', 'l', 'l'] = .ok 19 ∧
      (⟨0, 20⟩ : Span) ∈ inertSpans t := by
  intro t
  obtain ⟨early, split, boundary, ⟨opens, between⟩, ⟨closes, zero, open'⟩, found, region⟩ :
      (∀ k < 3, t[k]? ≠ some 'p') ∧ t = ['/', '/', ' '] ++ (callMarker ++ t.drop 16) ∧
      endsWord false callMarker ≠ startsWord (t.drop 16) ∧
      (t[17]? = some '\x7b' ∧ ∀ i, 16 ≤ i → i < 17 → t[i]? ≠ some '\x7b') ∧
      (t[19]? = some '\x7d' ∧ braceBalance (Span.cut ⟨17, 20⟩ t) = 0 ∧
        ∀ i, 17 ≤ i → i < 19 → braceBalance (Span.cut ⟨17, i + 1⟩ t) ≠ 0) ∧
      enumSlot t ['C', 'a', 'l', 'l'] = .ok 19 ∧ (⟨0, 20⟩ : Span) ∈ inertSpans t := by
    decide +kernel
  have first : FirstMarked ['C', 'a', 'l', 'l'] t ⟨3, 16⟩ :=
    ⟨⟨_, _, _, ⟨split, callMarker_text, rfl, boundary⟩, rfl⟩,
      fun r other => Nat.le_of_not_lt fun before => early r.start before other.head⟩
  exact ⟨⟨first, ⟨by decide, opens, between⟩, ⟨by decide, closes, zero, open'⟩⟩, found, region⟩

end RecorderStubs
