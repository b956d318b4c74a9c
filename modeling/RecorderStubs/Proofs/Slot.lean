import RecorderStubs.Proofs.Call
import RecorderStubs.Recording.Slot

/-! The slot of an enum: which texts declare the enum, where its braces are, and where a variant
goes. A slot lies behind the opening brace and not behind the closing one; inserting a line there
moves the slot right behind the line. -/
namespace RecorderStubs

/-- The words that declare an enum, up to its name. -/
def MarkerText (name m : Text) : Prop :=
  ∃ gap gap', RunOf isBlank gap ∧ RunOf isBlank gap' ∧
    m = publicWord ++ (gap ++ (enumWord ++ (gap' ++ name)))

theorem ofName_identifier (i : Identifier) : EnumTarget.ofName i.text = .word i.text := by
  have start : ∀ t, i.text ≠ '<' :: t := fun t same => by
    have letter := i.run.2 '<' (by simp [same])
    revert letter
    decide
  simp [EnumTarget.ofName, start]

theorem literal?_blank {name : Text} (h : RunOf isIdentifierChar name) {c : Char}
    (blank : isBlank c = true) (t : Text) : literal? name (c :: t) = none := by
  obtain ⟨e, name, rfl, letter⟩ := h.head
  refine literal?_eq_none_of_head fun same => ?_
  rw [← same, solid_of_identifierChar letter] at blank
  cases blank

theorem rests_behind_gap {name : Text} (h : RunOf isIdentifierChar name) (t : Text) :
    (runRests isBlank t).flatMap (EnumTarget.word name).rests =
      ((gap? t).bind (literal? name)).toList := by
  obtain ⟨blanks, blank, split⟩ := exists_blanks t
  have stop := stops_skipBlanks t
  generalize skipBlanks t = rest at split stop
  subst split
  have longest : (blanks ++ rest).takeWhile isBlank = blanks := takeWhile_run blank stop
  unfold runRests
  rw [longest]
  cases blanks with
  | nil =>
    have none : gap? ([] ++ rest) = none := by
      rw [gap?_eq_run?, List.nil_append, run?_eq_none.mpr stop]
      rfl
    rw [none]
    rfl
  | cons c blanks =>
    have behind : gap? (c :: blanks ++ rest) = some rest := gap?_append ⟨by simp, blank⟩ stop
    have others : ((List.range blanks.length).map Nat.succ).flatMap (fun k =>
        (EnumTarget.word name).rests
          ((c :: blanks ++ rest).drop ((c :: blanks).length - k))) = [] := by
      refine List.flatMap_eq_nil_iff.mpr fun k member => ?_
      obtain ⟨i, small, rfl⟩ := List.mem_map.mp member
      rw [List.mem_range] at small
      have short : (c :: blanks).length - i.succ < (c :: blanks).length := by
        rw [List.length_cons]
        omega
      have first : isBlank (c :: blanks)[(c :: blanks).length - i.succ] = true :=
        blank _ (List.getElem_mem short)
      rw [List.drop_append_of_le_length (Nat.le_of_lt short), List.drop_eq_getElem_cons short]
      simp only [EnumTarget.rests, List.cons_append]
      rw [literal?_blank h first]
      rfl
    rw [behind, List.flatMap_map, List.length_cons, List.range_succ_eq_map, List.flatMap_cons,
      ← List.length_cons (a := c), others, List.append_nil, Nat.sub_zero, List.drop_left]
    rfl

theorem wordEndsAt_append {m : Text} (nonempty : m ≠ []) (rest : Text) :
    wordEndsAt (m ++ rest) rest = (endsWord false m != startsWord rest) := by
  obtain ⟨m, c, rfl⟩ := (List.eq_nil_or_concat m).resolve_left nonempty
  have size : offsetIn (m.concat c ++ rest) rest - 1 = m.length := by
    simp [offsetIn]
    omega
  rw [wordEndsAt, size, List.concat_eq_append, endsWord_concat, List.append_assoc, List.drop_left]
  rfl

theorem MarkerText.wordEndsAt {name m : Text} (h : MarkerText name m) (rest : Text) :
    wordEndsAt (m ++ rest) rest = true ↔ endsWord false m ≠ startsWord rest := by
  have nonempty : m ≠ [] := by
    obtain ⟨gap, gap', _, _, rfl⟩ := h
    simp [publicWord]
  rw [wordEndsAt_append nonempty, bne_iff_ne]

theorem enumMarker?_eq_some {name t rest : Text} (h : RunOf isIdentifierChar name) :
    enumMarker? (.word name) t = some rest ↔
      ∃ m, MarkerText name m ∧ t = m ++ rest ∧ endsWord false m ≠ startsWord rest := by
  simp only [enumMarker?, Option.bind_eq_bind, Option.bind_eq_some_iff, rests_behind_gap h]
  constructor
  · rintro ⟨a, ha, b, hb, c, hc, found⟩
    obtain ⟨gap, run, rfl, _⟩ := gap?_eq_some.mp hb
    obtain rfl := literal?_eq_some.mp hc
    cases reached : (gap? c).bind (literal? name) with
    | none => simp [reached] at found
    | some final =>
      obtain ⟨d, hd, he⟩ := Option.bind_eq_some_iff.mp reached
      obtain ⟨gap', run', rfl, _⟩ := gap?_eq_some.mp hd
      obtain rfl := literal?_eq_some.mp he
      obtain rfl := literal?_eq_some.mp ha
      have marker : MarkerText name (publicWord ++ (gap ++ (enumWord ++ (gap' ++ name)))) :=
        ⟨gap, gap', run, run', rfl⟩
      have ends := List.find?_some found
      rw [reached] at found
      obtain rfl : rest = final := by simpa using List.mem_of_find?_eq_some found
      refine ⟨_, marker, by simp only [List.append_assoc], (marker.wordEndsAt rest).mp ?_⟩
      simpa only [List.append_assoc] using ends
  · rintro ⟨m, marker, rfl, ends⟩
    have boundary := (marker.wordEndsAt rest).mpr ends
    obtain ⟨gap, gap', run, run', rfl⟩ := marker
    have solid : Stops isBlank (name ++ rest) :=
      stops_of_run (fun _ => solid_of_identifierChar) h
    have letter : Stops isBlank (enumWord ++ (gap' ++ (name ++ rest))) :=
      stops_cons.mpr (by decide)
    simp only [List.append_assoc] at boundary ⊢
    refine ⟨_, literal?_append .., _, gap?_append run letter, _, literal?_append .., ?_⟩
    rw [gap?_append run' solid]
    simp [literal?_append, boundary]

theorem MarkerText.free {name m : Text} (h : MarkerText name m)
    (letters : AllOf isIdentifierChar name) : '\x7b' ∉ m := by
  obtain ⟨gap, gap', run, run', rfl⟩ := h
  have blank : isBlank '\x7b' = false := by decide
  simp [publicWord, enumWord, run.2.not_mem blank, run'.2.not_mem blank,
    letters.not_mem (by decide : isIdentifierChar '\x7b' = false)]

theorem enumMarker?_brace {name : Text} (h : RunOf isIdentifierChar name) {w u rest : Text}
    (found : enumMarker? (.word name) (w ++ '\x7b' :: u) = some rest) :
    ∃ w', rest = w' ++ '\x7b' :: u ∧
      ∀ v, enumMarker? (.word name) (w ++ '\x7b' :: v) = some (w' ++ '\x7b' :: v) := by
  obtain ⟨m, marker, split, ends⟩ := (enumMarker?_eq_some h).mp found
  obtain ⟨d, rfl, rfl⟩ := prefix_before split.symm (marker.free h.2)
  refine ⟨d, rfl, fun v => (enumMarker?_eq_some h).mpr ⟨m, marker, List.append_assoc .., ?_⟩⟩
  cases d with
  | nil => exact ends
  | cons c d => exact ends

theorem findMarker?_none {target : EnumTarget} {afterWord : Bool} {c : Char} {t : Text}
    (h : (if afterWord then none else enumMarker? target (c :: t)) = none) :
    findMarker? target afterWord (c :: t) = findMarker? target (isWord c) t := by
  rw [findMarker?]
  simp only [h]

theorem findMarker?_some {target : EnumTarget} {afterWord : Bool} {c : Char} {t rest : Text}
    (h : (if afterWord then none else enumMarker? target (c :: t)) = some rest) :
    findMarker? target afterWord (c :: t) = some rest := by
  rw [findMarker?]
  simp only [h]

theorem findMarker?_split {name t rest : Text} (h : RunOf isIdentifierChar name) {afterWord : Bool}
    (found : findMarker? (.word name) afterWord t = some rest) :
    ∃ x m, MarkerText name m ∧ t = x ++ (m ++ rest) := by
  induction t generalizing afterWord with
  | nil => cases found
  | cons c t ih =>
    cases here : (if afterWord then none else enumMarker? (.word name) (c :: t)) with
    | none =>
      rw [findMarker?_none here] at found
      obtain ⟨x, m, marker, rfl⟩ := ih found
      exact ⟨c :: x, m, marker, rfl⟩
    | some final =>
      rw [findMarker?_some here] at found
      cases found
      cases afterWord with
      | true => cases here
      | false =>
        obtain ⟨m, marker, split, _⟩ := (enumMarker?_eq_some h).mp here
        exact ⟨[], m, marker, split⟩

/-- The first declaration is found in the text before the brace behind it. -/
theorem findMarker?_brace {name : Text} (h : RunOf isIdentifierChar name) {w w' u : Text}
    {afterWord : Bool}
    (found : findMarker? (.word name) afterWord (w ++ '\x7b' :: u) = some (w' ++ '\x7b' :: u))
    (v : Text) :
    findMarker? (.word name) afterWord (w ++ '\x7b' :: v) = some (w' ++ '\x7b' :: v) := by
  induction w generalizing afterWord with
  | nil =>
    -- The declaration would start at the brace or behind it.
    exfalso
    obtain ⟨x, m, marker, split⟩ := findMarker?_split h found
    have sizes := congrArg List.length split
    obtain ⟨gap, gap', _, _, rfl⟩ := marker
    simp [publicWord] at sizes
    omega
  | cons c w ih =>
    rw [List.cons_append] at found ⊢
    cases afterWord with
    | true => exact ih found
    | false =>
      have skip : ∀ {u}, enumMarker? (.word name) (c :: (w ++ '\x7b' :: u)) = none →
          findMarker? (.word name) false (c :: (w ++ '\x7b' :: u)) =
            findMarker? (.word name) (isWord c) (w ++ '\x7b' :: u) :=
        fun none => findMarker?_none none
      have take : ∀ {u rest}, enumMarker? (.word name) (c :: (w ++ '\x7b' :: u)) = some rest →
          findMarker? (.word name) false (c :: (w ++ '\x7b' :: u)) = some rest :=
        fun some => findMarker?_some some
      cases here : enumMarker? (.word name) (c :: (w ++ '\x7b' :: u)) with
      | none =>
        rw [skip here] at found
        cases there : enumMarker? (.word name) (c :: (w ++ '\x7b' :: v)) with
        | none =>
          rw [skip there]
          exact ih found
        | some rest =>
          obtain ⟨_, _, all⟩ := enumMarker?_brace (w := c :: w) h there
          have again := all u
          rw [List.cons_append, here] at again
          cases again
      | some rest =>
        rw [take here] at found
        obtain ⟨w'', same, all⟩ := enumMarker?_brace (w := c :: w) h here
        rw [Option.some.inj found] at same
        obtain rfl := List.append_cancel_right same
        exact take (all v)

theorem closingBrace?_split {depth : Nat} {t closing : Text}
    (h : closingBrace? depth t = some closing) :
    (∃ inner, t = inner ++ closing) ∧ ∃ u, closing = '\x7d' :: u := by
  induction t generalizing depth with
  | nil => cases h
  | cons c t ih =>
    have further : ∀ {depth}, closingBrace? depth t = some closing →
        (∃ inner, c :: t = inner ++ closing) ∧ ∃ u, closing = '\x7d' :: u := fun h => by
      obtain ⟨⟨inner, same⟩, head⟩ := ih h
      exact ⟨⟨c :: inner, by rw [same]; rfl⟩, head⟩
    unfold closingBrace? at h
    split at h
    · exact further h
    · split at h
      · rename_i brace
        split at h
        · cases h
          exact ⟨⟨[], rfl⟩, t, by rw [brace]⟩
        · exact further h
      · exact further h

/-- A text whose braces match each other: inside open braces it changes nothing. -/
def Neutral (v : Text) : Prop :=
  ∀ depth t, 1 ≤ depth → closingBrace? depth (v ++ t) = closingBrace? depth t

theorem neutral_of_free {v : Text} (opening : '\x7b' ∉ v) (closing : '\x7d' ∉ v) : Neutral v := by
  induction v with
  | nil => exact fun _ _ _ => rfl
  | cons c v ih =>
    simp only [List.mem_cons, not_or] at opening closing
    intro depth t open'
    rw [List.cons_append, closingBrace?, if_neg (Ne.symm opening.1), if_neg (Ne.symm closing.1)]
    exact ih opening.2 closing.2 depth t open'

theorem Neutral.append {v w : Text} (hv : Neutral v) (hw : Neutral w) : Neutral (v ++ w) := by
  intro depth t open'
  rw [List.append_assoc, hv depth _ open', hw depth t open']

theorem Neutral.braced {v : Text} (h : Neutral v) : Neutral ('\x7b' :: (v ++ ['\x7d'])) := by
  intro depth t open'
  rw [List.cons_append, List.append_assoc, closingBrace?, if_pos rfl, h (depth + 1) _ (by omega),
    List.singleton_append, closingBrace?, if_neg (by decide), if_pos rfl, if_neg (by omega)]
  rfl

theorem closingBrace?_insert {v : Text} (h : Neutral v) {depth : Nat} (open' : 1 ≤ depth)
    {a b closing : Text} (found : closingBrace? depth (a ++ b) = some closing)
    (inside : closing.length ≤ b.length) :
    closingBrace? depth (a ++ (v ++ b)) = some closing := by
  induction a generalizing depth with
  | nil => exact (h depth b open').trans found
  | cons c a ih =>
    rw [List.cons_append, closingBrace?] at found ⊢
    by_cases opening : c = '\x7b'
    · rw [if_pos opening] at found ⊢
      exact ih (by omega) found
    · rw [if_neg opening] at found ⊢
      by_cases closes : c = '\x7d'
      · rw [if_pos closes] at found ⊢
        by_cases last : depth ≤ 1
        · rw [if_pos last] at found
          cases found
          rw [List.length_cons, List.length_append] at inside
          omega
        · rw [if_neg last] at found ⊢
          exact ih (by omega) found
      · rw [if_neg closes] at found ⊢
        exact ih open' found

theorem lineStart_append (y z : Text) :
    lineStart (y ++ z) y.length = y.length - (y.reverse.takeWhile (· != '\n')).length := by
  rw [lineStart, List.take_left]

theorem lineStart_behind_newline {y below z : Text} (free : '\n' ∉ below) :
    lineStart ((y ++ '\n' :: below) ++ z) (y ++ '\n' :: below).length = y.length + 1 := by
  have line : (y ++ '\n' :: below).reverse.takeWhile (· != '\n') = below.reverse := by
    have run : AllOf (· != '\n') below.reverse := fun c member => by
      have other : c ≠ '\n' := fun same => free (same ▸ List.mem_reverse.mp member)
      simpa using other
    have stop : Stops (· != '\n') ('\n' :: y.reverse) := stops_cons.mpr (by decide)
    have turned : (y ++ '\n' :: below).reverse = below.reverse ++ '\n' :: y.reverse := by simp
    rw [turned]
    exact takeWhile_run run stop
  rw [lineStart_append, line]
  simp only [List.length_append, List.length_cons, List.length_reverse]
  omega

theorem lineStart_le {w inner z : Text} {c : Char} (free : '\n' ∉ c :: inner) :
    lineStart ((w ++ c :: inner) ++ z) (w ++ c :: inner).length ≤ w.length := by
  have line : (c :: inner).reverse.length ≤
      ((w ++ c :: inner).reverse.takeWhile (· != '\n')).length := by
    have run : ∀ d ∈ (c :: inner).reverse, (d != '\n') = true := fun d member => by
      have other : d ≠ '\n' := fun same => free (same ▸ List.mem_reverse.mp member)
      simpa using other
    rw [List.reverse_append, List.takeWhile_append_of_pos run, List.length_append]
    exact Nat.le_add_right ..
  rw [lineStart_append]
  simp only [List.length_append, List.length_reverse] at line ⊢
  omega

/-- An enum whose slot lies between `above` and `below`. It is the start of a line, or the closing
brace on the line of the opening one. -/
structure SlotParts (t name w above below closing : Text) : Prop where
  split : t = w ++ '\x7b' :: (above ++ (below ++ closing))
  found : ∃ w', '\x7b' ∉ w' ∧ findMarker? (.word name) false t =
    some (w' ++ '\x7b' :: (above ++ (below ++ closing)))
  closes : closingBrace? 1 (above ++ (below ++ closing)) = some closing
  line : '\n' ∉ below
  place : (below = [] ∧ '\n' ∉ above) ∨ above.getLast? = some '\n'

theorem dropWhile_before {c : Char} {w u : Text} (free : c ∉ w) :
    (w ++ c :: u).dropWhile (· != c) = c :: u := by
  refine dropWhile_run (fun d member => ?_) (stops_cons.mpr (by simp))
  have other : d ≠ c := fun same => free (same ▸ member)
  simpa using other

theorem dropWhile_opening {rest body : Text} {brace : Char}
    (h : rest.dropWhile (· != '\x7b') = brace :: body) :
    brace = '\x7b' ∧ ∃ gap, '\x7b' ∉ gap ∧ rest = gap ++ brace :: body := by
  have mark := stops_dropWhile (· != '\x7b') rest
  rw [h, stops_cons] at mark
  refine ⟨by simpa using mark, rest.takeWhile (· != '\x7b'), ?_, ?_⟩
  · exact (allOf_takeWhile _ rest).not_mem (by decide)
  · rw [← h, List.takeWhile_append_dropWhile]

theorem SlotParts.eq {t w above below closing : Text} {i : Identifier}
    (h : SlotParts t i.text w above below closing) :
    enumSlot t i.text = .ok (w ++ '\x7b' :: above).length := by
  obtain ⟨w', free, found⟩ := h.found
  have opened : offsetIn t ('\x7b' :: (above ++ (below ++ closing))) = w.length := by
    rw [h.split, offsetIn, List.length_append]
    omega
  have whole : t = (w ++ '\x7b' :: (above ++ below)) ++ closing := by
    rw [h.split]
    simp
  have closed : offsetIn t closing = (w ++ '\x7b' :: (above ++ below)).length := by
    rw [whole, offsetIn, List.length_append]
    omega
  simp only [enumSlot, ofName_identifier, found, dropWhile_before free, h.closes, opened, closed]
  rcases h.place with ⟨rfl, oneLine⟩ | newline
  · have start := lineStart_le (w := w) (z := closing) (by simp [oneLine] : '\n' ∉ '\x7b' :: above)
    rw [whole]
    simp only [List.append_nil]
    rw [if_pos start]
  · obtain ⟨y, rfl⟩ := List.getLast?_eq_some_iff.mp newline
    have start := lineStart_behind_newline (y := w ++ '\x7b' :: y) (z := closing) h.line
    have shape : w ++ '\x7b' :: (y ++ ['\n'] ++ below) = (w ++ '\x7b' :: y) ++ '\n' :: below := by
      simp
    have beyond : ¬ (w ++ '\x7b' :: y).length + 1 ≤ w.length := by
      simp only [List.length_append, List.length_cons]
      omega
    rw [whole, shape, start, if_neg beyond]
    simp [Nat.add_assoc]

theorem exists_last_line (inner : Text) : ∃ above below, inner = above ++ below ∧ '\n' ∉ below ∧
    ((below = [] ∧ '\n' ∉ above) ∨ above.getLast? = some '\n') := by
  by_cases newline : '\n' ∈ inner
  · obtain ⟨as, bs, turned, free⟩ := List.eq_append_cons_of_mem (List.mem_reverse.mpr newline)
    refine ⟨bs.reverse ++ ['\n'], as.reverse, ?_, by simpa using free, .inr (by simp)⟩
    rw [← List.reverse_reverse inner, turned]
    simp
  · exact ⟨inner, [], by simp, by simp, .inl ⟨rfl, newline⟩⟩

theorem exists_slotParts {t : Text} {i : Identifier} {offset : Nat}
    (h : enumSlot t i.text = .ok offset) : ∃ w above below closing,
      SlotParts t i.text w above below closing ∧ offset = (w ++ '\x7b' :: above).length := by
  have parts : ∃ w above below closing, SlotParts t i.text w above below closing := by
    unfold enumSlot at h
    rw [ofName_identifier] at h
    split at h
    · cases h
    · rename_i rest found
      split at h
      · cases h
      · rename_i brace body dropped
        split at h
        · cases h
        · rename_i closing closes
          obtain ⟨rfl, gap, free, rfl⟩ := dropWhile_opening dropped
          obtain ⟨⟨inner, rfl⟩, _⟩ := closingBrace?_split closes
          obtain ⟨above, below, rfl, line, place⟩ := exists_last_line inner
          obtain ⟨x, m, _, split⟩ := findMarker?_split i.run found
          rw [List.append_assoc] at closes found
          refine ⟨x ++ (m ++ gap), above, below, closing, ?_, ⟨gap, free, found⟩, closes, line,
            place⟩
          rw [split]
          simp only [List.append_assoc]
  obtain ⟨w, above, below, closing, parts⟩ := parts
  refine ⟨w, above, below, closing, parts, ?_⟩
  rw [parts.eq] at h
  exact (Except.ok.inj h).symm

theorem SlotParts.whole {t name w above below closing : Text}
    (h : SlotParts t name w above below closing) :
    t = (w ++ '\x7b' :: above) ++ (below ++ closing) := by
  rw [h.split]
  simp

theorem enumSlot_bounds {t : Text} {i : Identifier} {offset : Nat}
    (h : enumSlot t i.text = .ok offset) : 0 < offset ∧ offset ≤ t.length := by
  obtain ⟨w, above, below, closing, parts, rfl⟩ := exists_slotParts h
  rw [parts.whole]
  simp only [List.length_append, List.length_cons]
  omega

/-- A line put into the slot stays above the slot. -/
theorem SlotParts.insert {t w above below closing v : Text} {i : Identifier}
    (h : SlotParts t i.text w above below closing) (neutral : Neutral v)
    (line : v.getLast? = some '\n') :
    SlotParts (w ++ '\x7b' :: ((above ++ v) ++ (below ++ closing))) i.text w (above ++ v) below
      closing := by
  obtain ⟨w', free, found⟩ := h.found
  rw [h.split] at found
  refine ⟨rfl, ⟨w', free, findMarker?_brace i.run found _⟩, ?_, h.line, .inr ?_⟩
  · rw [List.append_assoc]
    exact closingBrace?_insert neutral (Nat.le_refl 1) h.closes (by simp)
  · rw [List.getLast?_append, line]
    rfl

theorem enumSlot_insert {t v : Text} {i : Identifier} {offset : Nat}
    (h : enumSlot t i.text = .ok offset) (neutral : Neutral v) (line : v.getLast? = some '\n') :
    enumSlot (t.take offset ++ v ++ t.drop offset) i.text = .ok (offset + v.length) := by
  obtain ⟨w, above, below, closing, parts, rfl⟩ := exists_slotParts h
  have shape : t.take (w ++ '\x7b' :: above).length ++ v ++ t.drop (w ++ '\x7b' :: above).length =
      w ++ '\x7b' :: ((above ++ v) ++ (below ++ closing)) := by
    rw [parts.whole, List.take_left, List.drop_left]
    simp
  rw [shape, (parts.insert neutral line).eq, ← List.cons_append, ← List.append_assoc]
  exact congrArg Except.ok List.length_append

theorem neutral_of_signature {v : Text} (h : AllOf isSignatureChar v) : Neutral v :=
  neutral_of_free (h.not_mem (by decide)) (h.not_mem (by decide))

theorem fieldText_signature {p : Parameter} (named : RunOf isWord p.name)
    (typed : TypeText p.type) : AllOf isSignatureChar (fieldText p) :=
  allOf_append.mpr ⟨allOf_append.mpr ⟨named.2.imp signature_of_word, by decide⟩, typed.signature⟩

theorem fields_signature {s : Signature} (h : s.Valid) :
    AllOf isSignatureChar (separator.intercalate (s.parameters.map fieldText)) := by
  refine allOf_intercalate (by decide) fun part member => ?_
  obtain ⟨p, listed, rfl⟩ := List.mem_map.mp member
  obtain ⟨named, typed⟩ := h.parameters p listed
  exact fieldText_signature named typed

theorem variantText_neutral {s : Signature} (h : s.Valid) : Neutral (variantText s) := by
  have shape : variantText s = (List.replicate 4 ' ' ++ (s.name ++ [' '])) ++
      ('\x7b' :: (([' '] ++ (separator.intercalate (s.parameters.map fieldText) ++ [' '])) ++
        ['\x7d']) ++ [',', '\n']) := by
    simp [variantText]
  rw [shape]
  refine (neutral_of_signature ?_).append
    ((Neutral.braced (neutral_of_signature ?_)).append (neutral_of_signature (by decide)))
  · simp only [allOf_append]
    exact ⟨by decide, h.name.2.imp signature_of_word, by decide⟩
  · simp only [allOf_append]
    exact ⟨by decide, fields_signature h, by decide⟩

theorem variantText_line (s : Signature) : (variantText s).getLast? = some '\n' := by
  rw [variantText, List.getLast?_append]
  rfl

end RecorderStubs
