import Mathlib.Data.List.Basic
import Mathlib.Data.List.Pairwise
import RecorderStubs.Proofs.Outline

/-! The methods of a text, taken apart. A method is read from its own text alone, so methods behind
an offset are those of the text from there, moved; and where declarations can start is settled
piece by piece. -/
namespace RecorderStubs

def Declaration.shift (d : Nat) (x : Declaration) : Declaration :=
  ⟨x.signature, x.placeholder.shift d, d + x.start⟩

/-- A method of a part of `t` that starts at `d`, seen in the whole. -/
def Method.placed (t : Text) (d : Nat) (m : Method) : Method :=
  ⟨d + m.offset, lineOf t ↑(d + m.offset), m.name, m.stub?.map (Declaration.shift d)⟩

theorem Declaration.shift_shift (d e : Nat) (x : Declaration) :
    (x.shift e).shift d = x.shift (d + e) := by
  simp [Declaration.shift, Span.shift, Nat.add_assoc, Int.add_assoc]

theorem Method.placed_placed (t t' : Text) (d e : Nat) (m : Method) :
    Method.placed t d (Method.placed t' e m) = Method.placed t (d + e) m := by
  simp [Method.placed, Function.comp_def, Declaration.shift_shift, Nat.add_assoc]

theorem textFrom_append (g v : Text) (offset : Nat) :
    textFrom (g ++ v) ↑(g.length + offset) = textFrom v ↑offset := by
  rw [textFrom, textFrom, Int.toNat_natCast, Int.toNat_natCast, ← List.drop_drop, List.drop_left]

theorem offsetIn_append {g v rest : Text} (h : rest <:+ v) :
    offsetIn (g ++ v) rest = g.length + offsetIn v rest := by
  have short := h.length_le
  rw [offsetIn, offsetIn, List.length_append]
  omega

theorem methodAt?_append (g v : Text) (offset : Nat) : methodAt? (g ++ v) (g.length + offset) =
    (methodAt? v offset).map (Method.placed (g ++ v) g.length) := by
  unfold methodAt? parse
  rw [textFrom_append]
  cases read : Reading.of (textFrom v offset) with
  | nothing => rfl
  | method name rest => rfl
  | stub s body rest =>
    obtain ⟨before, placeholder, stub, rfl⟩ := reading_eq_stub.mp read
    have suffix : before ++ (placeholder ++ rest) <:+ v := stub.split ▸ List.drop_suffix ..
    have suffix' : placeholder ++ rest <:+ v := (List.suffix_append ..).trans suffix
    simp only [offsetIn_append suffix', offsetIn_append ((List.suffix_append ..).trans suffix'),
      Option.map_some, Method.placed, Declaration.shift, Span.shift, Int.natCast_add]

theorem StubText.retail {s : Signature} {before placeholder rest t : Text}
    (h : StubText s before placeholder rest t) (u : Text) :
    StubText s before placeholder u (before ++ (placeholder ++ u)) := by
  obtain ⟨header, parameters, opening, valid, many, opens, placed, split, _⟩ := h
  exact ⟨header, parameters, opening, valid, many, opens, placed, split, by simp⟩

/-- What is said of the text at its head. -/
inductive Heading (v : Text) : Option Method → Prop where
  | stub {s : Signature} {before placeholder rest : Text} :
      StubText s before placeholder rest v →
      Heading v (some ⟨0, 1, s.name,
        some ⟨s, ⟨before.length, before.length + placeholder.length⟩, 0⟩⟩)
  | method {name header rest : Text} :
      (∀ s before placeholder final, ¬ StubText s before placeholder final v) →
      HeaderText name header → v = header ++ rest → Stops isWord rest →
      Heading v (some ⟨0, 1, name, none⟩)
  | nothing :
      (∀ name header rest, HeaderText name header → Stops isWord rest → v ≠ header ++ rest) →
      Heading v none

theorem methodAt?_stub {v : Text} {s : Signature} {before placeholder rest : Text}
    (h : StubText s before placeholder rest v) : methodAt? v 0 = some ⟨0, 1, s.name,
      some ⟨s, ⟨before.length, before.length + placeholder.length⟩, 0⟩⟩ := by
  have read : Reading.of (textFrom v ↑(0 : Nat)) = .stub s (placeholder ++ rest) rest :=
    reading_eq_stub.mpr ⟨before, placeholder, h, rfl⟩
  have first : offsetIn v (placeholder ++ rest) = before.length := by
    rw [h.split, offsetIn, List.length_append]
    omega
  have last : offsetIn v rest = before.length + placeholder.length := by
    rw [h.split, offsetIn, List.length_append, List.length_append]
    omega
  simp only [methodAt?, parse, read, first, last]
  rfl

theorem heading (v : Text) : Heading v (methodAt? v 0) := by
  cases read : Reading.of (textFrom v ↑(0 : Nat)) with
  | nothing =>
    simp only [methodAt?, parse, read]
    exact .nothing (reading_eq_nothing.mp read)
  | method name rest =>
    obtain ⟨none, header, ps, a, valid, _, split, stop⟩ := reading_eq_method.mp read
    simp only [methodAt?, parse, read]
    exact .method none valid split stop
  | stub s body rest =>
    obtain ⟨before, placeholder, stub, _⟩ := reading_eq_stub.mp read
    have stub : StubText s before placeholder rest v := stub
    rw [methodAt?_stub stub]
    exact .stub stub

theorem Heading.eq {v : Text} {m : Option Method} (h : Heading v m) : methodAt? v 0 = m := by
  have again := heading v
  cases h with
  | stub stub => exact methodAt?_stub stub
  | @method name header rest none valid split stop =>
    generalize methodAt? v 0 = m at again
    cases again with
    | stub stub => exact absurd stub (none _ _ _ _)
    | @method name' header' rest' _ valid' split' stop' =>
      have read := header?_eq_some.mpr ⟨header, valid, split, stop⟩
      rw [header?_eq_some.mpr ⟨header', valid', split', stop'⟩] at read
      cases read
      rfl
    | nothing other => exact absurd split (other _ _ _ valid stop)
  | nothing none =>
    generalize methodAt? v 0 = m at again
    cases again with
    | @stub s before placeholder rest stub =>
      have read := reading_eq_stub.mpr ⟨before, placeholder, stub, rfl⟩
      rw [reading_eq_nothing.mpr none] at read
      cases read
    | method _ valid split stop => exact absurd split (none _ _ _ valid stop)
    | nothing _ => rfl

theorem lineOf_append (g v : Text) : lineOf (g ++ v) ↑g.length = g.count '\n' + 1 := by
  simp [lineOf, textBefore]

theorem methodAt?_offset {t : Text} {offset : Nat} {m : Method} (h : methodAt? t offset = some m) :
    m.offset = offset := by
  unfold methodAt? at h
  split at h
  · cases h
    rfl
  · cases h
    rfl
  · cases h

/-- A method depends on the text before it only for its line. -/
theorem methodAt?_congr {v v' : Text} (h : methodAt? v 0 = methodAt? v' 0) (g : Text) :
    methodAt? (g ++ v) g.length = methodAt? (g ++ v') g.length := by
  have here := methodAt?_append g v 0
  have there := methodAt?_append g v' 0
  rw [Nat.add_zero] at here there
  rw [here, there, h]
  have read := heading v'
  generalize methodAt? v' 0 = m at read
  cases read <;> simp [Method.placed, -Int.natCast_add, lineOf_append]

theorem HeaderText.before_brace {name header rest w u : Text} (h : HeaderText name header)
    (stop : Stops isWord rest) (split : w ++ '\x7b' :: u = header ++ rest) :
    ∃ d, w = header ++ d ∧ ∀ v, Stops isWord (d ++ '\x7b' :: v) := by
  obtain ⟨mark, k, l, key, inside, rfl⟩ := h.outline
  have free : '\x7b' ∉ k ++ '(' :: '&' :: l :=
    HeadText.not_mem ⟨k, l, key, inside, rfl⟩ (by decide) (by decide)
  obtain ⟨d, rfl, rfl⟩ := prefix_before split.symm free
  refine ⟨d, rfl, fun v => ?_⟩
  cases d with
  | nil => exact stops_cons.mpr (by decide)
  | cons c d => exact stops_cons.mpr (stops_cons.mp stop)

/-- If no stub reaches beyond a brace, what follows the brace does not matter. -/
theorem methodAt?_before_brace {w u u' : Text}
    (here : ∀ s before placeholder rest, StubText s before placeholder rest (w ++ '\x7b' :: u) →
      ∃ r, w = before ++ (placeholder ++ r))
    (there : ∀ s before placeholder rest, StubText s before placeholder rest (w ++ '\x7b' :: u') →
      ∃ r, w = before ++ (placeholder ++ r)) :
    methodAt? (w ++ '\x7b' :: u) 0 = methodAt? (w ++ '\x7b' :: u') 0 := by
  -- A stub that is over before the brace is one whatever follows.
  have moved : ∀ {s before placeholder rest u} (v : Text),
      StubText s before placeholder rest (w ++ '\x7b' :: u) →
      (∃ r, w = before ++ (placeholder ++ r)) →
      ∃ final, StubText s before placeholder final (w ++ '\x7b' :: v) := by
    rintro s before placeholder rest u v stub ⟨r, rfl⟩
    refine ⟨r ++ '\x7b' :: v, ?_⟩
    simpa using stub.retail (r ++ '\x7b' :: v)
  have read := heading (w ++ '\x7b' :: u')
  refine Heading.eq ?_
  generalize methodAt? (w ++ '\x7b' :: u') 0 = m at read
  cases read with
  | stub stub =>
    obtain ⟨final, stub'⟩ := moved u stub (there _ _ _ _ stub)
    exact .stub stub'
  | @method name header rest none valid split stop =>
    obtain ⟨d, rfl, stops⟩ := valid.before_brace stop split
    refine .method ?_ valid (List.append_assoc ..) (stops u)
    intro s before placeholder final stub
    obtain ⟨final', stub'⟩ := moved u' stub (here _ _ _ _ stub)
    exact none _ _ _ _ stub'
  | nothing none =>
    refine .nothing fun name header rest valid stop split => ?_
    obtain ⟨d, rfl, stops⟩ := valid.before_brace stop split
    exact none _ _ _ valid (stops u') (List.append_assoc ..)

theorem inertAt_append (a b : List Span) (offset : Nat) :
    inertAt (a ++ b) offset = (inertAt a offset || inertAt b offset) := List.any_append

theorem inertAt_of_stop_le {spans : List Span} {offset : Nat} (h : ∀ s ∈ spans, s.stop ≤ offset) :
    inertAt spans offset = false := by
  simp only [inertAt, List.any_eq_false, Span.contains]
  intro s member
  have := h s member
  simp
  omega

theorem inertAt_of_lt_start {spans : List Span} {offset : Nat}
    (h : ∀ s ∈ spans, offset < s.start) : inertAt spans offset = false := by
  simp only [inertAt, List.any_eq_false, Span.contains]
  intro s member
  have := h s member
  simp
  omega

theorem inertAt_shift (d : Nat) (spans : List Span) (offset : Nat) :
    inertAt (spans.map (Span.shift d)) (d + offset) = inertAt spans offset := by
  simp [inertAt, Function.comp_def, Span.contains, Span.shift]

theorem liveStart?_congr {a b : List Span} {k : Nat × Nat}
    (start : inertAt a k.1 = inertAt b k.1) (function : inertAt a k.2 = inertAt b k.2) :
    liveStart? (inertAt a) k = liveStart? (inertAt b) k := by
  simp only [liveStart?, start, function]

theorem liveStart?_shift (d : Nat) (spans : List Span) (k : Nat × Nat) :
    liveStart? (inertAt (spans.map (Span.shift d))) (d + k.1, d + k.2) =
      (liveStart? (inertAt spans) k).map (d + ·) := by
  simp only [liveStart?, inertAt_shift]
  split
  · rfl
  · split <;> rfl

theorem liveStart?_eq_some {spans : List Span} {k : Nat × Nat} {start : Nat}
    (h : liveStart? (inertAt spans) k = some start) :
    (start = k.1 ∨ start = k.2) ∧ inertAt spans start = false := by
  simp only [liveStart?] at h
  cases first : inertAt spans k.1 with
  | false =>
    rw [first] at h
    cases h
    exact ⟨.inl rfl, first⟩
  | true =>
    cases second : inertAt spans k.2 with
    | false =>
      rw [first, second] at h
      cases h
      exact ⟨.inr rfl, second⟩
    | true =>
      rw [first, second] at h
      cases h

/-- A text behind which everything is read as if it began there. -/
structure Cut (x : Text) : Prop where
  keywords : ∀ v, keywordsFrom 0 0 false (x ++ v) =
    keywordsFrom 0 0 false x ++ keywordsFrom x.length 0 false v
  regions : ∀ v, inertSpans (x ++ v) = inertSpans x ++ inertFrom x.length 0 false v

theorem Cut.inertAt_before {x : Text} (h : Cut x) (v : Text) {offset : Nat}
    (before : offset < x.length) :
    inertAt (inertSpans (x ++ v)) offset = inertAt (inertSpans x) offset := by
  have none : inertAt (inertFrom x.length 0 false v) offset = false :=
    inertAt_of_lt_start fun s member => by
      have := (inertFrom_bounds member).1
      omega
  rw [h.regions, inertAt_append, none, Bool.or_false]

theorem Cut.inertAt_after {x : Text} (h : Cut x) (v : Text) (offset : Nat) :
    inertAt (inertSpans (x ++ v)) (x.length + offset) =
      inertAt ((inertSpans v).map (Span.shift x.length)) (x.length + offset) := by
  have later : inertFrom x.length 0 false v = (inertSpans v).map (Span.shift x.length) :=
    inertFrom_shift x.length 0 0 false v
  have none : inertAt (inertSpans x) (x.length + offset) = false :=
    inertAt_of_stop_le fun s member => by
      have := (inertFrom_bounds member).2.2
      omega
  rw [h.regions, inertAt_append, none, Bool.false_or, later]

theorem keyword_inside {t : Text} {k : Nat × Nat} (h : k ∈ keywordsFrom 0 0 false t) :
    k.1 ≤ k.2 ∧ k.2 < t.length := by
  obtain ⟨a, mark, rest, _, _, rfl, start, function, _⟩ := mem_keywordsFrom h
  simp only [functionWord, List.length_append, List.length_cons, List.length_nil]
  omega

theorem Cut.clear {x : Text} (h : Cut x) (v : Text) {offset : Nat} (before : offset < x.length)
    (clear : Clear x offset) : Clear (x ++ v) offset :=
  (h.inertAt_before v before).trans clear

theorem Cut.liveStarts {x : Text} (h : Cut x) (v : Text) : liveStarts (x ++ v) =
    liveStarts x ++ (liveStarts v).map (x.length + ·) := by
  have moved : keywordsFrom x.length 0 false v =
      (keywordsFrom 0 0 false v).map (fun k => (x.length + k.1, x.length + k.2)) :=
    keywordsFrom_shift x.length 0 0 false v
  simp only [liveStarts_eq]
  rw [h.keywords, List.filterMap_append, moved, List.filterMap_map, List.map_filterMap]
  congr 1
  · refine List.filterMap_congr fun k member => ?_
    obtain ⟨order, inside⟩ := keyword_inside member
    exact liveStart?_congr (h.inertAt_before v (by omega)) (h.inertAt_before v inside)
  · refine List.filterMap_congr fun k _ => ?_
    exact (liveStart?_congr (h.inertAt_after v k.1) (h.inertAt_after v k.2)).trans
      (liveStart?_shift ..)

theorem Cut.methods {x : Text} (h : Cut x) (v : Text) : methods (x ++ v) =
    (RecorderStubs.liveStarts x).filterMap (methodAt? (x ++ v)) ++
      (methods v).map (Method.placed (x ++ v) x.length) := by
  unfold RecorderStubs.methods
  rw [h.liveStarts, List.filterMap_append, List.filterMap_map, List.map_filterMap]
  congr 1
  exact List.filterMap_congr fun offset _ => methodAt?_append x v offset

theorem mem_liveStarts {t : Text} {start : Nat} (h : start ∈ liveStarts t) :
    ∃ k ∈ keywordsFrom 0 0 false t, liveStart? (inertAt (inertSpans t)) k = some start ∧
      (start = k.1 ∨ start = k.2) ∧ Clear t start := by
  rw [liveStarts_eq] at h
  obtain ⟨k, member, live⟩ := List.mem_filterMap.mp h
  exact ⟨k, member, live, liveStart?_eq_some live⟩

theorem liveStarts_lt {t : Text} {start : Nat} (h : start ∈ liveStarts t) : start < t.length := by
  obtain ⟨k, member, _, which, _⟩ := mem_liveStarts h
  have := keyword_inside member
  omega

theorem liveStarts_pairwise (t : Text) : (liveStarts t).Pairwise (· < ·) := by
  rw [liveStarts_eq]
  refine List.Pairwise.filterMap _ ?_ (List.Pairwise.and_mem.mp (keywordsFrom_pairwise 0 0 false t))
  intro k l ⟨first, second, apart⟩ start startLive start' startLive'
  have := keyword_inside first
  have := keyword_inside second
  rcases (liveStart?_eq_some startLive).1 with rfl | rfl <;>
    rcases (liveStart?_eq_some startLive').1 with rfl | rfl <;> omega

theorem methods_pairwise (t : Text) :
    (methods t).Pairwise (fun m n => m.offset < n.offset) := by
  refine (liveStarts_pairwise t).filterMap _ fun start start' order m found n found' => ?_
  rwa [methodAt?_offset found, methodAt?_offset found']

theorem keyword_unique {t : Text} {k l : Nat × Nat} (hk : k ∈ keywordsFrom 0 0 false t)
    (hl : l ∈ keywordsFrom 0 0 false t) (same : k.2 = l.2) : k = l := by
  have apart : (keywordsFrom 0 0 false t).Pairwise (fun k l => k.2 ≠ l.2) :=
    (List.Pairwise.and_mem.mp (keywordsFrom_pairwise 0 0 false t)).imp fun ⟨_, second, apart⟩ => by
      have := keyword_inside second
      omega
  have symm : Std.Symm (fun k l : Nat × Nat => k.2 ≠ l.2) := ⟨fun _ _ h => h.symm⟩
  rcases Decidable.em (k = l) with equal | different
  · exact equal
  · exact absurd same (apart.forall hk hl different)

theorem keyword_function {t g mark w : Text} {k : Nat × Nat} (h : k ∈ keywordsFrom 0 0 false t)
    (split : t = g ++ (mark ++ (functionWord ++ w))) (marked : Optionally unsafeWord mark)
    (start : g.length = k.1 ∨ g.length = k.2) : k.2 = (g ++ mark).length := by
  obtain ⟨a, mark', rest, marked', _, split', first, second, _⟩ := mem_keywordsFrom h
  rw [split] at split'
  rw [List.length_append]
  rcases start with start | start
  · obtain ⟨_, tail⟩ := List.append_inj split' (by omega)
    have sizes : unsafeSize (mark ++ (functionWord ++ w)) = mark.length := unsafeSize_append marked
    rw [tail, unsafeSize_append marked'] at sizes
    omega
  · rw [← List.append_assoc a] at split'
    obtain ⟨_, tail⟩ := List.append_inj split' (by rw [List.length_append]; omega)
    have sizes : unsafeSize (mark ++ (functionWord ++ w)) = mark.length := unsafeSize_append marked
    have none : unsafeSize ([] ++ (functionWord ++ rest)) = 0 := unsafeSize_append (.inl rfl)
    rw [tail, ← List.nil_append (functionWord ++ rest), none] at sizes
    omega

theorem liveStarts_unique {t g g' mark mark' w : Text} (h : g.length ∈ liveStarts t)
    (h' : g'.length ∈ liveStarts t) (split : t = g ++ (mark ++ (functionWord ++ w)))
    (marked : Optionally unsafeWord mark) (marked' : Optionally unsafeWord mark')
    (same : g' ++ mark' = g ++ mark) : g'.length = g.length := by
  obtain ⟨k, member, live, start, _⟩ := mem_liveStarts h
  obtain ⟨k', member', live', start', _⟩ := mem_liveStarts h'
  have split' : t = g' ++ (mark' ++ (functionWord ++ w)) := by
    rw [split, ← List.append_assoc, ← same, List.append_assoc]
  have function := keyword_function member split marked start
  have function' := keyword_function member' split' marked' start'
  rw [same, ← function] at function'
  obtain rfl := keyword_unique member' member function'
  rw [live] at live'
  exact (Option.some.inj live').symm

theorem liveStarts_text {t : Text} {start : Nat} (h : start ∈ liveStarts t) :
    ∃ g y, t = g ++ y ∧ g.length = start ∧ 'f' ∈ y := by
  obtain ⟨k, member, _, which, _⟩ := mem_liveStarts h
  obtain ⟨a, mark, rest, _, _, rfl, first, second, _⟩ := mem_keywordsFrom member
  rcases which with rfl | rfl
  · exact ⟨a, _, rfl, by omega, by simp [functionWord]⟩
  · exact ⟨a ++ mark, functionWord ++ rest, by simp, by rw [List.length_append]; omega,
      by simp [functionWord]⟩

end RecorderStubs
