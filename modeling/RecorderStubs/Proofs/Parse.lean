import RecorderStubs.Proofs.Tail

/-! Whole declarations against the grammar: which texts are read as stubs, which as methods, and
what the reader says of the others. -/
namespace RecorderStubs

theorem StubText.split {s : Signature} {before placeholder rest t : Text}
    (h : StubText s before placeholder rest t) : t = before ++ (placeholder ++ rest) := by
  obtain ⟨_, _, _, _, _, _, _, _, rfl⟩ := h
  rw [List.append_assoc]

theorem stops_word_parameters {ps : List Parameter} {a opening : Text} (h : ParametersText ps a)
    (opens : OpeningText opening) (rest : Text) : Stops isWord (a ++ (opening ++ rest)) := by
  cases h with
  | nil =>
    obtain ⟨c, u, _, mark, solid⟩ := opens.solid
    refine stops_of_skipBlanks (fun _ => isWord_of_blank) ?_
    rw [List.nil_append, solid, List.cons_append, stops_cons]
    rcases mark with rfl | rfl <;> decide
  | cons valid _ =>
    obtain ⟨u, rfl⟩ := valid.head
    exact stops_cons.mpr (by decide)

theorem reading_eq_stub {t body rest : Text} {s : Signature} :
    Reading.of t = .stub s body rest ↔ ∃ before placeholder,
      StubText s before placeholder rest t ∧ body = placeholder ++ rest := by
  constructor
  · intro h
    unfold Reading.of at h
    cases hh : header? t with
    | none => simp [hh] at h
    | some found =>
      obtain ⟨name, u⟩ := found
      obtain ⟨header, valid, rfl, _⟩ := header?_eq_some.mp hh
      obtain ⟨a, longest, split⟩ := parameters_longest u
      cases ht : tail? (parameters u).2 with
      | none => simp [hh, ht] at h
      | some found =>
        obtain ⟨v, w⟩ := found
        simp only [hh, ht, Reading.stub.injEq] at h
        obtain ⟨rfl, rfl, rfl⟩ := h
        obtain ⟨opening, placeholder, opens, placed, rfl, cut⟩ := tail?_eq_some.mp ht
        refine ⟨_, placeholder, ⟨header, a, opening, valid, longest.valid, opens, placed, rfl, ?_⟩,
          rfl⟩
        rw [split, cut]
        simp only [List.append_assoc]
  · rintro ⟨_, placeholder, ⟨header, a, opening, valid, more, opens, placed, rfl, rfl⟩, rfl⟩
    have read := header?_eq_some.mpr ⟨header, valid, rfl,
      stops_word_parameters more opens (placeholder ++ rest)⟩
    obtain ⟨opening', opens', many⟩ := parameters_append more opens
    have tail : tail? (opening' ++ (placeholder ++ rest)) = some (placeholder ++ rest, rest) :=
      tail?_eq_some.mpr ⟨opening', placeholder, opens', placed, rfl, rfl⟩
    simp only [List.append_assoc]
    simp only [Reading.of, read, many, tail]

theorem reading_eq_nothing {t : Text} :
    Reading.of t = .nothing ↔
      ∀ name header rest, HeaderText name header → Stops isWord rest → t ≠ header ++ rest := by
  constructor
  · rintro h name header rest valid stop rfl
    simp only [Reading.of, header?_eq_some.mpr ⟨header, valid, rfl, stop⟩] at h
    split at h <;> cases h
  · intro none
    cases found : header? t with
    | none => simp only [Reading.of, found]
    | some result =>
      obtain ⟨header, valid, same, stop⟩ := header?_eq_some.mp found
      exact absurd same (none _ _ _ valid stop)

theorem reading_eq_method {t name rest : Text} :
    Reading.of t = .method name rest ↔
      (∀ s before placeholder final, ¬ StubText s before placeholder final t) ∧
      ∃ header ps a, HeaderText name header ∧ LongestParameters ps a rest ∧
        t = header ++ (a ++ rest) ∧ Stops isWord (a ++ rest) := by
  constructor
  · intro h
    refine ⟨fun s before placeholder final stub => ?_, ?_⟩
    · have read := reading_eq_stub.mpr ⟨before, placeholder, stub, rfl⟩
      rw [h] at read
      cases read
    · unfold Reading.of at h
      cases found : header? t with
      | none => simp [found] at h
      | some result =>
        obtain ⟨name', u⟩ := result
        obtain ⟨header, valid, rfl, stop⟩ := header?_eq_some.mp found
        obtain ⟨a, longest, split⟩ := parameters_longest u
        cases tail : tail? (parameters u).2 with
        | some result => simp [found, tail] at h
        | none =>
          simp only [found, tail, Reading.method.injEq] at h
          obtain ⟨rfl, rfl⟩ := h
          exact ⟨header, _, a, valid, longest, by rw [← split], split ▸ stop⟩
  · rintro ⟨unread, header, ps, a, valid, longest, rfl, stop⟩
    have read := header?_eq_some.mpr ⟨header, valid, rfl, stop⟩
    cases tail : tail? rest with
    | none => simp only [Reading.of, read, parameters_eq longest, tail]
    | some result =>
      obtain ⟨body, final⟩ := result
      have stub : Reading.of (header ++ (a ++ rest)) = .stub ⟨name, ps⟩ body final := by
        simp only [Reading.of, read, parameters_eq longest, tail]
      obtain ⟨before, placeholder, valid, _⟩ := reading_eq_stub.mp stub
      exact absurd valid (unread _ _ _ _)

def clamp (t : Text) (offset : Int) : Nat := (max 0 (min offset t.length)).toNat

theorem textFrom_eq (t : Text) (offset : Int) : textFrom t offset = t.drop (clamp t offset) := by
  unfold textFrom clamp
  rcases Int.le_total offset t.length with inside | beyond
  · rw [Int.min_eq_left inside]
    congr 1
    omega
  · rw [Int.min_eq_right beyond, List.drop_of_length_le (by omega),
      List.drop_of_length_le (by omega)]

theorem offsetIn_eq {t : Text} {offset : Int} {read rest : Text}
    (h : t.drop (clamp t offset) = read ++ rest) :
    offsetIn t rest = clamp t offset + read.length := by
  have lengths := congrArg List.length h
  have bound : clamp t offset ≤ t.length := by unfold clamp; omega
  rw [List.length_drop, List.length_append] at lengths
  unfold offsetIn
  omega

theorem parse_eq_ok {t : Text} {offset : Int} {d : Declaration} :
    parse t offset = .ok d ↔ ∃ before placeholder rest,
      StubText d.signature before placeholder rest (t.drop (clamp t offset)) ∧
      d.placeholder = ⟨clamp t offset + before.length,
        clamp t offset + before.length + placeholder.length⟩ ∧
      d.start = offset := by
  -- The offsets that a reading gives are counted from the end of the text.
  have spans : ∀ {s before placeholder rest},
      StubText s before placeholder rest (t.drop (clamp t offset)) →
      offsetIn t (placeholder ++ rest) = clamp t offset + before.length ∧
      offsetIn t rest = clamp t offset + before.length + placeholder.length := by
    intro s before placeholder rest stub
    have whole := stub.split
    refine ⟨offsetIn_eq whole, ?_⟩
    rw [← List.append_assoc] at whole
    rw [offsetIn_eq whole, List.length_append, Nat.add_assoc]
  unfold parse
  rw [textFrom_eq]
  constructor
  · intro h
    cases read : Reading.of (t.drop (clamp t offset)) with
    | nothing => simp [read] at h
    | method name rest => simp [read] at h
    | stub s body rest =>
      simp only [read, Except.ok.injEq] at h
      subst h
      obtain ⟨before, placeholder, stub, rfl⟩ := reading_eq_stub.mp read
      exact ⟨before, placeholder, rest, stub, by rw [(spans stub).1, (spans stub).2], rfl⟩
  · rintro ⟨before, placeholder, rest, stub, span, start⟩
    rw [reading_eq_stub.mpr ⟨before, placeholder, stub, rfl⟩]
    dsimp only
    rw [(spans stub).1, (spans stub).2, ← span, ← start]

theorem parse_eq_noHeader {t : Text} {offset q : Int} :
    parse t offset = .error (.noHeader q) ↔ q = offset ∧
      ∀ name header rest, HeaderText name header → Stops isWord rest →
        t.drop (clamp t offset) ≠ header ++ rest := by
  rw [← reading_eq_nothing]
  unfold parse
  rw [textFrom_eq]
  cases Reading.of (t.drop (clamp t offset)) <;> simp [eq_comm]

theorem parse_eq_unexpectedBody {t name : Text} {offset : Int} {q : Nat} :
    parse t offset = .error (.unexpectedBody name q) ↔
      (∀ s before placeholder rest,
        ¬ StubText s before placeholder rest (t.drop (clamp t offset))) ∧
      ∃ header ps a rest, HeaderText name header ∧ LongestParameters ps a rest ∧
        t.drop (clamp t offset) = header ++ (a ++ rest) ∧ Stops isWord (a ++ rest) ∧
        q = clamp t offset + (header ++ a).length := by
  have same : parse t offset = .error (.unexpectedBody name q) ↔
      ∃ rest, Reading.of (t.drop (clamp t offset)) = .method name rest ∧ q = offsetIn t rest := by
    unfold parse
    rw [textFrom_eq]
    cases Reading.of (t.drop (clamp t offset)) with
    | nothing => simp
    | stub s body rest => simp
    | method name' rest =>
      simp only [Except.error.injEq, ParseError.unexpectedBody.injEq, Reading.method.injEq]
      constructor
      · exact fun h => ⟨rest, ⟨h.1, rfl⟩, h.2.symm⟩
      · rintro ⟨_, ⟨h, rfl⟩, rfl⟩
        exact ⟨h, rfl⟩
  rw [same]
  simp only [reading_eq_method]
  constructor
  · rintro ⟨rest, ⟨unread, header, ps, a, valid, longest, whole, stop⟩, rfl⟩
    refine ⟨unread, header, ps, a, rest, valid, longest, whole, stop, ?_⟩
    rw [← List.append_assoc] at whole
    exact offsetIn_eq whole
  · rintro ⟨unread, header, ps, a, rest, valid, longest, whole, stop, rfl⟩
    refine ⟨rest, ⟨unread, header, ps, a, valid, longest, whole, stop⟩, ?_⟩
    rw [← List.append_assoc] at whole
    exact (offsetIn_eq whole).symm

/-- Reading accepts exactly the stubs, and reports what every way to take one apart has in common:
the name, the parameters in order, and where the placeholder stands. A text without a header is
told from one whose header is not followed by a stub; the latter is reported where the parameters,
each as long as possible, come to an end. -/
theorem parse_exact (t : Text) (offset : Int) :
    (∀ d, parse t offset = .ok d ↔ ∃ before placeholder rest,
      StubText d.signature before placeholder rest (t.drop (clamp t offset)) ∧
      d.placeholder = ⟨clamp t offset + before.length,
        clamp t offset + before.length + placeholder.length⟩ ∧
      d.start = offset) ∧
    (∀ q, parse t offset = .error (.noHeader q) ↔ q = offset ∧
      ∀ name header rest, HeaderText name header → Stops isWord rest →
        t.drop (clamp t offset) ≠ header ++ rest) ∧
    (∀ name q, parse t offset = .error (.unexpectedBody name q) ↔
      (∀ s before placeholder rest,
        ¬ StubText s before placeholder rest (t.drop (clamp t offset))) ∧
      ∃ header ps a rest, HeaderText name header ∧ LongestParameters ps a rest ∧
        t.drop (clamp t offset) = header ++ (a ++ rest) ∧ Stops isWord (a ++ rest) ∧
        q = clamp t offset + (header ++ a).length) :=
  ⟨fun _ => parse_eq_ok, fun _ => parse_eq_noHeader, fun _ _ => parse_eq_unexpectedBody⟩

end RecorderStubs
