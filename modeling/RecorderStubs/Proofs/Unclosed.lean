import RecorderStubs.Proofs.Cover

/-! Comments and literals that are never closed. They hide all that follows, up to the end of the
text. The one exception is a string at whose end a backslash has no character to take: the string
ends before that backslash. -/
namespace RecorderStubs

def literalOpenings : List Text := [['"'], ['b', '"']]

/-- A region of which the closing mark does not come: of a block comment the marks never balance,
of a raw string no quote has hashes enough, of another string every quote is taken by a
backslash. -/
inductive Unclosed (t : Text) (s : Span) : Prop where
  | block : ['/', '*'] <+: t.drop s.start →
      Balances 0 (blockMarks s.start (t.drop s.start)) none → Unclosed t s
  | raw {hashes : Nat} {opening : Text} : RawOpening hashes opening → opening <+: t.drop s.start →
      (∀ k, s.start + opening.length ≤ k → ¬ rawClosing hashes <+: t.drop k) → Unclosed t s
  | string {opening u : Text} : opening ∈ literalOpenings → t.drop s.start = opening ++ u →
      (∀ body rest, LiteralBody body → u ≠ body ++ '"' :: rest) → Unclosed t s

/-- A string up to the end of the text, with a last backslash that has nothing to take. -/
def Dangling (t : Text) (s : Span) : Prop :=
  ∃ opening ∈ literalOpenings, ∃ body, LiteralBody body ∧
    t.drop s.start = opening ++ (body ++ ['\\'])

theorem Balances.unique {depth : Int} {marks : List BlockMark} {x y : Option Nat}
    (h : Balances depth marks x) (h' : Balances depth marks y) : x = y := by
  induction h with
  | never =>
    cases h'
    rfl
  | here zero =>
    cases h' with
    | here _ => rfl
    | later open' _ => exact absurd zero open'
  | later open' _ ih =>
    cases h' with
    | here zero => exact absurd zero open'
    | later _ rest => exact ih rest

section
variable {t a r rest : Text} (h : RegionAt t a r rest)
include h

theorem RegionAt.length : t.length = a.length + r.length + rest.length := by
  rw [h.split, List.length_append, List.length_append, Nat.add_assoc]

theorem RegionAt.literal {opening u : Text} (opens : opening ∈ literalOpenings)
    (same : t.drop a.length = opening ++ u) : stringLiteralRest u = rest := by
  have reads := h.reads
  rw [← h.drop_start, same] at reads
  simp only [literalOpenings, List.mem_cons, List.not_mem_nil, or_false] at opens
  rcases opens with rfl | rfl
  · exact Option.some.inj reads
  · cases afterWord : endsWord false a with
    | true =>
      rw [afterWord] at reads
      cases reads
    | false =>
      rw [afterWord] at reads
      exact Option.some.inj reads

theorem RegionAt.stop_of_dangling (dangling : Dangling t ⟨a.length, a.length + r.length⟩) :
    a.length + r.length + 1 = t.length := by
  obtain ⟨opening, opens, body, valid, same⟩ := dangling
  have left : stringLiteralRest (body ++ ['\\']) = rest := h.literal opens same
  rw [valid.rest] at left
  rw [h.length, ← left]
  rfl

theorem RegionAt.stop_of_unclosed (unclosed : Unclosed t ⟨a.length, a.length + r.length⟩)
    (whole : ¬ Dangling t ⟨a.length, a.length + r.length⟩) : a.length + r.length = t.length := by
  cases unclosed with
  | block mark never =>
    rw [h.drop_start] at mark
    rcases h.endsBlock mark with balances | ⟨_, stop⟩
    · cases balances.unique never
    · exact stop
  | raw opening mark never =>
    rw [h.drop_start] at mark
    rcases h.endsRaw opening mark with ⟨k, behind, closing, _⟩ | ⟨stop, _⟩
    · exact absurd closing (never k behind)
    · exact stop
  | @string opening u opens same never =>
    have left := h.literal opens same
    have ends := stringLiteralRest_end u
    rw [left] at ends
    cases ends with
    | closed valid => exact absurd rfl (never _ _ valid)
    | unclosed _ => exact h.stop_of_nil
    | dangling valid => exact absurd ⟨opening, opens, _, valid, same⟩ whole

end

/-- An unclosed region goes on up to the end of the text, except that a string with a dangling
backslash ends one character before. -/
theorem unclosed_reaches_end {t : Text} {s : Span} (member : s ∈ inertSpans t)
    (unclosed : Unclosed t s) : (¬ Dangling t s → s.stop = t.length) ∧
      (Dangling t s → s.stop + 1 = t.length) := by
  obtain ⟨a, r, rest, region, rfl⟩ := mem_inertSpans member
  exact ⟨region.stop_of_unclosed unclosed, region.stop_of_dangling⟩

def openString : Text := "f(b\"a\\\"\\\\".toList

theorem unclosed_reaches_end_taken : (⟨2, 9⟩ : Span) ∈ inertSpans openString ∧
    Unclosed openString ⟨2, 9⟩ ∧ ¬ Dangling openString ⟨2, 9⟩ ∧ 9 = openString.length := by
  have member : (⟨2, 9⟩ : Span) ∈ inertSpans openString := by decide +kernel
  have never : ∀ body rest, LiteralBody body →
      ['a', '\\', '"', '\\', '\\'] ≠ body ++ '"' :: rest := by
    intro body rest valid same
    have left := valid.rest ('"' :: rest)
    rw [← same] at left
    have none : rest = [] := left.symm
    rw [none] at same
    have last := congrArg List.getLast? same
    rw [List.getLast?_concat] at last
    exact absurd last (by decide)
  have opens : ['b', '"'] ∈ literalOpenings := by decide
  have unclosed : Unclosed openString ⟨2, 9⟩ := .string opens rfl never
  have ends := unclosed_reaches_end member unclosed
  have whole : ¬ Dangling openString ⟨2, 9⟩ := fun dangling => absurd (ends.2 dangling) (by decide)
  exact ⟨member, unclosed, whole, ends.1 whole⟩

/-- A string that is opened before a last backslash ends before it. -/
theorem unclosed_stops_short : inertSpans ['"', '\\'] = [⟨0, 1⟩] ∧
    Unclosed ['"', '\\'] ⟨0, 1⟩ ∧ 1 ≠ ['"', '\\'].length := by
  have never : ∀ body rest, LiteralBody body → ['\\'] ≠ body ++ '"' :: rest := by
    intro body rest _ same
    have quote : '"' ∈ ['\\'] := same ▸ List.mem_append_right _ (List.mem_cons_self ..)
    exact absurd quote (by decide)
  exact ⟨by decide +kernel, .string (List.mem_cons_self ..) rfl never, by decide⟩

end RecorderStubs
