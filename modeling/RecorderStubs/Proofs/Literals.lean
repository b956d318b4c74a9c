import RecorderStubs.Proofs.Cover

/-! String literals, which are read in two ways: as the message of a placeholder and as a region that
holds no code. Both look for the first quote that no backslash takes. In a message a backslash does
not take a newline, so a literal with such a newline is a region but no message; all others end
alike. -/
namespace RecorderStubs

def escapedChars : Text → List Char
  | [] => []
  | '\\' :: c :: t => c :: escapedChars t
  | _ :: t => escapedChars t

theorem escapedChars_plain {c : Char} {t : Text} (h : c ≠ '\\') :
    escapedChars (c :: t) = escapedChars t :=
  escapedChars.eq_3 c t (fun _ _ e _ => h e)

/-- What a message may hold is what a literal may hold, but for a newline behind a backslash. -/
theorem stringBody_iff {body : Text} :
    StringBody body ↔ LiteralBody body ∧ '\n' ∉ escapedChars body := by
  constructor
  · intro h
    refine ⟨h.literal, ?_⟩
    induction h with
    | nil => exact List.not_mem_nil
    | plain _ backslash _ ih => rwa [escapedChars_plain backslash]
    | escape newline _ ih =>
      rw [escapedChars, List.mem_cons, not_or]
      exact ⟨Ne.symm newline, ih⟩
  · rintro ⟨valid, free⟩
    induction valid with
    | nil => exact .nil
    | plain quote backslash _ ih =>
      rw [escapedChars_plain backslash] at free
      exact .plain quote backslash (ih free)
    | escape _ ih =>
      rw [escapedChars, List.mem_cons, not_or] at free
      exact .escape (Ne.symm free.1) (ih free.2)

/-- A literal that goes from its opening quote up to its closing one. -/
structure LiteralAt (t : Text) (s : Span) (body : Text) : Prop where
  valid : LiteralBody body
  cut : s.cut t = '"' :: (body ++ ['"'])

theorem literalAt_middle {body : Text} (valid : LiteralBody body) (a rest : Text) :
    LiteralAt (a ++ '"' :: (body ++ '"' :: rest)) ⟨a.length, a.length + (body.length + 2)⟩ body := by
  refine ⟨valid, ?_⟩
  have cut := cut_middle a ('"' :: (body ++ ['"'])) rest
  simpa using cut

theorem LiteralAt.split {a u body : Text} {stop : Nat}
    (h : LiteralAt (a ++ '"' :: u) ⟨a.length, stop⟩ body) : ∃ rest, u = body ++ '"' :: rest := by
  have order : a.length ≤ stop := by
    apply Nat.le_of_not_lt
    intro early
    have empty : Span.cut ⟨a.length, stop⟩ (a ++ '"' :: u) = [] := by
      rw [Span.cut, List.drop_eq_nil_iff, List.length_take]
      exact Nat.le_trans (Nat.min_le_left ..) (Nat.le_of_lt early)
    rw [h.cut] at empty
    cases empty
  have whole := Span.split order (a ++ '"' :: u)
  rw [h.cut, List.take_left] at whole
  exact ⟨_, by simpa using List.append_cancel_left whole⟩

theorem string_endAt? (a u : Text) : Lexeme.string.endAt? (a ++ '"' :: u) a.length =
    (stringRest? u).map (offsetIn (a ++ '"' :: u)) := by
  rw [Lexeme.endAt?, textFrom, Int.toNat_natCast, List.drop_left]
  rfl

/-- Wherever a quote stands, a region starts. A message starts there too if and only if the region
is closed and no newline in it stands behind a backslash, and then both have the same end. -/
theorem string_ends_agree (t : Text) (start : Nat) (quote : t[start]? = some '"') :
    ∃ stop, (∀ afterWord, (inertRest? afterWord (t.drop start)).map (offsetIn t) = some stop) ∧
      ∀ j, Lexeme.string.endAt? t start = some j ↔
        j = stop ∧ ∃ body, LiteralAt t ⟨start, stop⟩ body ∧ '\n' ∉ escapedChars body := by
  obtain ⟨a, u, rfl, rfl⟩ : ∃ a u, t = a ++ '"' :: u ∧ a.length = start := by
    obtain ⟨inside, same⟩ := List.getElem?_eq_some_iff.mp quote
    refine ⟨t.take start, t.drop (start + 1), ?_, List.length_take_of_le (Nat.le_of_lt inside)⟩
    rw [← same, List.getElem_cons_drop, List.take_append_drop]
  refine ⟨offsetIn (a ++ '"' :: u) (stringLiteralRest u), fun afterWord => ?_, fun j => ?_⟩
  · rw [List.drop_left]
    rfl
  rw [string_endAt?, Option.map_eq_some_iff]
  constructor
  · rintro ⟨rest, found, rfl⟩
    obtain ⟨body, valid, rfl⟩ := stringRest?_eq_some.mp found
    obtain ⟨literal, free⟩ := stringBody_iff.mp valid
    have ends : stringLiteralRest (body ++ '"' :: rest) = rest := literal.rest ('"' :: rest)
    have stop : offsetIn (a ++ '"' :: (body ++ '"' :: rest)) rest =
        a.length + (body.length + 2) := by
      simp only [offsetIn, List.length_append, List.length_cons]
      omega
    rw [ends, stop]
    exact ⟨rfl, body, literalAt_middle literal a rest, free⟩
  · rintro ⟨rfl, body, literal, free⟩
    obtain ⟨rest, rfl⟩ := literal.split
    have message := stringBody_iff.mpr ⟨literal.valid, free⟩
    have ends : stringLiteralRest (body ++ '"' :: rest) = rest := literal.valid.rest ('"' :: rest)
    exact ⟨rest, stringRest?_eq_some.mpr ⟨body, message, rfl⟩, by rw [ends]⟩

def twoLiterals : Text := "- \"a\\\"\nb\" \"".toList

theorem string_ends_agree_two : twoLiterals[2]? = some '"' ∧
    Lexeme.string.endAt? twoLiterals 2 = some 9 ∧
    ∃ stop, (∀ afterWord,
        (inertRest? afterWord (twoLiterals.drop 2)).map (offsetIn twoLiterals) = some stop) ∧
      ∀ j, Lexeme.string.endAt? twoLiterals 2 = some j ↔
        j = stop ∧ ∃ body, LiteralAt twoLiterals ⟨2, stop⟩ body ∧ '\n' ∉ escapedChars body :=
  ⟨rfl, by decide, string_ends_agree twoLiterals 2 rfl⟩

def continuedLiteral : Text := "\"\\\n\"".toList

/-- It is closed, as a region, but it is no message. -/
theorem continued_literal_no_message : continuedLiteral[0]? = some '"' ∧
    (∀ afterWord, (inertRest? afterWord (continuedLiteral.drop 0)).map
      (offsetIn continuedLiteral) = some 4) ∧
    LiteralAt continuedLiteral ⟨0, 4⟩ ['\\', '\n'] ∧
    Lexeme.string.endAt? continuedLiteral 0 = none :=
  ⟨rfl, fun _ => rfl, ⟨.escape .nil, rfl⟩, by decide⟩

end RecorderStubs
