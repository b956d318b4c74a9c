import RecorderStubs.Proofs.Lexemes
import RecorderStubs.Source.Inert

/-! One inert region. A region that is closed does not depend on what follows it, except that a
line comment needs its newline. Whether a region starts at all is settled long before a parenthesis
that is followed by an ampersand, as in the header of a method. -/
namespace RecorderStubs

theorem blockCommentRest_suffix (depth : Nat) (t : Text) : blockCommentRest depth t <:+ t := by
  fun_induction blockCommentRest depth t with
  | case1 => exact List.suffix_refl []
  | case2 depth t ih => exact (ih.trans (List.suffix_cons ..)).trans (List.suffix_cons ..)
  | case3 depth t _ => exact (List.suffix_cons ..).trans (List.suffix_cons ..)
  | case4 depth t _ ih => exact (ih.trans (List.suffix_cons ..)).trans (List.suffix_cons ..)
  | case5 depth c t _ _ ih => exact ih.trans (List.suffix_cons ..)

theorem stringLiteralRest_suffix (t : Text) : stringLiteralRest t <:+ t := by
  fun_induction stringLiteralRest t with
  | case1 => exact List.suffix_refl []
  | case2 t => exact List.suffix_cons ..
  | case3 => exact List.suffix_refl _
  | case4 c t ih => exact (ih.trans (List.suffix_cons ..)).trans (List.suffix_cons ..)
  | case5 c t _ _ _ ih => exact ih.trans (List.suffix_cons ..)

theorem literal?_suffix {word t rest : Text} (h : literal? word t = some rest) : rest <:+ t :=
  ⟨word, (literal?_eq_some.mp h).symm⟩

theorem rawStringRest_suffix (hashes : Nat) (t : Text) : rawStringRest hashes t <:+ t := by
  induction t with
  | nil => exact List.suffix_refl []
  | cons c t ih =>
    unfold rawStringRest
    split
    · rename_i found
      exact literal?_suffix found
    · exact ih.trans (List.suffix_cons ..)

inductive CharBody : Text → Prop where
  | plain {c : Char} : c ≠ '\\' → c ≠ '\'' → c ≠ '\n' → CharBody [c]
  | byte {a b : Char} : isHexDigit a = true → isHexDigit b = true → CharBody ['\\', 'x', a, b]
  | codePoint {digits : Text} : RunOf isHexDigit digits → digits.length ≤ 6 →
      CharBody ('\\' :: 'u' :: '\x7b' :: digits ++ ['\x7d'])
  | escape {c : Char} : c ≠ '\n' → CharBody ['\\', c]

theorem byteEscape?_eq_some {t rest : Text} : byteEscape? t = some rest ↔
    ∃ a b, isHexDigit a = true ∧ isHexDigit b = true ∧ t = 'x' :: a :: b :: rest := by
  unfold byteEscape?
  split
  · rename_i a b u
    constructor
    · intro h
      split at h
      · rename_i digits
        cases h
        rw [Bool.and_eq_true] at digits
        exact ⟨a, b, digits.1, digits.2, rfl⟩
      · cases h
    · rintro ⟨a', b', ha, hb, same⟩
      cases same
      simp [ha, hb]
  · rename_i none
    simp only [reduceCtorEq, false_iff]
    rintro ⟨a, b, _, _, rfl⟩
    exact none a b rest rfl

theorem codePointEscape?_eq_some {t rest : Text} : codePointEscape? t = some rest ↔
    ∃ digits, RunOf isHexDigit digits ∧ digits.length ≤ 6 ∧
      t = 'u' :: '\x7b' :: digits ++ '\x7d' :: rest := by
  simp only [codePointEscape?, Option.bind_eq_bind, Option.bind_eq_some_iff]
  constructor
  · rintro ⟨u, hu, h⟩
    split at h
    · cases h
    · rename_i size
      simp only [Bool.or_eq_true, List.isEmpty_iff, decide_eq_true_eq, not_or] at size
      refine ⟨u.takeWhile isHexDigit, ⟨size.1, allOf_takeWhile _ _⟩, by omega, ?_⟩
      have brace : u.dropWhile isHexDigit = '\x7d' :: rest := literal?_eq_some.mp h
      calc t = ['u', '\x7b'] ++ u := literal?_eq_some.mp hu
        _ = ['u', '\x7b'] ++ (u.takeWhile isHexDigit ++ '\x7d' :: rest) := by
          rw [← brace, List.takeWhile_append_dropWhile]
  · rintro ⟨digits, ⟨nonempty, hex⟩, size, rfl⟩
    have stop : Stops isHexDigit ('\x7d' :: rest) := stops_cons.mpr (by decide)
    refine ⟨digits ++ '\x7d' :: rest, literal?_append .., ?_⟩
    rw [takeWhile_run hex stop, dropWhile_run hex stop, if_neg]
    · exact literal?_append ['\x7d'] rest
    · simp only [Bool.or_eq_true, List.isEmpty_iff, decide_eq_true_eq, not_or]
      exact ⟨nonempty, by omega⟩

theorem simpleEscape?_eq_some {t rest : Text} :
    simpleEscape? t = some rest ↔ ∃ c, c ≠ '\n' ∧ t = c :: rest := by
  cases t with
  | nil => simp [simpleEscape?]
  | cons c t => grind [simpleEscape?]

theorem closingQuote?_eq_some {t rest : Text} :
    closingQuote? t = some rest ↔ t = '\'' :: rest :=
  literal?_eq_some

theorem charLiteralRest?_escape (t : Text) : charLiteralRest? ('\\' :: t) =
    ((byteEscape? t).bind closingQuote?).or
      (((codePointEscape? t).bind closingQuote?).or ((simpleEscape? t).bind closingQuote?)) :=
  rfl

theorem charLiteralRest?_sound {t rest : Text} (h : charLiteralRest? t = some rest) :
    ∃ body, CharBody body ∧ t = body ++ '\'' :: rest := by
  unfold charLiteralRest? at h
  split at h
  · cases h
  · simp only [Option.or_eq_some_iff, Option.bind_eq_some_iff] at h
    rcases h with ⟨u, hu, close⟩ | ⟨_, ⟨u, hu, close⟩ | ⟨_, u, hu, close⟩⟩
    · obtain ⟨a, b, ha, hb, rfl⟩ := byteEscape?_eq_some.mp hu
      exact ⟨_, .byte ha hb, by rw [closingQuote?_eq_some.mp close]; rfl⟩
    · obtain ⟨digits, hex, size, rfl⟩ := codePointEscape?_eq_some.mp hu
      exact ⟨_, .codePoint hex size, by rw [closingQuote?_eq_some.mp close]; simp⟩
    · obtain ⟨c, newline, rfl⟩ := simpleEscape?_eq_some.mp hu
      exact ⟨_, .escape newline, by rw [closingQuote?_eq_some.mp close]; rfl⟩
  · rename_i c u escape
    split at h
    · cases h
    · rename_i plain
      simp only [Bool.or_eq_true, decide_eq_true_eq, not_or] at plain
      exact ⟨[c], .plain escape plain.1 plain.2, by rw [closingQuote?_eq_some.mp h]; rfl⟩

theorem charLiteralRest?_complete {body : Text} (h : CharBody body) (rest : Text) :
    charLiteralRest? (body ++ '\'' :: rest) = some rest := by
  have close : closingQuote? ('\'' :: rest) = some rest := closingQuote?_eq_some.mpr rfl
  cases h with
  | plain backslash quote newline => simp [charLiteralRest?, quote, newline, close]
  | @byte a b ha hb =>
    have read : byteEscape? ('x' :: a :: b :: '\'' :: rest) = some ('\'' :: rest) :=
      byteEscape?_eq_some.mpr ⟨a, b, ha, hb, rfl⟩
    simp only [List.cons_append, List.nil_append, charLiteralRest?_escape, read, Option.bind_some,
      close, Option.some_or]
  | @codePoint digits hex size =>
    have other : byteEscape? ('u' :: '\x7b' :: digits ++ '\x7d' :: '\'' :: rest) = none := rfl
    have read : codePointEscape? ('u' :: '\x7b' :: digits ++ '\x7d' :: '\'' :: rest) =
        some ('\'' :: rest) := codePointEscape?_eq_some.mpr ⟨digits, hex, size, rfl⟩
    simp only [List.cons_append, List.append_assoc, List.nil_append] at other read ⊢
    rw [charLiteralRest?_escape, other, read, Option.bind_some, close]
    rfl
  | @escape c newline =>
    -- A closing quote two characters on leaves no room for the longer escapes.
    have first : byteEscape? (c :: '\'' :: rest) = none := by
      cases found : byteEscape? (c :: '\'' :: rest) with
      | none => rfl
      | some u =>
        obtain ⟨a, b, ha, _, same⟩ := byteEscape?_eq_some.mp found
        cases same
        exact absurd ha (by decide)
    have second : codePointEscape? (c :: '\'' :: rest) = none := by
      cases found : codePointEscape? (c :: '\'' :: rest) with
      | none => rfl
      | some u =>
        obtain ⟨digits, _, _, same⟩ := codePointEscape?_eq_some.mp found
        cases same
    have third : simpleEscape? (c :: '\'' :: rest) = some ('\'' :: rest) :=
      simpleEscape?_eq_some.mpr ⟨c, newline, rfl⟩
    simp only [List.cons_append, List.nil_append, charLiteralRest?_escape, first, second, third,
      Option.bind_none, Option.bind_some, Option.none_or, close]

/-- What opens a region, and how the region goes on. The letters of byte and raw literals open one
only where no word goes before them. -/
inductive Opener : Bool → Text → (Text → Option Text) → Prop where
  | line {afterWord : Bool} : Opener afterWord ['/', '/'] (fun t => some (lineCommentRest t))
  | block {afterWord : Bool} : Opener afterWord ['/', '*'] (fun t => some (blockCommentRest 1 t))
  | string {afterWord : Bool} : Opener afterWord ['"'] (fun t => some (stringLiteralRest t))
  | char {afterWord : Bool} : Opener afterWord ['\''] charLiteralRest?
  | raw {byte : Text} (hashes : Nat) : byte = [] ∨ byte = ['b'] →
      Opener false (byte ++ 'r' :: List.replicate hashes '#' ++ ['"'])
        (fun t => some (rawStringRest hashes t))
  | byteString : Opener false ['b', '"'] (fun t => some (stringLiteralRest t))
  | byteChar : Opener false ['b', '\''] charLiteralRest?

theorem rawOpening?_eq_some {t rest : Text} {hashes : Nat} :
    rawOpening? t = some (hashes, rest) ↔ ∃ byte, (byte = [] ∨ byte = ['b']) ∧
      t = byte ++ 'r' :: List.replicate hashes '#' ++ ['"'] ++ rest := by
  simp only [rawOpening?, Option.bind_eq_bind, Option.bind_eq_some_iff, Option.pure_def,
    Option.some.injEq, Prod.mk.injEq]
  constructor
  · rintro ⟨u, hu, v, hv, rfl, rfl⟩
    have hash : u.takeWhile (· == '#') = List.replicate (u.takeWhile (· == '#')).length '#' := by
      refine List.eq_replicate_of_mem fun c hc => ?_
      simpa using allOf_takeWhile (· == '#') u c hc
    have quote : u.dropWhile (· == '#') = '"' :: v := literal?_eq_some.mp hv
    obtain ⟨byte, kind, split⟩ := exists_literal ['b'] t
    refine ⟨byte, kind, ?_⟩
    calc t = byte ++ 'r' :: u := by rw [← List.singleton_append, ← literal?_eq_some.mp hu, ← split]
      _ = byte ++ 'r' :: (u.takeWhile (· == '#') ++ '"' :: v) := by
        rw [← quote, List.takeWhile_append_dropWhile]
      _ = _ := by rw [hash]; simp
  · rintro ⟨byte, kind, rfl⟩
    have inside : AllOf (· == '#') (List.replicate hashes '#') := by
      intro c hc
      simpa using List.eq_of_mem_replicate hc
    have stop : Stops (· == '#') ('"' :: rest) := stops_cons.mpr (by decide)
    refine ⟨List.replicate hashes '#' ++ '"' :: rest, ?_, rest, ?_, ?_, rfl⟩
    · rcases kind with rfl | rfl <;> simp [literal?]
    · rw [dropWhile_run inside stop]
      exact literal?_append ['"'] rest
    · rw [takeWhile_run inside stop, List.length_replicate]

theorem quotedRest?_sound {t rest : Text} (h : quotedRest? t = some rest) :
    (∃ u, t = '"' :: u ∧ some (stringLiteralRest u) = some rest) ∨
      ∃ u, t = '\'' :: u ∧ charLiteralRest? u = some rest := by
  unfold quotedRest? at h
  split at h
  · exact .inl ⟨_, rfl, h⟩
  · exact .inr ⟨_, rfl, h⟩
  · cases h

theorem quotedRest?_other {c : Char} {t : Text} (quote : c ≠ '"') (tick : c ≠ '\'') :
    quotedRest? (c :: t) = none := by
  unfold quotedRest?
  split
  · rename_i same
    exact absurd (List.cons.inj same).1 quote
  · rename_i same
    exact absurd (List.cons.inj same).1 tick
  · rfl

theorem inertRest?_raw {c : Char} {t u : Text} {hashes : Nat} (slash : c ≠ '/') (quote : c ≠ '"')
    (tick : c ≠ '\'') (raw : rawOpening? (c :: t) = some (hashes, u)) :
    inertRest? false (c :: t) = some (rawStringRest hashes u) := by
  unfold inertRest?
  split
  · rename_i same
    exact absurd (List.cons.inj same).1 slash
  · rename_i same
    exact absurd (List.cons.inj same).1 slash
  · simp [quotedRest?_other quote tick, raw]

theorem inertRest?_eq_some {afterWord : Bool} {t rest : Text} :
    inertRest? afterWord t = some rest ↔
      ∃ opener go u, Opener afterWord opener go ∧ t = opener ++ u ∧ go u = some rest := by
  constructor
  · intro h
    unfold inertRest? at h
    split at h
    · exact ⟨_, _, _, .line, rfl, h⟩
    · exact ⟨_, _, _, .block, rfl, h⟩
    · cases quoted : quotedRest? t with
      | some found =>
        rw [quoted] at h
        cases h
        rcases quotedRest?_sound quoted with ⟨u, rfl, go⟩ | ⟨u, rfl, go⟩
        · exact ⟨_, _, u, .string, rfl, go⟩
        · exact ⟨_, _, u, .char, rfl, go⟩
      | none =>
        rw [quoted] at h
        cases afterWord with
        | true => cases h
        | false =>
          cases raw : rawOpening? t with
          | some found =>
            rw [raw] at h
            obtain ⟨byte, kind, same⟩ := rawOpening?_eq_some.mp raw
            exact ⟨_, _, found.2, .raw found.1 kind, same, h⟩
          | none =>
            rw [raw] at h
            obtain ⟨u, hu, go⟩ := Option.bind_eq_some_iff.mp h
            have same := literal?_eq_some.mp hu
            rcases quotedRest?_sound go with ⟨v, rfl, go⟩ | ⟨v, rfl, go⟩
            · exact ⟨_, _, v, .byteString, same, go⟩
            · exact ⟨_, _, v, .byteChar, same, go⟩
  · rintro ⟨opener, go, u, opens, rfl, h⟩
    cases opens with
    | line => exact h
    | block => exact h
    | string => exact h
    | char => simp [inertRest?, quotedRest?, h]
    | @raw byte hashes kind =>
      have raw : rawOpening? (byte ++ 'r' :: List.replicate hashes '#' ++ ['"'] ++ u) =
          some (hashes, u) := rawOpening?_eq_some.mpr ⟨byte, kind, rfl⟩
      rcases kind with rfl | rfl <;>
      · simp only [List.cons_append, List.nil_append] at raw ⊢
        rw [inertRest?_raw (by decide) (by decide) (by decide) raw]
        exact h
    | byteString => exact h
    | byteChar => exact h

theorem lineCommentRest_inside {r rest : Text} (h : lineCommentRest (r ++ rest) = rest) :
    AllOf (· != '\n') r := by
  have taken := allOf_takeWhile (· != '\n') (r ++ rest)
  have split := List.takeWhile_append_dropWhile (p := (· != '\n')) (l := r ++ rest)
  rw [show (r ++ rest).dropWhile (· != '\n') = rest from h] at split
  rwa [List.append_cancel_right split] at taken

theorem lineCommentRest_closed {r rest w : Text} (h : lineCommentRest (r ++ rest) = rest)
    (next : w.head? = rest.head?) : lineCommentRest (r ++ w) = w := by
  have stop : Stops (· != '\n') w := by
    intro c hc
    rw [next] at hc
    have := stops_dropWhile (· != '\n') (r ++ rest) c
    rw [show (r ++ rest).dropWhile (· != '\n') = rest from h] at this
    exact this hc
  exact dropWhile_run (lineCommentRest_inside h) stop

theorem blockCommentRest_cons_suffix (depth : Nat) (c : Char) (t : Text) :
    blockCommentRest depth (c :: t) <:+ t := by
  unfold blockCommentRest
  split <;> rename_i same <;> cases same
  · exact (blockCommentRest_suffix ..).trans (List.suffix_cons ..)
  · split
    · exact List.suffix_cons ..
    · exact (blockCommentRest_suffix ..).trans (List.suffix_cons ..)
  · exact blockCommentRest_suffix ..

theorem blockCommentRest_pair_suffix (depth : Nat) (c d : Char) (t : Text) :
    blockCommentRest depth (c :: d :: t) <:+ t := by
  unfold blockCommentRest
  split <;> rename_i same <;> cases same
  · exact blockCommentRest_suffix ..
  · split
    · exact List.suffix_refl _
    · exact blockCommentRest_suffix ..
  · exact blockCommentRest_cons_suffix ..

theorem not_cons_suffix (c : Char) (t : Text) : ¬ c :: t <:+ t := fun h => by
  have := h.length_le
  rw [List.length_cons] at this
  omega

theorem blockCommentRest_closed {depth : Nat} {r rest w : Text}
    (h : blockCommentRest depth (r ++ rest) = rest) (nonempty : rest ≠ []) :
    blockCommentRest depth (r ++ w) = w := by
  obtain ⟨d, u, rfl⟩ := List.exists_cons_of_ne_nil nonempty
  fun_induction blockCommentRest depth r with
  | case1 depth => exact absurd (h ▸ blockCommentRest_cons_suffix depth d u) (not_cons_suffix d u)
  | case2 depth t ih => exact ih h
  | case3 depth t shallow =>
    simp only [List.cons_append, blockCommentRest, shallow, if_true] at h ⊢
    rw [List.append_left_eq_self.mp h, List.nil_append]
  | case4 depth t shallow ih =>
    simp only [List.cons_append, blockCommentRest, shallow, if_false] at h ⊢
    exact ih h
  | case5 depth c t opens closes ih =>
    cases t with
    | nil => exact absurd (h ▸ blockCommentRest_pair_suffix depth c d u) (not_cons_suffix d u)
    | cons e t =>
      have plain : ∀ v, blockCommentRest depth (c :: e :: t ++ v) =
          blockCommentRest depth (e :: t ++ v) := by
        intro v
        refine blockCommentRest.eq_4 depth c (e :: t ++ v) ?_ ?_
        · rintro _ rfl same
          cases same
          exact opens _ rfl rfl
        · rintro _ rfl same
          cases same
          exact closes _ rfl rfl
      rw [plain] at h ⊢
      exact ih h

theorem stringLiteralRest_plain {c : Char} {t : Text} (quote : c ≠ '"') (escape : c ≠ '\\') :
    stringLiteralRest (c :: t) = stringLiteralRest t :=
  stringLiteralRest.eq_5 c t quote (fun e _ => escape e) (fun _ _ e _ => escape e)

/-- What may stand between the quotes of a string literal. A backslash takes the next character
with it, whatever that is. -/
inductive LiteralBody : Text → Prop where
  | nil : LiteralBody []
  | plain {c : Char} {t : Text} : c ≠ '"' → c ≠ '\\' → LiteralBody t → LiteralBody (c :: t)
  | escape {c : Char} {t : Text} : LiteralBody t → LiteralBody ('\\' :: c :: t)

theorem StringBody.literal {body : Text} (h : StringBody body) : LiteralBody body := by
  induction h with
  | nil => exact .nil
  | plain quote backslash _ ih => exact .plain quote backslash ih
  | escape _ _ ih => exact .escape ih

theorem LiteralBody.rest {body : Text} (h : LiteralBody body) (u : Text) :
    stringLiteralRest (body ++ u) = stringLiteralRest u := by
  induction h with
  | nil => rfl
  | plain quote escape _ ih => rw [List.cons_append, stringLiteralRest_plain quote escape, ih]
  | escape _ ih => exact ih

/-- What is left of a text behind an opening quote: what follows the closing quote, nothing, or a
backslash that has nothing to take. -/
inductive LiteralEnd : Text → Text → Prop where
  | closed {body rest : Text} : LiteralBody body → LiteralEnd (body ++ '"' :: rest) rest
  | unclosed {body : Text} : LiteralBody body → LiteralEnd body []
  | dangling {body : Text} : LiteralBody body → LiteralEnd (body ++ ['\\']) ['\\']

theorem LiteralEnd.plain {c : Char} {t rest : Text} (quote : c ≠ '"') (escape : c ≠ '\\')
    (h : LiteralEnd t rest) : LiteralEnd (c :: t) rest := by
  cases h with
  | closed body => exact .closed (.plain quote escape body)
  | unclosed body => exact .unclosed (.plain quote escape body)
  | dangling body => exact .dangling (.plain quote escape body)

theorem LiteralEnd.escape {c : Char} {t rest : Text} (h : LiteralEnd t rest) :
    LiteralEnd ('\\' :: c :: t) rest := by
  cases h with
  | closed body => exact .closed (.escape body)
  | unclosed body => exact .unclosed (.escape body)
  | dangling body => exact .dangling (.escape body)

theorem stringLiteralRest_end (t : Text) : LiteralEnd t (stringLiteralRest t) := by
  fun_induction stringLiteralRest t with
  | case1 => exact .unclosed .nil
  | case2 t => exact .closed .nil
  | case3 => exact .dangling .nil
  | case4 c t ih => exact ih.escape
  | case5 c t quote last pair ih =>
    refine ih.plain quote ?_
    rintro rfl
    cases t with
    | nil => exact last rfl rfl
    | cons e t => exact pair e t rfl rfl

theorem stringLiteralRest_closing {t : Text} (nonempty : stringLiteralRest t ≠ [])
    (other : stringLiteralRest t ≠ ['\\']) :
    ∃ body, LiteralBody body ∧ t = body ++ '"' :: stringLiteralRest t := by
  have ends := stringLiteralRest_end t
  generalize stringLiteralRest t = rest at nonempty other ends
  cases ends with
  | closed body => exact ⟨_, body, rfl⟩
  | unclosed _ => exact absurd rfl nonempty
  | dangling _ => exact absurd rfl other

theorem stringLiteralRest_closed {r rest w : Text} (h : stringLiteralRest (r ++ rest) = rest)
    (nonempty : rest ≠ []) (other : rest ≠ ['\\']) : stringLiteralRest (r ++ w) = w := by
  obtain ⟨body, valid, same⟩ := stringLiteralRest_closing (h.symm ▸ nonempty) (h.symm ▸ other)
  rw [h] at same
  have cut : r = body ++ ['"'] :=
    List.append_cancel_right (same.trans (List.append_cons body '"' rest))
  rw [cut, List.append_assoc, valid.rest]
  rfl

theorem charLiteralRest?_closed {r rest : Text} (h : charLiteralRest? (r ++ rest) = some rest)
    (w : Text) : charLiteralRest? (r ++ w) = some w := by
  obtain ⟨body, valid, same⟩ := charLiteralRest?_sound h
  have cut : r = body ++ ['\''] :=
    List.append_cancel_right (same.trans (List.append_cons body '\'' rest))
  rw [cut, List.append_assoc, List.singleton_append, charLiteralRest?_complete valid]

/-- What closes a raw string. -/
def rawClosing (hashes : Nat) : Text := '"' :: List.replicate hashes '#'

theorem rawStringRest_cons (hashes : Nat) (c : Char) (t : Text) : rawStringRest hashes (c :: t) =
    (literal? (rawClosing hashes) (c :: t)).getD (rawStringRest hashes t) := by
  rw [rawStringRest, rawClosing]
  cases literal? ('"' :: List.replicate hashes '#') (c :: t) <;> rfl

theorem rawStringRest_sound {hashes : Nat} {t rest : Text} (h : rawStringRest hashes t = rest)
    (nonempty : rest ≠ []) : ∃ r, t = r ++ rawClosing hashes ++ rest := by
  induction t with
  | nil => exact absurd h.symm nonempty
  | cons c t ih =>
    rw [rawStringRest_cons] at h
    cases found : literal? (rawClosing hashes) (c :: t) with
    | some u =>
      rw [found, Option.getD_some] at h
      exact ⟨[], by rw [List.nil_append, ← h]; exact literal?_eq_some.mp found⟩
    | none =>
      rw [found, Option.getD_none] at h
      obtain ⟨r, same⟩ := ih h
      exact ⟨c :: r, by rw [same]; simp⟩

theorem literal?_append_eq_none {word a : Text} (u v : Text) (long : word.length ≤ a.length)
    (h : literal? word (a ++ u) = none) : literal? word (a ++ v) = none := by
  cases found : literal? word (a ++ v) with
  | none => rfl
  | some rest =>
    obtain ⟨b, rfl⟩ : word <+: a :=
      List.prefix_of_prefix_length_le ⟨rest, (literal?_eq_some.mp found).symm⟩
        (List.prefix_append a v) long
    rw [List.append_assoc, literal?_append] at h
    cases h

theorem rawStringRest_closed {hashes : Nat} {r rest w : Text}
    (h : rawStringRest hashes (r ++ rest) = rest) (nonempty : rest ≠ []) :
    rawStringRest hashes (r ++ w) = w := by
  induction r with
  | nil =>
    obtain ⟨u, same⟩ := rawStringRest_sound h nonempty
    have := congrArg List.length same
    simp only [List.nil_append, List.length_append, rawClosing, List.length_cons] at this
    omega
  | cons c r ih =>
    rw [List.cons_append, rawStringRest_cons] at h ⊢
    cases found : literal? (rawClosing hashes) (c :: (r ++ rest)) with
    | some u =>
      rw [found, Option.getD_some] at h
      subst h
      have same : c :: r = rawClosing hashes :=
        List.append_cancel_right (literal?_eq_some.mp found)
      rw [← List.cons_append, same, literal?_append, Option.getD_some]
    | none =>
      rw [found, Option.getD_none] at h
      obtain ⟨x, same⟩ := rawStringRest_sound h nonempty
      have long : (rawClosing hashes).length ≤ (c :: r).length := by
        rw [List.append_cancel_right same, List.length_cons, List.length_append]
        omega
      rw [← List.cons_append] at found ⊢
      rw [literal?_append_eq_none rest w long found, Option.getD_none]
      exact ih h

theorem Opener.suffix {afterWord : Bool} {opener u rest : Text} {go : Text → Option Text}
    (h : Opener afterWord opener go) (found : go u = some rest) : rest <:+ u := by
  have char : ∀ {u}, charLiteralRest? u = some rest → rest <:+ u := fun found => by
    obtain ⟨body, _, rfl⟩ := charLiteralRest?_sound found
    exact ⟨body ++ ['\''], by simp⟩
  cases h with
  | line => exact Option.some.inj found ▸ List.dropWhile_suffix _
  | block => exact Option.some.inj found ▸ blockCommentRest_suffix ..
  | string => exact Option.some.inj found ▸ stringLiteralRest_suffix _
  | char => exact char found
  | raw => exact Option.some.inj found ▸ rawStringRest_suffix ..
  | byteString => exact Option.some.inj found ▸ stringLiteralRest_suffix _
  | byteChar => exact char found

theorem Opener.closed {afterWord : Bool} {opener r rest w : Text} {go : Text → Option Text}
    (h : Opener afterWord opener go) (found : go (r ++ rest) = some rest) (nonempty : rest ≠ [])
    (other : rest ≠ ['\\']) (next : w.head? = rest.head?) : go (r ++ w) = some w := by
  cases h with
  | line => exact congrArg some (lineCommentRest_closed (Option.some.inj found) next)
  | block => exact congrArg some (blockCommentRest_closed (Option.some.inj found) nonempty)
  | string => exact congrArg some (stringLiteralRest_closed (Option.some.inj found) nonempty other)
  | char => exact charLiteralRest?_closed found w
  | raw => exact congrArg some (rawStringRest_closed (Option.some.inj found) nonempty)
  | byteString =>
    exact congrArg some (stringLiteralRest_closed (Option.some.inj found) nonempty other)
  | byteChar => exact charLiteralRest?_closed found w

/-- A region that is closed stays as it is when the text after it is another one that begins with
the same character. A string may also end before a last backslash; such a one is not closed. -/
theorem inertRest?_closed {afterWord : Bool} {r rest w : Text}
    (h : inertRest? afterWord (r ++ rest) = some rest) (nonempty : rest ≠ [])
    (other : rest ≠ ['\\']) (next : w.head? = rest.head?) :
    inertRest? afterWord (r ++ w) = some w := by
  obtain ⟨opener, go, u, opens, same, found⟩ := inertRest?_eq_some.mp h
  obtain ⟨x, rfl⟩ := opens.suffix found
  rw [← List.append_assoc] at same
  obtain rfl := List.append_cancel_right same
  exact inertRest?_eq_some.mpr ⟨opener, go, x ++ w, opens, List.append_assoc ..,
    opens.closed found nonempty other next⟩

theorem prefix_before {a b s t : Text} {c : Char} (h : a ++ s = b ++ c :: t) (free : c ∉ a) :
    ∃ d, b = a ++ d ∧ s = d ++ c :: t := by
  rcases List.append_eq_append_iff.mp h with ⟨d, rfl, rfl⟩ | ⟨d, rfl, same⟩
  · exact ⟨d, rfl, rfl⟩
  · cases d with
    | nil => exact ⟨[], by simp, same.symm⟩
    | cons e d =>
      cases (List.cons.inj same).1
      exact absurd (List.mem_append_right b (List.mem_cons_self ..)) free

theorem Opener.free {afterWord : Bool} {opener : Text} {go : Text → Option Text}
    (h : Opener afterWord opener go) : '(' ∉ opener := by
  cases h with
  | raw hashes kind =>
    rcases kind with rfl | rfl <;>
      simp [List.mem_replicate]
  | _ => decide

theorem CharBody.single {body : Text} (h : CharBody body) (paren : '(' ∈ body)
    (ampersand : '&' ∈ body) : False := by
  cases h with
  | plain =>
    rw [List.mem_singleton] at paren ampersand
    rw [← paren] at ampersand
    cases ampersand
  | byte ha hb =>
    simp only [List.mem_cons, List.not_mem_nil, or_false, Char.reduceEq, false_or] at paren
    rcases paren with rfl | rfl
    · cases ha
    · cases hb
  | codePoint hex _ =>
    simp only [List.cons_append, List.mem_cons, List.mem_append, List.not_mem_nil, or_false,
      Char.reduceEq, false_or] at paren
    cases hex.2 _ paren
  | escape =>
    simp only [List.mem_cons, List.not_mem_nil, or_false, Char.reduceEq, false_or]
      at paren ampersand
    rw [← paren] at ampersand
    cases ampersand

theorem charLiteralRest?_early {a v rest : Text}
    (h : charLiteralRest? (a ++ '(' :: '&' :: v) = some rest) (u : Text) :
    ∃ rest', charLiteralRest? (a ++ '(' :: '&' :: u) = some rest' := by
  obtain ⟨body, valid, same⟩ := charLiteralRest?_sound h
  rcases List.append_eq_append_iff.mp same with ⟨d, rfl, tail⟩ | ⟨d, rfl, tail⟩
  · -- The literal would reach into the parenthesis and what follows it.
    exfalso
    match d with
    | [] => cases (List.cons.inj tail).1
    | [e] => cases (List.cons.inj (List.cons.inj tail).2).1
    | e :: f :: d =>
      cases (List.cons.inj tail).1
      cases (List.cons.inj (List.cons.inj tail).2).1
      exact valid.single (by simp) (by simp)
  · cases d with
    | nil => cases (List.cons.inj tail).1
    | cons e d =>
      cases (List.cons.inj tail).1
      refine ⟨d ++ '(' :: '&' :: u, ?_⟩
      rw [List.append_assoc, List.cons_append]
      exact charLiteralRest?_complete valid _

theorem inertRest?_early {afterWord : Bool} {a u : Text}
    (h : inertRest? afterWord (a ++ '(' :: '&' :: u) = none) (v : Text) :
    inertRest? afterWord (a ++ '(' :: '&' :: v) = none := by
  cases found : inertRest? afterWord (a ++ '(' :: '&' :: v) with
  | none => rfl
  | some rest =>
    obtain ⟨opener, go, x, opens, same, goes⟩ := inertRest?_eq_some.mp found
    obtain ⟨b, rfl, rfl⟩ := prefix_before same.symm opens.free
    have again : ∃ rest', go (b ++ '(' :: '&' :: u) = some rest' := by
      cases opens with
      | char => exact charLiteralRest?_early goes u
      | byteChar => exact charLiteralRest?_early goes u
      | _ => exact ⟨_, rfl⟩
    obtain ⟨rest', goes'⟩ := again
    rw [List.append_assoc, inertRest?_eq_some.mpr ⟨opener, go, _, opens, rfl, goes'⟩] at h
    cases h

end RecorderStubs
