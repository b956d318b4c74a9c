import RecorderStubs.Proofs.Lexemes

/-! The grammar of stubs, and the reader against it. A stub is a header, parameters and a tail; the
grammar says which texts these are, without saying how far a reader goes on. The reader takes each
part as long as it can and never goes back over it, yet it reads every stub, and in the one way
there is. -/
namespace RecorderStubs

def HeaderText (name t : Text) : Prop :=
  ∃ mark gap mutable, Optionally unsafeWord mark ∧ RunOf isBlank gap ∧ RunOf isWord name ∧
    Optionally mutableWord mutable ∧
    t = mark ++ functionWord ++ gap ++ name ++ ['(', '&'] ++ mutable ++ receiverWord

def ParameterText (p : Parameter) (t : Text) : Prop :=
  ∃ before inside after, AllOf isBlank before ∧ AllOf isBlank inside ∧ AllOf isBlank after ∧
    RunOf isWord p.name ∧ TypeText p.type ∧
    t = [','] ++ before ++ p.name ++ [':'] ++ inside ++ p.type ++ after

inductive ParametersText : List Parameter → Text → Prop where
  | nil : ParametersText [] []
  | cons {p : Parameter} {ps : List Parameter} {a b : Text} : ParameterText p a →
      ParametersText ps b → ParametersText (p :: ps) (a ++ b)

def ResultText (t : Text) : Prop :=
  t = [] ∨ ∃ before type after, AllOf isBlank before ∧ TypeText type ∧ AllOf isBlank after ∧
    t = ['-', '>'] ++ before ++ type ++ after

def OpeningText (t : Text) : Prop :=
  ∃ comma a b result c, (comma = [] ∨ comma = [',']) ∧ AllOf isBlank a ∧ AllOf isBlank b ∧
    ResultText result ∧ AllOf isBlank c ∧
    t = comma ++ a ++ [')'] ++ b ++ result ++ ['\x7b'] ++ c

def PlaceholderText (t : Text) : Prop :=
  ∃ a string b c, AllOf isBlank a ∧ StringText string ∧ AllOf isBlank b ∧ AllOf isBlank c ∧
    t = unimplementedCall ++ a ++ string ++ b ++ [')'] ++ c ++ [';']

/-- A stub at the head of a text: what stands before its placeholder, the placeholder, the rest. -/
def StubText (s : Signature) (before placeholder rest t : Text) : Prop :=
  ∃ header parameters opening, HeaderText s.name header ∧
    ParametersText s.parameters parameters ∧ OpeningText opening ∧ PlaceholderText placeholder ∧
    before = header ++ parameters ++ opening ∧ t = before ++ placeholder ++ rest

/-- A text begins with parameters, each as long as possible, as many as possible. -/
inductive LongestParameters : List Parameter → Text → Text → Prop where
  | stop {t : Text} : (∀ p a rest, ParameterText p a → t ≠ a ++ rest) → LongestParameters [] [] t
  | next {p : Parameter} {ps : List Parameter} {a b rest : Text} : ParameterText p a →
      (∀ p' a' rest', ParameterText p' a' → a ++ (b ++ rest) = a' ++ rest' →
        a'.length ≤ a.length) →
      LongestParameters ps b rest → LongestParameters (p :: ps) (a ++ b) rest

theorem LongestParameters.valid {ps : List Parameter} {a rest : Text}
    (h : LongestParameters ps a rest) : ParametersText ps a := by
  induction h with
  | stop _ => exact .nil
  | next valid _ _ ih => exact .cons valid ih

theorem header?_eq_some {t name rest : Text} :
    header? t = some (name, rest) ↔
      ∃ h, HeaderText name h ∧ t = h ++ rest ∧ Stops isWord rest := by
  simp only [header?, name?, Option.bind_eq_bind, Option.bind_eq_some_iff]
  constructor
  · rintro ⟨a, ha, b, hb, ⟨name', c⟩, hc, d, hd, e, he, hout⟩
    dsimp only at hd hout
    obtain ⟨mark, marked, split⟩ := exists_skipWord unsafeWord t
    obtain ⟨gap, gapRun, rfl, _⟩ := gap?_eq_some.mp hb
    obtain ⟨rfl, named, _⟩ := run?_eq_some.mp hc
    obtain ⟨mutable, mutably, split'⟩ := exists_skipWord mutableWord d
    rw [literal?_eq_some.mp he] at split'
    rw [literal?_eq_some.mp ha, literal?_eq_some.mp hd, split'] at split
    cases word : startsWord e with
    | true => simp [word] at hout
    | false =>
      simp only [word, Bool.false_eq_true, if_false, Option.some.injEq, Prod.mk.injEq] at hout
      obtain ⟨rfl, rfl⟩ := hout
      refine ⟨_, ⟨mark, gap, mutable, marked, gapRun, named, mutably, rfl⟩, ?_,
        startsWord_eq_false.mp word⟩
      simp only [split, List.append_assoc]
  · rintro ⟨_, ⟨mark, gap, mutable, marked, gapRun, named, mutably, rfl⟩, rfl, stop⟩
    have word := startsWord_eq_false.mpr stop
    have solid : Stops isBlank (name ++ (['(', '&'] ++ (mutable ++ (receiverWord ++ rest)))) :=
      stops_of_run (fun _ => solid_of_word) named
    have paren : Stops isWord (['(', '&'] ++ (mutable ++ (receiverWord ++ rest))) :=
      stops_cons.mpr (by decide)
    have past : skipWord mutableWord (mutable ++ (receiverWord ++ rest)) = receiverWord ++ rest :=
      skipWord_append (by decide) (by decide) mutably
    refine ⟨gap ++ (name ++ (['(', '&'] ++ (mutable ++ (receiverWord ++ rest)))), ?_, _,
      gap?_append gapRun solid, _, run?_append named paren, _, literal?_append .., rest, ?_, ?_⟩
    · simp only [List.append_assoc]
      have start : ∀ u, skipWord unsafeWord (mark ++ (functionWord ++ u)) = functionWord ++ u :=
        fun u => skipWord_append (by decide) (by decide) marked
      rw [start]
      exact literal?_append ..
    · rw [past]
      exact literal?_append ..
    · simp [word]

theorem ParameterText.head {p : Parameter} {a : Text} (h : ParameterText p a) :
    ∃ u, a = ',' :: u := by
  obtain ⟨_, _, _, _, _, _, _, _, rfl⟩ := h
  exact ⟨_, rfl⟩

theorem parameter?_sound {t rest : Text} {p : Parameter} (h : parameter? t = some (p, rest)) :
    ∃ a, ParameterText p a ∧ t = a ++ rest ∧ Stops isBlank rest := by
  simp only [parameter?, name?, Option.bind_eq_bind, Option.bind_eq_some_iff] at h
  obtain ⟨a, ha, ⟨name, b⟩, hb, c, hc, ⟨type, d⟩, hd, hout⟩ := h
  cases hout
  dsimp only at hc ⊢
  obtain ⟨before, blank₁, split₁⟩ := exists_blanks a
  obtain ⟨inside, blank₂, split₂⟩ := exists_blanks c
  obtain ⟨after, blank₃, split₃⟩ := exists_blanks d
  obtain ⟨cut₁, named, _⟩ := run?_eq_some.mp hb
  obtain ⟨cut₂, typed, _⟩ := type?_sound hd
  refine ⟨_, ⟨before, inside, after, blank₁, blank₂, blank₃, named, typed, rfl⟩, ?_,
    stops_skipBlanks d⟩
  calc t = [','] ++ (before ++ (name ++ b)) := by rw [literal?_eq_some.mp ha, ← cut₁, ← split₁]
    _ = [','] ++ (before ++ (name ++ ([':'] ++ (inside ++ (type ++ d))))) := by
      rw [literal?_eq_some.mp hc, ← cut₂, ← split₂]
    _ = [','] ++ (before ++ (name ++ ([':'] ++ (inside ++ (type ++ (after ++
        skipBlanks d)))))) := by
      rw [← split₃]
    _ = _ := by simp only [List.append_assoc]

theorem parameter?_of_type? {p : Parameter} {before inside t rest type : Text}
    (blank₁ : AllOf isBlank before) (blank₂ : AllOf isBlank inside) (named : RunOf isWord p.name)
    (solid : Stops isBlank t) (found : type? t = some (type, rest)) :
    parameter? ([','] ++ (before ++ (p.name ++ ([':'] ++ (inside ++ t))))) =
      some (⟨p.name, type⟩, skipBlanks rest) := by
  have word : Stops isBlank (p.name ++ ([':'] ++ (inside ++ t))) :=
    stops_of_run (fun _ => solid_of_word) named
  have colon : Stops isWord ([':'] ++ (inside ++ t)) := stops_cons.mpr (by decide)
  simp only [parameter?, name?, literal?_append, skipBlanks_append blank₁ word,
    run?_append named colon, skipBlanks_append blank₂ solid, found, Option.bind_eq_bind,
    Option.bind_some, Option.pure_def]

theorem stops_blank_of_type {type : Text} (h : TypeText type) (rest : Text) :
    Stops isBlank (type ++ rest) := by
  obtain ⟨c, u, rfl, typed⟩ := h.head
  exact stops_cons.mpr (solid_of_typeChar typed)

theorem parameter?_append {p : Parameter} {a rest : Text} (h : ParameterText p a)
    (stop : Stops isTypeChar (skipBlanks rest)) :
    parameter? (a ++ rest) = some (p, skipBlanks rest) := by
  obtain ⟨before, inside, after, blank₁, blank₂, blank₃, named, typed, rfl⟩ := h
  have skip := skipBlanks_blanks blank₃ rest
  have found := type?_append typed (skip ▸ stop)
  simp only [List.append_assoc]
  rw [parameter?_of_type? blank₁ blank₂ named (stops_blank_of_type typed _) found, skip]

theorem parameter_unique {p q : Parameter} {a : Text} (hp : ParameterText p a)
    (hq : ParameterText q a) : p = q := by
  have first : parameter? (a ++ []) = some (p, []) := parameter?_append hp (stops_nil _)
  have second : parameter? (a ++ []) = some (q, []) := parameter?_append hq (stops_nil _)
  exact (Prod.mk.inj (Option.some.inj (first.symm.trans second))).1

/-- Blanks behind type characters are not followed by type characters again. -/
theorem not_type_behind_blanks {run blanks gap tail rest : Text} (typed : AllOf isTypeChar run)
    (blank : AllOf isBlank blanks) (gapRun : RunOf isBlank gap) (tailRun : RunOf isTypeChar tail) :
    run ++ blanks ≠ mutableMark ++ (gap ++ (tail ++ rest)) := by
  intro same
  have soft : Stops isTypeChar (gap ++ (tail ++ rest)) :=
    stops_of_run (fun _ => isTypeChar_of_blank) gapRun
  obtain ⟨_, rfl⟩ := run_unique typed (by decide : AllOf isTypeChar mutableMark)
    (stops_of_all (fun _ => isTypeChar_of_blank) blank) soft same
  obtain ⟨c, u, rfl, hc⟩ := tailRun.head
  have inside := blank c (by simp)
  rw [isTypeChar_of_blank inside] at hc
  cases hc

theorem length_after_type_le {blanks : Text} (blank : AllOf isBlank blanks) (rest : Text) :
    (skipBlanks ((blanks ++ rest).dropWhile isTypeChar)).length ≤ rest.length := by
  cases blanks with
  | nil =>
    exact Nat.le_trans (length_skipBlanks_le _) (List.dropWhile_suffix isTypeChar).length_le
  | cons b blanks =>
    have soft : Stops isTypeChar (b :: blanks ++ rest) :=
      stops_cons.mpr (isTypeChar_of_blank (blank b (List.mem_cons_self ..)))
    rw [dropWhile_of_stops soft, skipBlanks_blanks blank]
    exact length_skipBlanks_le rest

theorem type?_longest {type blanks : Text} (h : TypeText type) (blank : AllOf isBlank blanks)
    (rest : Text) : ∃ longer after, type? (type ++ (blanks ++ rest)) = some (longer, after) ∧
      (skipBlanks after).length ≤ rest.length := by
  have bound := length_after_type_le blank rest
  have stop := stops_dropWhile isTypeChar (blanks ++ rest)
  have whole : (blanks ++ rest).takeWhile isTypeChar ++ (blanks ++ rest).dropWhile isTypeChar
      = blanks ++ rest := List.takeWhile_append_dropWhile
  have extend : ∀ run : Text, RunOf isTypeChar run →
      RunOf isTypeChar (run ++ (blanks ++ rest).takeWhile isTypeChar) := fun run hr =>
    ⟨fun e => hr.1 (List.append_eq_nil_iff.mp e).1, allOf_append.mpr ⟨hr.2, allOf_takeWhile _ _⟩⟩
  cases h with
  | @mutable gap run gapRun typeRun =>
    have found := mutableType?_eq_some.mpr ⟨gap, _, gapRun, extend run typeRun, rfl, rfl, stop⟩
    simp only [List.append_assoc, whole] at found
    exact ⟨_, _, by rw [type?, List.append_assoc, List.append_assoc, found, Option.some_or], bound⟩
  | run typeRun =>
    cases hm : mutableType? (type ++ (blanks ++ rest)) with
    | none =>
      have found := run?_append (extend type typeRun) stop
      rw [List.append_assoc, whole] at found
      exact ⟨_, _, by rw [type?, hm, Option.none_or, found], bound⟩
    | some found =>
      obtain ⟨longer, after⟩ := found
      refine ⟨longer, after, by rw [type?, hm, Option.some_or], ?_⟩
      obtain ⟨gap, tail, gapRun, tailRun, rfl, same, _⟩ := mutableType?_eq_some.mp hm
      -- Otherwise `type` and `blanks` would hold `&mut`, the gap and the tail.
      refine Nat.le_trans (length_skipBlanks_le after) (Nat.le_of_not_lt fun short => ?_)
      rw [← List.append_assoc] at same
      have split := List.append_eq_append_iff.mp same
      rcases split with ⟨z, cut, past⟩ | ⟨z, cut, _⟩
      · have := congrArg List.length past
        rw [List.length_append] at this
        omega
      · rw [List.append_assoc, List.append_assoc] at cut
        exact not_type_behind_blanks typeRun.2 blank gapRun tailRun cut

theorem parameter?_longest {p : Parameter} {a : Text} (h : ParameterText p a) (rest : Text) :
    ∃ p' rest', parameter? (a ++ rest) = some (p', rest') ∧ rest'.length ≤ rest.length := by
  obtain ⟨before, inside, after, blank₁, blank₂, blank₃, named, typed, rfl⟩ := h
  obtain ⟨type, final, found, bound⟩ := type?_longest typed blank₃ rest
  refine ⟨⟨p.name, type⟩, skipBlanks final, ?_, bound⟩
  simp only [List.append_assoc]
  exact parameter?_of_type? blank₁ blank₂ named (stops_blank_of_type typed _) found

/-- The parameter that is read is the longest one at the head of the text. -/
theorem parameter?_eq_some {t rest : Text} {p : Parameter} :
    parameter? t = some (p, rest) ↔ ∃ a, ParameterText p a ∧ t = a ++ rest ∧
      ∀ p' a' rest', ParameterText p' a' → t = a' ++ rest' → a'.length ≤ a.length := by
  constructor
  · intro h
    obtain ⟨a, valid, rfl, _⟩ := parameter?_sound h
    refine ⟨a, valid, rfl, ?_⟩
    intro p' a' rest' valid' same
    obtain ⟨q, final, found, bound⟩ := parameter?_longest valid' rest'
    rw [← same, h] at found
    cases found
    have lengths := congrArg List.length same
    simp only [List.length_append] at lengths
    omega
  · rintro ⟨a, valid, rfl, longest⟩
    obtain ⟨q, final, found, bound⟩ := parameter?_longest valid rest
    obtain ⟨b, valid', same, _⟩ := parameter?_sound found
    have shorter := longest q b final valid' same
    have lengths := congrArg List.length same
    simp only [List.length_append] at lengths
    obtain ⟨rfl, rfl⟩ := List.append_inj same (by omega)
    rw [found, parameter_unique valid' valid]

theorem parameter?_eq_none {t : Text} :
    parameter? t = none ↔ ∀ p a rest, ParameterText p a → t ≠ a ++ rest := by
  constructor
  · rintro none p a rest valid rfl
    obtain ⟨q, final, found, _⟩ := parameter?_longest valid rest
    rw [none] at found
    cases found
  · intro none
    cases found : parameter? t with
    | none => rfl
    | some result =>
      obtain ⟨p, rest⟩ := result
      obtain ⟨a, valid, same, _⟩ := parameter?_sound found
      exact absurd same (none p a rest valid)

end RecorderStubs
