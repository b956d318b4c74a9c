import RecorderStubs.Proofs.Classes
import RecorderStubs.Signature.Declaration

/-! The token classes as sets of texts, and what the recognisers take of a text: always the longest
token, so that a token followed by something that cannot continue it is read back exactly. -/
namespace RecorderStubs

def AllOf (p : Char → Bool) (t : Text) : Prop := ∀ c ∈ t, p c = true

def RunOf (p : Char → Bool) (t : Text) : Prop := t ≠ [] ∧ AllOf p t

instance (p : Char → Bool) (t : Text) : Decidable (AllOf p t) :=
  decidable_of_iff (t.all p = true) List.all_eq_true

/-- The text does not go on with a character of the class. -/
def Stops (p : Char → Bool) (t : Text) : Prop := ∀ c, t.head? = some c → p c = false

inductive TypeText : Text → Prop where
  | run {run : Text} : RunOf isTypeChar run → TypeText run
  | mutable {gap run : Text} : RunOf isBlank gap → RunOf isTypeChar run →
      TypeText (mutableMark ++ gap ++ run)

inductive StringBody : Text → Prop where
  | nil : StringBody []
  | plain {c : Char} {t : Text} : c ≠ '"' → c ≠ '\\' → StringBody t → StringBody (c :: t)
  | escape {c : Char} {t : Text} : c ≠ '\n' → StringBody t → StringBody ('\\' :: c :: t)

def StringText (t : Text) : Prop := ∃ body, StringBody body ∧ t = '"' :: body ++ ['"']

/-- A word with the gap after it, or nothing. -/
def Optionally (word t : Text) : Prop := t = [] ∨ ∃ gap, RunOf isBlank gap ∧ t = word ++ gap

theorem allOf_append {p : Char → Bool} {a b : Text} :
    AllOf p (a ++ b) ↔ AllOf p a ∧ AllOf p b := by
  simp only [AllOf, List.mem_append]
  constructor
  · exact fun h => ⟨fun c hc => h c (.inl hc), fun c hc => h c (.inr hc)⟩
  · rintro ⟨ha, hb⟩ c (hc | hc)
    · exact ha c hc
    · exact hb c hc

theorem allOf_cons {p : Char → Bool} {c : Char} {t : Text} :
    AllOf p (c :: t) ↔ p c = true ∧ AllOf p t := List.forall_mem_cons

theorem RunOf.head {p : Char → Bool} {t : Text} (h : RunOf p t) :
    ∃ c u, t = c :: u ∧ p c = true := by
  cases t with
  | nil => exact absurd rfl h.1
  | cons c u => exact ⟨c, u, rfl, h.2 c (List.mem_cons_self ..)⟩

@[simp] theorem stops_nil (p : Char → Bool) : Stops p [] := by
  intro c hc
  cases hc

@[simp] theorem stops_cons {p : Char → Bool} {c : Char} {t : Text} :
    Stops p (c :: t) ↔ p c = false := by
  simp [Stops]

theorem stops_of_run {p q : Char → Bool} (apart : ∀ c, p c = true → q c = false) {t rest : Text}
    (h : RunOf p t) : Stops q (t ++ rest) := by
  obtain ⟨c, u, rfl, hc⟩ := h.head
  exact stops_cons.mpr (apart c hc)

theorem stops_of_all {p q : Char → Bool} (apart : ∀ c, p c = true → q c = false) {t : Text}
    (h : AllOf p t) : Stops q t := by
  cases t with
  | nil => exact stops_nil q
  | cons c t => exact stops_cons.mpr (apart c (h c (List.mem_cons_self ..)))

theorem startsWord_eq_false {t : Text} : startsWord t = false ↔ Stops isWord t := by
  cases t <;> simp [startsWord]

theorem stops_dropWhile (p : Char → Bool) (t : Text) : Stops p (t.dropWhile p) := by
  induction t with
  | nil => exact stops_nil p
  | cons c t ih =>
    by_cases h : p c = true
    · simpa [List.dropWhile_cons, h] using ih
    · simp [h]

theorem allOf_takeWhile (p : Char → Bool) (t : Text) : AllOf p (t.takeWhile p) := by
  induction t with
  | nil => intro c hc; cases hc
  | cons c t ih =>
    by_cases h : p c = true
    · simp only [List.takeWhile_cons, h, if_true]
      intro d hd
      rcases List.mem_cons.mp hd with rfl | hd
      · exact h
      · exact ih d hd
    · simp [h, AllOf]

theorem takeWhile_run {p : Char → Bool} {run rest : Text} (inside : AllOf p run)
    (stop : Stops p rest) : (run ++ rest).takeWhile p = run := by
  rw [List.takeWhile_append_of_pos inside]
  cases rest with
  | nil => simp
  | cons c rest => simp [stops_cons.mp stop]

theorem dropWhile_of_stops {p : Char → Bool} {t : Text} (stop : Stops p t) :
    t.dropWhile p = t := by
  cases t with
  | nil => rfl
  | cons c t => simp [stops_cons.mp stop]

theorem dropWhile_run {p : Char → Bool} {run rest : Text} (inside : AllOf p run)
    (stop : Stops p rest) : (run ++ rest).dropWhile p = rest := by
  rw [List.dropWhile_append_of_pos inside, dropWhile_of_stops stop]

theorem run_unique {p : Char → Bool} {a b s t : Text} (ha : AllOf p a) (hb : AllOf p b)
    (hs : Stops p s) (ht : Stops p t) (h : a ++ s = b ++ t) : a = b ∧ s = t := by
  have first := takeWhile_run ha hs
  have last := dropWhile_run ha hs
  rw [h] at first last
  exact ⟨first.symm.trans (takeWhile_run hb ht), last.symm.trans (dropWhile_run hb ht)⟩

theorem run?_eq_some {p : Char → Bool} {t run rest : Text} :
    run? p t = some (run, rest) ↔ t = run ++ rest ∧ RunOf p run ∧ Stops p rest := by
  constructor
  · intro h
    have inside := allOf_takeWhile p t
    unfold run? at h
    split at h
    · contradiction
    · rename_i c cs taken
      cases h
      rw [taken] at inside
      refine ⟨?_, ⟨List.cons_ne_nil c cs, inside⟩, stops_dropWhile p t⟩
      rw [← taken, List.takeWhile_append_dropWhile]
  · rintro ⟨rfl, ⟨nonempty, inside⟩, stop⟩
    obtain ⟨c, cs, rfl⟩ := List.exists_cons_of_ne_nil nonempty
    unfold run?
    rw [takeWhile_run inside stop, dropWhile_run inside stop]

theorem run?_append {p : Char → Bool} {run rest : Text} (h : RunOf p run) (stop : Stops p rest) :
    run? p (run ++ rest) = some (run, rest) :=
  run?_eq_some.mpr ⟨rfl, h, stop⟩

theorem run?_eq_none {p : Char → Bool} {t : Text} : run? p t = none ↔ Stops p t := by
  cases t with
  | nil => simp [run?]
  | cons c t => cases h : p c <;> simp [run?, h]

theorem digits_run (n : Nat) : RunOf Char.isDigit (Nat.toDigits 10 n) :=
  ⟨Nat.toDigits_ne_nil,
    fun _ member => Nat.isDigit_of_mem_toDigits (by decide) (by decide) member⟩

theorem literal?_append (word rest : Text) : literal? word (word ++ rest) = some rest :=
  literal?_eq_some.mpr rfl

theorem literal?_eq_none_of_head {c d : Char} {word t : Text} (h : c ≠ d) :
    literal? (c :: word) (d :: t) = none := by
  simp [literal?, h]

theorem exists_literal (word t : Text) :
    ∃ mark, (mark = [] ∨ mark = word) ∧ t = mark ++ (literal? word t).getD t := by
  cases found : literal? word t with
  | none => exact ⟨[], .inl rfl, rfl⟩
  | some rest => exact ⟨word, .inr rfl, literal?_eq_some.mp found⟩

theorem skipBlanks_append {blanks rest : Text} (h : AllOf isBlank blanks)
    (stop : Stops isBlank rest) : skipBlanks (blanks ++ rest) = rest :=
  dropWhile_run h stop

theorem skipBlanks_blanks {blanks : Text} (h : AllOf isBlank blanks) (rest : Text) :
    skipBlanks (blanks ++ rest) = skipBlanks rest :=
  List.dropWhile_append_of_pos h

theorem stops_skipBlanks (t : Text) : Stops isBlank (skipBlanks t) := stops_dropWhile isBlank t

theorem exists_blanks (t : Text) : ∃ blanks, AllOf isBlank blanks ∧ t = blanks ++ skipBlanks t :=
  ⟨t.takeWhile isBlank, allOf_takeWhile isBlank t, List.takeWhile_append_dropWhile.symm⟩

theorem skipBlanks_of_stops {t : Text} (stop : Stops isBlank t) : skipBlanks t = t :=
  dropWhile_of_stops stop

/-- A class without blanks stops at once when it stops behind the blanks. -/
theorem stops_of_skipBlanks {p : Char → Bool} (apart : ∀ c, isBlank c = true → p c = false)
    {t : Text} (h : Stops p (skipBlanks t)) : Stops p t := by
  cases t with
  | nil => exact stops_nil p
  | cons c t =>
    cases blank : isBlank c with
    | true => exact stops_cons.mpr (apart c blank)
    | false => rwa [skipBlanks_of_stops (stops_cons.mpr blank)] at h

theorem gap?_eq_run? (t : Text) : gap? t = (run? isBlank t).map Prod.snd := by
  cases t with
  | nil => rfl
  | cons c t => cases blank : isBlank c <;> simp [gap?, run?, skipBlanks, blank]

theorem gap?_eq_some {t rest : Text} :
    gap? t = some rest ↔ ∃ gap, RunOf isBlank gap ∧ t = gap ++ rest ∧ Stops isBlank rest := by
  rw [gap?_eq_run?, Option.map_eq_some_iff]
  constructor
  · rintro ⟨⟨gap, rest⟩, found, rfl⟩
    obtain ⟨same, run, stop⟩ := run?_eq_some.mp found
    exact ⟨gap, run, same, stop⟩
  · rintro ⟨gap, run, same, stop⟩
    exact ⟨(gap, rest), run?_eq_some.mpr ⟨same, run, stop⟩, rfl⟩

theorem gap?_append {gap rest : Text} (h : RunOf isBlank gap) (stop : Stops isBlank rest) :
    gap? (gap ++ rest) = some rest :=
  gap?_eq_some.mpr ⟨gap, h, rfl, stop⟩

theorem skipWord_append {c d : Char} {word mark rest : Text} (different : c ≠ d)
    (solid : isBlank d = false) (h : Optionally (c :: word) mark) :
    skipWord (c :: word) (mark ++ d :: rest) = d :: rest := by
  rcases h with rfl | ⟨gap, run, rfl⟩
  · simp [skipWord, literal?, different]
  · simp only [skipWord, List.append_assoc, literal?_append, Option.bind_some,
      gap?_append run (stops_cons.mpr solid), Option.getD_some]

theorem exists_skipWord (word t : Text) :
    ∃ mark, Optionally word mark ∧ t = mark ++ skipWord word t := by
  cases found : (literal? word t).bind gap? with
  | none => exact ⟨[], .inl rfl, by simp [skipWord, found]⟩
  | some rest =>
    obtain ⟨u, hu, hrest⟩ := Option.bind_eq_some_iff.mp found
    obtain ⟨gap, run, rfl, _⟩ := gap?_eq_some.mp hrest
    refine ⟨word ++ gap, .inr ⟨gap, run, rfl⟩, ?_⟩
    rw [skipWord, found, Option.getD_some, List.append_assoc]
    exact literal?_eq_some.mp hu

theorem TypeText.head {t : Text} (h : TypeText t) : ∃ c u, t = c :: u ∧ isTypeChar c = true := by
  cases h with
  | run run => exact run.head
  | mutable _ _ => exact ⟨'&', _, rfl, by decide⟩

theorem mutableType?_eq_some {t type rest : Text} :
    mutableType? t = some (type, rest) ↔ ∃ gap run, RunOf isBlank gap ∧ RunOf isTypeChar run ∧
      type = mutableMark ++ gap ++ run ∧ t = type ++ rest ∧ Stops isTypeChar rest := by
  simp only [mutableType?, Option.bind_eq_bind, Option.bind_eq_some_iff]
  constructor
  · rintro ⟨a, ha, ⟨gap, b⟩, hb, ⟨run, c⟩, hc, hout⟩
    obtain ⟨rfl, gapRun, _⟩ := run?_eq_some.mp hb
    obtain ⟨rfl, typeRun, stop⟩ := run?_eq_some.mp hc
    cases hout
    refine ⟨gap, run, gapRun, typeRun, rfl, ?_, stop⟩
    simp [literal?_eq_some.mp ha, List.append_assoc]
  · rintro ⟨gap, run, gapRun, typeRun, rfl, rfl, stop⟩
    have solid : Stops isBlank (run ++ rest) := stops_of_run (fun _ => solid_of_typeChar) typeRun
    refine ⟨gap ++ (run ++ rest), ?_, (gap, run ++ rest), run?_append gapRun solid,
      (run, rest), run?_append typeRun stop, rfl⟩
    simp only [List.append_assoc, literal?_append]

theorem type?_sound {t type rest : Text} (h : type? t = some (type, rest)) :
    t = type ++ rest ∧ TypeText type ∧ Stops isTypeChar rest := by
  unfold type? at h
  cases hm : mutableType? t with
  | none =>
    rw [hm] at h
    obtain ⟨same, run, stop⟩ := run?_eq_some.mp h
    exact ⟨same, .run run, stop⟩
  | some found =>
    rw [hm] at h
    cases h
    obtain ⟨gap, run, gapRun, typeRun, rfl, same, stop⟩ := mutableType?_eq_some.mp hm
    exact ⟨same, .mutable gapRun typeRun, stop⟩

/-- A type is read back exactly when no type character follows it, not even behind blanks: after
`&mut` it would belong to the type. -/
theorem type?_append {type rest : Text} (h : TypeText type)
    (stop : Stops isTypeChar (skipBlanks rest)) : type? (type ++ rest) = some (type, rest) := by
  have near : Stops isTypeChar rest := stops_of_skipBlanks (fun _ => isTypeChar_of_blank) stop
  unfold type?
  cases h with
  | mutable gapRun typeRun =>
    rw [mutableType?_eq_some.mpr ⟨_, _, gapRun, typeRun, rfl, rfl, near⟩]
    rfl
  | run run =>
    have none : mutableType? (type ++ rest) = none := by
      cases hm : mutableType? (type ++ rest) with
      | none => rfl
      | some found =>
        obtain ⟨longer, after⟩ := found
        obtain ⟨gap, tail, gapRun, typeRun, rfl, same, _⟩ := mutableType?_eq_some.mp hm
        rw [List.append_assoc, List.append_assoc] at same
        have soft : Stops isTypeChar (gap ++ (tail ++ after)) :=
          stops_of_run (fun _ => isTypeChar_of_blank) gapRun
        have solid : Stops isBlank (tail ++ after) :=
          stops_of_run (fun _ => solid_of_typeChar) typeRun
        have cut := (run_unique run.2 (by decide : AllOf isTypeChar mutableMark) near soft same).2
        obtain ⟨c, tail, rfl, typed⟩ := typeRun.head
        rw [cut, skipBlanks_append gapRun.2 solid, List.cons_append, stops_cons, typed] at stop
        cases stop
    rw [none, Option.none_or, run?_append run near]

theorem stringRest?_eq_some {t rest : Text} :
    stringRest? t = some rest ↔ ∃ body, StringBody body ∧ t = body ++ '"' :: rest := by
  constructor
  · intro h
    fun_induction stringRest? t with
    | case1 => cases h
    | case2 t =>
      cases h
      exact ⟨[], .nil, rfl⟩
    | case3 t => cases h
    | case4 c t newline ih =>
      obtain ⟨body, valid, rfl⟩ := ih h
      exact ⟨'\\' :: c :: body, .escape newline valid, rfl⟩
    | case5 t _ _ => cases h
    | case6 c t quote _ backslash ih =>
      obtain ⟨body, valid, rfl⟩ := ih h
      exact ⟨c :: body, .plain quote backslash valid, rfl⟩
  · rintro ⟨body, valid, rfl⟩
    induction valid with
    | nil => simp [stringRest?]
    | @plain c t quote backslash _ ih => simp [stringRest?, backslash, ih]
    | escape newline _ ih => simp [stringRest?, newline, ih]

theorem string?_eq_some {t rest : Text} :
    string? t = some rest ↔ ∃ string, StringText string ∧ t = string ++ rest := by
  constructor
  · intro h
    unfold string? at h
    split at h
    · obtain ⟨body, valid, rfl⟩ := stringRest?_eq_some.mp h
      exact ⟨'"' :: body ++ ['"'], ⟨body, valid, rfl⟩, by simp⟩
    · contradiction
  · rintro ⟨_, ⟨body, valid, rfl⟩, rfl⟩
    simp only [List.cons_append, List.append_assoc, List.nil_append, string?]
    exact stringRest?_eq_some.mpr ⟨body, valid, rfl⟩

end RecorderStubs
