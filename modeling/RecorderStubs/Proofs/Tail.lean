import RecorderStubs.Proofs.Grammar

/-! From the header to the placeholder. Parameters are taken while there are any, and the tail is
looked for where they stop. The blanks between the last parameter and the tail may be counted to
either, and a comma may begin a parameter or the tail; neither changes what is read. -/
namespace RecorderStubs

theorem parameters_of_none {t : Text} (h : parameter? t = none) : parameters t = ([], t) := by
  rw [parameters]
  split
  · rfl
  · rename_i found
    rw [h] at found
    cases found

theorem parameters_of_some {t rest : Text} {p : Parameter} (h : parameter? t = some (p, rest)) :
    parameters t = (p :: (parameters rest).1, (parameters rest).2) := by
  rw [parameters]
  split
  · rename_i found
    rw [h] at found
    cases found
  · rename_i found
    rw [h] at found
    cases found
    rfl

theorem parameters_longest (t : Text) :
    ∃ a, LongestParameters (parameters t).1 a (parameters t).2 ∧ t = a ++ (parameters t).2 := by
  fun_induction parameters t with
  | case1 t none => exact ⟨[], .stop (parameter?_eq_none.mp none), rfl⟩
  | case2 t p rest found ps final eq ih =>
    obtain ⟨b, longest, same⟩ := ih
    obtain ⟨a, valid, rfl, first⟩ := parameter?_eq_some.mp found
    rw [eq] at longest same
    dsimp only at longest same
    subst same
    exact ⟨a ++ b, .next valid first longest, by simp⟩

theorem parameters_eq {ps : List Parameter} {a rest : Text} (h : LongestParameters ps a rest) :
    parameters (a ++ rest) = (ps, rest) := by
  induction h with
  | stop none => exact parameters_of_none (parameter?_eq_none.mpr none)
  | @next p ps a b rest valid first _ ih =>
    rw [List.append_assoc, parameters_of_some (parameter?_eq_some.mpr ⟨a, valid, rfl, first⟩), ih]

theorem OpeningText.solid {opening : Text} (h : OpeningText opening) :
    ∃ c u, OpeningText (c :: u) ∧ (c = ',' ∨ c = ')') ∧
      ∀ rest, skipBlanks (opening ++ rest) = c :: u ++ rest := by
  obtain ⟨comma, a, b, result, c, first, blankA, blankB, typed, blankC, rfl⟩ := h
  have solid : ∀ {c : Char} {t : Text}, isBlank c = false → skipBlanks (c :: t) = c :: t :=
    fun hard => skipBlanks_of_stops (stops_cons.mpr hard)
  rcases first with rfl | rfl
  · refine ⟨')', b ++ result ++ ['\x7b'] ++ c, ⟨[], [], b, result, c, .inl rfl,
      (fun _ hc => nomatch hc), blankB, typed, blankC, rfl⟩, .inr rfl, fun rest => ?_⟩
    simp only [List.nil_append, List.append_assoc, List.cons_append, skipBlanks_blanks blankA]
    exact solid (by decide : isBlank ')' = false)
  · refine ⟨',', a ++ [')'] ++ b ++ result ++ ['\x7b'] ++ c, ⟨[','], a, b, result, c, .inr rfl,
      blankA, blankB, typed, blankC, rfl⟩, .inl rfl, fun rest => ?_⟩
    exact solid (by decide : isBlank ',' = false)

theorem parameter?_opening {opening : Text} (h : OpeningText opening) (rest : Text) :
    parameter? (opening ++ rest) = none := by
  refine parameter?_eq_none.mpr ?_
  rintro p _ rest' ⟨before, inside, after, blank, _, _, named, _, rfl⟩ same
  obtain ⟨comma, a, b, result, c, first, blankA, _, _, _, rfl⟩ := h
  simp only [List.append_assoc] at same
  rcases first with rfl | rfl
  · cases a with
    | nil => exact absurd (List.cons.inj same).1 (by decide)
    | cons d a =>
      cases (List.cons.inj same).1
      exact absurd (blankA ',' (List.mem_cons_self ..)) (by decide)
  · have same := (List.cons.inj same).2
    have hard : ∀ u, Stops isBlank ([')'] ++ u) := fun u => stops_cons.mpr (by decide)
    have solid : ∀ u, Stops isBlank (p.name ++ u) := fun u =>
      stops_of_run (fun _ => solid_of_word) named
    have cut := (run_unique blankA blank (hard _) (solid _) same).2
    obtain ⟨d, u, name, word⟩ := named.head
    rw [name] at cut
    cases (List.cons.inj cut).1
    cases word

/-- What follows parameters is read as if the blanks before it belonged to the last of them. -/
theorem parameters_append {ps : List Parameter} {a opening : Text} (h : ParametersText ps a)
    (opens : OpeningText opening) : ∃ opening', OpeningText opening' ∧
      ∀ rest, parameters (a ++ (opening ++ rest)) = (ps, opening' ++ rest) := by
  induction h with
  | nil => exact ⟨opening, opens, fun rest => parameters_of_none (parameter?_opening opens rest)⟩
  | @cons p ps a b valid more ih =>
    obtain ⟨c, u, opens', mark, solid⟩ := opens.solid
    have soft : ∀ rest, Stops isTypeChar (c :: u ++ rest) := by
      intro rest
      rw [List.cons_append, stops_cons]
      rcases mark with rfl | rfl <;> decide
    cases more with
    | nil =>
      refine ⟨c :: u, opens', fun rest => ?_⟩
      have found := parameter?_append valid (solid rest ▸ soft rest)
      rw [solid] at found
      rw [List.append_assoc, List.nil_append, parameters_of_some found,
        parameters_of_none (parameter?_opening opens' rest)]
    | @cons q qs a' b' valid' more' =>
      obtain ⟨opening', opens', same⟩ := ih
      refine ⟨opening', opens', fun rest => ?_⟩
      obtain ⟨v, comma⟩ := valid'.head
      have solid' : skipBlanks (a' ++ b' ++ (opening ++ rest)) = a' ++ b' ++ (opening ++ rest) := by
        rw [comma]
        exact skipBlanks_of_stops (stops_cons.mpr (by decide : isBlank ',' = false))
      have soft' : Stops isTypeChar (skipBlanks (a' ++ b' ++ (opening ++ rest))) := by
        rw [solid', comma]
        exact stops_cons.mpr (by decide : isTypeChar ',' = false)
      have found := parameter?_append valid soft'
      rw [solid'] at found
      rw [List.append_assoc, parameters_of_some found, same]

theorem result?_eq_some {t rest : Text} (h : result? t = some rest) :
    ∃ result, ResultText result ∧ t = result ++ rest := by
  simp only [result?, Option.bind_eq_bind, Option.bind_eq_some_iff] at h
  obtain ⟨a, ha, ⟨type, b⟩, hb, hout⟩ := h
  cases hout
  obtain ⟨before, blank₁, split₁⟩ := exists_blanks a
  obtain ⟨after, blank₂, split₂⟩ := exists_blanks b
  obtain ⟨cut, typed, _⟩ := type?_sound hb
  refine ⟨_, .inr ⟨before, type, after, blank₁, typed, blank₂, rfl⟩, ?_⟩
  calc t = ['-', '>'] ++ (before ++ (type ++ b)) := by rw [literal?_eq_some.mp ha, ← cut, ← split₁]
    _ = ['-', '>'] ++ (before ++ (type ++ (after ++ skipBlanks b))) := by rw [← split₂]
    _ = _ := by simp only [List.append_assoc]

theorem result?_append {result : Text} (h : ResultText result) (rest : Text) :
    (result? (result ++ '\x7b' :: rest)).getD (result ++ '\x7b' :: rest) = '\x7b' :: rest := by
  rcases h with rfl | ⟨before, type, after, blank₁, typed, blank₂, rfl⟩
  · rfl
  · have brace : skipBlanks (after ++ '\x7b' :: rest) = '\x7b' :: rest :=
      skipBlanks_append blank₂ (stops_cons.mpr (by decide))
    have soft : Stops isTypeChar (skipBlanks (after ++ '\x7b' :: rest)) := by
      rw [brace]
      exact stops_cons.mpr (by decide)
    simp only [result?, List.append_assoc, literal?_append,
      skipBlanks_append blank₁ (stops_blank_of_type typed _), type?_append typed soft, brace,
      Option.bind_eq_bind, Option.bind_some, Option.pure_def, Option.getD_some]

theorem ResultText.solid {result : Text} (h : ResultText result) (rest : Text) :
    Stops isBlank (result ++ '\x7b' :: rest) := by
  rcases h with rfl | ⟨before, type, after, _, _, _, rfl⟩
  · exact stops_cons.mpr (by decide)
  · exact stops_cons.mpr (by decide)

theorem exists_result (t : Text) :
    ∃ result, ResultText result ∧ t = result ++ (result? t).getD t := by
  cases found : result? t with
  | none => exact ⟨[], .inl rfl, rfl⟩
  | some rest => exact result?_eq_some found

theorem skipComma_append {comma blanks : Text} (h : comma = [] ∨ comma = [','])
    (blank : AllOf isBlank blanks) (rest : Text) :
    (literal? [','] (comma ++ (blanks ++ ')' :: rest))).getD (comma ++ (blanks ++ ')' :: rest)) =
      blanks ++ ')' :: rest := by
  rcases h with rfl | rfl
  · cases blanks with
    | nil => rfl
    | cons b blanks =>
      have other : ',' ≠ b := by
        rintro rfl
        exact absurd (blank ',' (List.mem_cons_self ..)) (by decide)
      rw [List.nil_append, List.cons_append, literal?_eq_none_of_head other, Option.getD_none]
  · rw [literal?_append, Option.getD_some]

theorem opening?_eq_some {t body : Text} :
    opening? t = some body ↔ ∃ opening, OpeningText opening ∧ t = opening ++ body ∧
      Stops isBlank body := by
  simp only [opening?, Option.bind_eq_bind, Option.bind_eq_some_iff, Option.pure_def,
    Option.some.injEq]
  constructor
  · rintro ⟨u, hu, v, hv, rfl⟩
    obtain ⟨comma, first, split₁⟩ := exists_literal [','] t
    obtain ⟨a, blankA, split₂⟩ := exists_blanks ((literal? [','] t).getD t)
    obtain ⟨b, blankB, split₃⟩ := exists_blanks u
    obtain ⟨result, typed, split₄⟩ := exists_result (skipBlanks u)
    obtain ⟨c, blankC, split₅⟩ := exists_blanks v
    rw [literal?_eq_some.mp hv] at split₄
    rw [literal?_eq_some.mp hu] at split₂
    refine ⟨_, ⟨comma, a, b, result, c, first, blankA, blankB, typed, blankC, rfl⟩, ?_,
      stops_skipBlanks v⟩
    calc t = comma ++ (a ++ ([')'] ++ u)) := by rw [← split₂, ← split₁]
      _ = comma ++ (a ++ ([')'] ++ (b ++ (result ++ (['\x7b'] ++ v))))) := by
        rw [← split₄, ← split₃]
      _ = comma ++ (a ++ ([')'] ++ (b ++ (result ++ (['\x7b'] ++ (c ++ skipBlanks v)))))) := by
        rw [← split₅]
      _ = _ := by simp only [List.append_assoc]
  · rintro ⟨_, ⟨comma, a, b, result, c, first, blankA, blankB, typed, blankC, rfl⟩, rfl, solid⟩
    refine ⟨b ++ (result ++ '\x7b' :: (c ++ body)), ?_, c ++ body, ?_,
      skipBlanks_append blankC solid⟩
    · have paren : Stops isBlank (')' :: (b ++ (result ++ '\x7b' :: (c ++ body)))) :=
        stops_cons.mpr (by decide)
      simp only [List.append_assoc, List.cons_append, List.nil_append]
      rw [skipComma_append first blankA, skipBlanks_append blankA paren]
      exact literal?_append [')'] _
    · rw [skipBlanks_append blankB (typed.solid _), result?_append typed]
      exact literal?_append ['\x7b'] _

theorem placeholder?_eq_some {t rest : Text} :
    placeholder? t = some rest ↔ ∃ placeholder, PlaceholderText placeholder ∧
      t = placeholder ++ rest := by
  simp only [placeholder?, Option.bind_eq_bind, Option.bind_eq_some_iff]
  constructor
  · rintro ⟨u, hu, v, hv, w, hw, hrest⟩
    obtain ⟨a, blankA, split₁⟩ := exists_blanks u
    obtain ⟨b, blankB, split₂⟩ := exists_blanks v
    obtain ⟨c, blankC, split₃⟩ := exists_blanks w
    obtain ⟨string, quoted, cut⟩ := string?_eq_some.mp hv
    rw [literal?_eq_some.mp hw] at split₂
    rw [literal?_eq_some.mp hrest] at split₃
    refine ⟨_, ⟨a, string, b, c, blankA, quoted, blankB, blankC, rfl⟩, ?_⟩
    calc t = unimplementedCall ++ (a ++ (string ++ v)) := by
          rw [literal?_eq_some.mp hu, ← cut, ← split₁]
      _ = unimplementedCall ++ (a ++ (string ++ (b ++ ([')'] ++ (c ++ ([';'] ++ rest)))))) := by
        rw [← split₃, ← split₂]
      _ = _ := by simp only [List.append_assoc]
  · rintro ⟨_, ⟨a, string, b, c, blankA, quoted, blankB, blankC, rfl⟩, rfl⟩
    have quote : ∀ u, Stops isBlank (string ++ u) := by
      obtain ⟨body, _, rfl⟩ := quoted
      exact fun u => stops_cons.mpr (by decide)
    have paren : ∀ u, Stops isBlank ([')'] ++ u) := fun u => stops_cons.mpr (by decide)
    have mark : ∀ u, Stops isBlank ([';'] ++ u) := fun u => stops_cons.mpr (by decide)
    simp only [List.append_assoc]
    refine ⟨_, literal?_append .., b ++ ([')'] ++ (c ++ ([';'] ++ rest))), ?_,
      c ++ ([';'] ++ rest), ?_, ?_⟩
    · rw [skipBlanks_append blankA (quote _)]
      exact string?_eq_some.mpr ⟨string, quoted, rfl⟩
    · rw [skipBlanks_append blankB (paren _)]
      exact literal?_append ..
    · rw [skipBlanks_append blankC (mark _)]
      exact literal?_append ..

theorem PlaceholderText.head {placeholder : Text} (h : PlaceholderText placeholder) :
    ∃ u, placeholder = unimplementedCall ++ u := by
  obtain ⟨a, string, b, c, _, _, _, _, rfl⟩ := h
  exact ⟨a ++ (string ++ (b ++ ([')'] ++ (c ++ [';'])))), by simp only [List.append_assoc]⟩

theorem PlaceholderText.solid {placeholder : Text} (h : PlaceholderText placeholder)
    (rest : Text) : Stops isBlank (placeholder ++ rest) := by
  obtain ⟨u, rfl⟩ := h.head
  exact stops_cons.mpr (by decide)

theorem tail?_eq_some {t body rest : Text} :
    tail? t = some (body, rest) ↔ ∃ opening placeholder, OpeningText opening ∧
      PlaceholderText placeholder ∧ body = placeholder ++ rest ∧ t = opening ++ body := by
  simp only [tail?, Option.bind_eq_bind, Option.bind_eq_some_iff, Option.pure_def,
    Option.some.injEq, Prod.mk.injEq]
  constructor
  · rintro ⟨u, hu, v, hv, rfl, rfl⟩
    obtain ⟨opening, opens, same, _⟩ := opening?_eq_some.mp hu
    obtain ⟨placeholder, placed, cut⟩ := placeholder?_eq_some.mp hv
    exact ⟨opening, placeholder, opens, placed, cut, same⟩
  · rintro ⟨opening, placeholder, opens, placed, rfl, rfl⟩
    exact ⟨_, opening?_eq_some.mpr ⟨opening, opens, rfl, placed.solid rest⟩, rest,
      placeholder?_eq_some.mpr ⟨placeholder, placed, rfl⟩, rfl, rfl⟩

end RecorderStubs
