import RecorderStubs.Proofs.Call
import RecorderStubs.Proofs.Methods
import RecorderStubs.Signature.Match

/-! The list of methods is sound and complete. A text is searched for keywords from left to right,
an `unsafe` in front is taken along if it can be, and an `unsafe` inside a region is left out again;
what this finds is said here without the search: one method for every `fn` that stands outside of
the regions as a whole word and begins a header, and no others. -/
namespace RecorderStubs

/-- `word` stands at an offset, with no word character on either side. -/
def WholeWord (word t : Text) (offset : Nat) : Prop :=
  ∃ a rest, t = a ++ (word ++ rest) ∧ a.length = offset ∧ endsWord false a = false ∧
    Stops isWord rest

/-- A whole `unsafe` at `start`, with nothing but blanks between it and `function`. -/
def UnsafeBefore (t : Text) (start function : Nat) : Prop :=
  WholeWord unsafeWord t start ∧ start + unsafeWord.length ≤ function ∧
    AllOf isBlank (Span.cut ⟨start + unsafeWord.length, function⟩ t)

theorem endsWord_gap {gap : Text} (h : RunOf isBlank gap) (afterWord : Bool) :
    endsWord afterWord gap = false := by
  obtain ⟨c, u, rfl, blank⟩ := h.head
  rw [endsWord_cons, isWord_of_blank blank]
  exact endsWord_blanks (allOf_cons.mp h.2).2

theorem UnsafeBefore.parts {t : Text} {start function : Nat} (h : UnsafeBefore t start function)
    (word : WholeWord functionWord t function) : ∃ a gap rest, RunOf isBlank gap ∧
      t = a ++ ((unsafeWord ++ gap) ++ (functionWord ++ rest)) ∧ a.length = start ∧
      start + (unsafeWord ++ gap).length = function ∧ endsWord false a = false ∧
      Stops isWord rest := by
  obtain ⟨⟨a, u, split, rfl, before, stop⟩, order, blank⟩ := h
  obtain ⟨b, rest, split', rfl, _, stop'⟩ := word
  obtain ⟨gap, rfl⟩ : a ++ unsafeWord <+: b :=
    List.prefix_of_prefix_length_le ⟨u, by rw [split, List.append_assoc]⟩ ⟨_, split'.symm⟩
      (by rw [List.length_append]; exact order)
  have between : Span.cut ⟨a.length + unsafeWord.length, ((a ++ unsafeWord) ++ gap).length⟩ t =
      gap := by
    rw [Span.cut, split', List.take_left, ← List.length_append, List.drop_left]
  rw [between] at blank
  have tail : u = gap ++ (functionWord ++ rest) := by
    rw [split, List.append_assoc, List.append_assoc] at split'
    exact List.append_cancel_left (List.append_cancel_left split')
  refine ⟨a, gap, rest, ⟨?_, blank⟩, ?_, rfl, ?_, before, stop'⟩
  · rintro rfl
    rw [tail] at stop
    exact absurd (stops_cons.mp stop) (by decide)
  · rw [split, tail, List.append_assoc]
  · simp only [List.length_append, Nat.add_assoc]

theorem unsafeBefore_of_parts {a gap rest : Text} (run : RunOf isBlank gap)
    (before : endsWord false a = false) :
    UnsafeBefore (a ++ ((unsafeWord ++ gap) ++ (functionWord ++ rest))) a.length
      (a.length + (unsafeWord ++ gap).length) := by
  refine ⟨⟨a, gap ++ (functionWord ++ rest), by simp, rfl, before,
    stops_of_run (fun _ => isWord_of_blank) run⟩, ?_, ?_⟩
  · rw [List.length_append]
    omega
  · have between : Span.cut ⟨a.length + unsafeWord.length, a.length + (unsafeWord ++ gap).length⟩
        (a ++ ((unsafeWord ++ gap) ++ (functionWord ++ rest))) = gap := by
      have whole : a ++ ((unsafeWord ++ gap) ++ (functionWord ++ rest)) =
          ((a ++ unsafeWord) ++ gap) ++ (functionWord ++ rest) := by simp
      have stop : a.length + (unsafeWord ++ gap).length = ((a ++ unsafeWord) ++ gap).length := by
        simp
      rw [Span.cut, whole, stop, List.take_left, ← List.length_append, List.drop_left]
    rw [between]
    exact run.2

theorem keywordsFrom_start {a u : Text} {offset skip function : Nat} {afterWord : Bool}
    (h : (offset + a.length, function) ∈ keywordsFrom offset skip afterWord (a ++ u)) :
    endsWord afterWord a = false := by
  have late : ∀ {offset skip afterWord t},
      (offset, function) ∉ keywordsFrom (offset + 1) skip afterWord t := fun member => by
    obtain ⟨a, _, _, _, _, _, start, _⟩ := mem_keywordsFrom member
    omega
  induction a generalizing offset skip afterWord with
  | nil =>
    cases u with
    | nil => cases h
    | cons c u =>
      cases skip with
      | succ skip => exact absurd h late
      | zero =>
        cases afterWord with
        | false => rfl
        | true =>
          rw [List.nil_append, keywordsFrom_none rfl] at h
          exact absurd h late
  | cons c a ih =>
    have next : offset + (c :: a).length = offset + 1 + a.length := by
      rw [List.length_cons]
      omega
    rw [next, List.cons_append] at h
    rw [endsWord_cons]
    cases skip with
    | succ skip => exact ih h
    | zero =>
      cases found : (if afterWord then none else keyword? (c :: (a ++ u))) with
      | none =>
        rw [keywordsFrom_none found] at h
        exact ih h
      | some size =>
        rw [keywordsFrom_some found] at h
        rcases List.mem_cons.mp h with same | h
        · have starts := congrArg Prod.fst same
          dsimp only at starts
          omega
        · exact ih h

theorem endsWord_run {y : Text} (h : RunOf isWord y) (afterWord : Bool) :
    endsWord afterWord y = true := by
  obtain ⟨c, u, rfl, word⟩ := h.head
  rw [endsWord_cons, word]
  exact endsWord_words (allOf_cons.mp h.2).2

/-- Inside a keyword, a word begins only with the `fn`. -/
theorem word_in_keyword {mark a w : Text} {c : Char} (marked : Optionally unsafeWord mark)
    (nonempty : a ≠ []) (ends : endsWord false a = false) (solid : isBlank c = false)
    (split : mark ++ functionWord = a ++ c :: w) : a = mark := by
  have cutWord : ∀ {word x y : Text}, AllOf isWord word → word = x ++ y → x ≠ [] →
      ∀ afterWord, endsWord afterWord x = true := fun {word x y} letters cut some afterWord => by
    rw [cut] at letters
    exact endsWord_run ⟨some, (allOf_append.mp letters).1⟩ afterWord
  rcases marked with rfl | ⟨gap, run, rfl⟩
  · rw [cutWord (by decide) split nonempty] at ends
    cases ends
  · rw [List.append_assoc] at split
    rcases List.append_eq_append_iff.mp split with ⟨x, rfl, tail⟩ | ⟨x, whole, -⟩
    · rcases List.append_eq_append_iff.mp tail with ⟨y, rfl, last⟩ | ⟨y, blanks, last⟩
      · cases y with
        | nil => rw [List.append_nil]
        | cons d y =>
          rw [← List.append_assoc, endsWord_append,
            cutWord (by decide) last (List.cons_ne_nil d y)] at ends
          cases ends
      · cases y with
        | nil => rw [blanks, List.append_nil]
        | cons d y =>
          obtain ⟨rfl, _⟩ := List.cons.inj last
          rw [run.2 c (by simp [blanks])] at solid
          cases solid
    · rw [cutWord (by decide) whole nonempty] at ends
      cases ends

/-- A keyword that starts before another one, which is not its own `fn`, ends before it. -/
theorem keyword_over {a mark rest mark' rest' : Text} (marked : Optionally unsafeWord mark)
    (marked' : Optionally unsafeWord mark') (nonempty : a ≠ []) (ends : endsWord false a = false)
    (same : a ++ (mark ++ (functionWord ++ rest)) = mark' ++ (functionWord ++ rest'))
    (other : mark = [] → a ≠ mark') : mark'.length + 2 ≤ a.length := by
  refine Nat.le_of_not_lt fun short => ?_
  obtain ⟨c, v, first, initial⟩ : ∃ c v, mark ++ (functionWord ++ rest) = c :: v ∧
      (c = 'u' ∨ c = 'f' ∧ mark = []) := by
    rcases marked with rfl | ⟨gap, run, rfl⟩
    · exact ⟨_, _, rfl, .inr ⟨rfl, rfl⟩⟩
    · exact ⟨_, _, rfl, .inl rfl⟩
  have solid : isBlank c = false := by
    rcases initial with rfl | ⟨rfl, _⟩ <;> decide
  rw [first, ← List.append_assoc] at same
  have size : (mark' ++ functionWord).length = mark'.length + 2 := List.length_append
  obtain ⟨w, cut⟩ : a ++ [c] <+: mark' ++ functionWord :=
    List.prefix_of_prefix_length_le ⟨v, by simp [same]⟩ ⟨rest', rfl⟩
      (by rw [size, List.length_append]; exact short)
  rw [List.append_assoc, List.singleton_append] at cut
  obtain rfl := word_in_keyword marked' nonempty ends solid cut.symm
  obtain ⟨rfl, _⟩ := List.cons.inj (List.append_cancel_left cut)
  exact other (initial.resolve_left (by decide)).2 rfl

theorem keywordsFrom_complete {a mark rest : Text} (marked : Optionally unsafeWord mark)
    (stop : Stops isWord rest) {offset skip : Nat} {afterWord : Bool} (inside : skip ≤ a.length)
    (starts : endsWord afterWord a = false)
    (longest : mark = [] → ∀ b gap, RunOf isBlank gap → a = b ++ (unsafeWord ++ gap) →
      endsWord afterWord b = true) :
    (offset + a.length, offset + a.length + mark.length) ∈
      keywordsFrom offset skip afterWord (a ++ (mark ++ (functionWord ++ rest))) := by
  -- Along what stands before the keyword: one that starts earlier is over before it, so it is not
  -- skipped.
  induction a generalizing offset skip afterWord with
  | nil =>
    obtain rfl : skip = 0 := by simpa using inside
    obtain rfl : afterWord = false := starts
    have found := keyword?_eq_some.mpr ⟨mark, rest, marked, rfl, rfl, stop⟩
    obtain ⟨c, u, shape⟩ : ∃ c u, mark ++ (functionWord ++ rest) = c :: u := by
      rcases marked with rfl | ⟨gap, _, rfl⟩ <;> exact ⟨_, _, rfl⟩
    rw [List.nil_append]
    rw [shape] at found ⊢
    have found : (if false then none else keyword? (c :: u)) = some mark.length := found
    rw [keywordsFrom_some found]
    exact List.mem_cons_self ..
  | cons c a ih =>
    have next : offset + (c :: a).length = offset + 1 + a.length := by
      rw [List.length_cons]
      omega
    rw [List.length_cons] at inside
    rw [next, List.cons_append]
    have longest' : mark = [] → ∀ b gap, RunOf isBlank gap → a = b ++ (unsafeWord ++ gap) →
        endsWord (isWord c) b = true := fun none b gap run split => by
      simpa using longest none (c :: b) gap run (by rw [split]; rfl)
    have starts' : endsWord (isWord c) a = false := by simpa using starts
    cases skip with
    | succ skip => exact ih (by omega) starts' longest'
    | zero =>
      cases found : (if afterWord then none
          else keyword? (c :: (a ++ (mark ++ (functionWord ++ rest))))) with
      | none =>
        rw [keywordsFrom_none found]
        exact ih (Nat.zero_le _) starts' longest'
      | some size =>
        obtain ⟨mark', rest', marked', rfl, split, _⟩ :=
          keyword?_eq_some.mp (keyword?_of_free found)
        have past := keyword_over (a := c :: a) marked marked' (List.cons_ne_nil c a)
          (by simpa using starts) split (fun none same => ?_)
        · rw [keywordsFrom_some found]
          rw [List.length_cons] at past
          exact List.mem_cons_of_mem _ (ih (by omega) starts' longest')
        · rcases marked' with rfl | ⟨gap, run, rfl⟩
          · cases same
          · have word := longest none [] gap run same
            rw [endsWord_nil] at word
            rw [word] at found
            cases found

/-- The keywords of a text: every `fn` that is a whole word, from the `unsafe` before it on. -/
theorem mem_keywords {t : Text} {start function : Nat} :
    (start, function) ∈ keywordsFrom 0 0 false t ↔ WholeWord functionWord t function ∧
      (UnsafeBefore t start function ∨
        start = function ∧ ∀ q, ¬ UnsafeBefore t q function) := by
  have marked : ∀ {q}, WholeWord functionWord t function → UnsafeBefore t q function →
      (q, function) ∈ keywordsFrom 0 0 false t := fun word before => by
    obtain ⟨a, gap, rest, run, rfl, rfl, rfl, starts, stop⟩ := before.parts word
    rw [← Nat.zero_add a.length]
    exact keywordsFrom_complete (.inr ⟨gap, run, rfl⟩) stop (Nat.zero_le _) starts
      (fun none => absurd none (by simp [unsafeWord]))
  constructor
  · intro member
    obtain ⟨a, mark, rest, mark?, stop, split, begins, rfl, -⟩ := mem_keywordsFrom member
    rw [Nat.zero_add] at begins
    subst begins
    rw [split, ← Nat.zero_add a.length] at member
    have starts := keywordsFrom_start member
    rcases mark? with rfl | ⟨gap, run, rfl⟩
    · have word : WholeWord functionWord t a.length := ⟨a, rest, split, rfl, starts, stop⟩
      refine ⟨word, .inr ⟨rfl, fun q before => ?_⟩⟩
      -- An `unsafe` before it would make another entry for the same `fn`.
      obtain ⟨b, gap, rest', run, split', rfl, long, _⟩ := before.parts word
      rw [Nat.zero_add, ← split] at member
      have same := congrArg Prod.fst (keyword_unique (marked word before) member rfl)
      dsimp only at same
      simp only [List.length_append, unsafeWord, List.length_cons, List.length_nil] at long
      omega
    · refine ⟨⟨a ++ (unsafeWord ++ gap), rest, by simp [split], List.length_append, ?_, stop⟩,
        .inl ?_⟩
      · rw [endsWord_append, endsWord_append]
        exact endsWord_gap run _
      · rw [split]
        exact unsafeBefore_of_parts run starts
  · rintro ⟨word, before | ⟨rfl, none⟩⟩
    · exact marked word before
    · obtain ⟨a, rest, rfl, rfl, starts, stop⟩ := word
      rw [← Nat.zero_add a.length]
      refine keywordsFrom_complete (.inl rfl) stop (Nat.zero_le _) starts fun _ b gap run split => ?_
      cases ends : endsWord false b with
      | true => rfl
      | false =>
        have before : UnsafeBefore (b ++ ((unsafeWord ++ gap) ++ (functionWord ++ rest))) b.length
            (b.length + (unsafeWord ++ gap).length) := unsafeBefore_of_parts run ends
        rw [← List.append_assoc, ← split, ← List.length_append, ← split] at before
        exact absurd before (none _)

/-- The declaration of an `fn` starts with the `unsafe` before it, unless that stands in a region,
and with the `fn` itself where there is no such `unsafe`. -/
def StartsAt (t : Text) (function start : Nat) : Prop :=
  (UnsafeBefore t start function ∧ Clear t start) ∨
    (start = function ∧ ∀ q, UnsafeBefore t q function → ¬ Clear t q)

theorem StartsAt.keyword {t : Text} {function start : Nat} (h : StartsAt t function start)
    (word : WholeWord functionWord t function) :
    ∃ q, (q, function) ∈ keywordsFrom 0 0 false t ∧
      (start = q ∨ start = function ∧ (q = function ∨ ¬ Clear t q)) := by
  rcases h with ⟨before, _⟩ | ⟨rfl, hidden⟩
  · exact ⟨start, mem_keywords.mpr ⟨word, .inl before⟩, .inl rfl⟩
  · by_cases some : ∃ q, UnsafeBefore t q start
    · obtain ⟨q, before⟩ := some
      exact ⟨q, mem_keywords.mpr ⟨word, .inl before⟩, .inr ⟨rfl, .inr (hidden q before)⟩⟩
    · exact ⟨start, mem_keywords.mpr ⟨word, .inr ⟨rfl, not_exists.mp some⟩⟩, .inl rfl⟩

theorem liveStart?_clear {t : Text} {start function : Nat} (h : Clear t start) :
    liveStart? (inertAt (inertSpans t)) (start, function) = some start := by
  rw [Clear] at h
  simp [liveStart?, h]

theorem liveStart?_hidden {t : Text} {start function : Nat} (h : ¬ Clear t start)
    (clear : Clear t function) :
    liveStart? (inertAt (inertSpans t)) (start, function) = some function := by
  rw [Clear, Bool.not_eq_false] at h
  rw [Clear] at clear
  simp [liveStart?, h, clear]

theorem mem_liveStarts_iff {t : Text} {start : Nat} : start ∈ liveStarts t ↔
    Clear t start ∧ ∃ function, WholeWord functionWord t function ∧ StartsAt t function start := by
  constructor
  · intro member
    obtain ⟨⟨q, function⟩, keyword, live, _, clear⟩ := mem_liveStarts member
    obtain ⟨word, marked⟩ := mem_keywords.mp keyword
    refine ⟨clear, function, word, ?_⟩
    by_cases open' : Clear t q
    · rw [liveStart?_clear open'] at live
      obtain rfl := Option.some.inj live
      rcases marked with before | ⟨rfl, none⟩
      · exact .inl ⟨before, clear⟩
      · exact .inr ⟨rfl, fun q before => absurd before (none q)⟩
    · have other : start ≠ q := fun same => open' (same ▸ clear)
      obtain rfl := (liveStart?_eq_some live).1.resolve_left other
      refine .inr ⟨rfl, fun q' before => ?_⟩
      obtain ⟨rfl, _⟩ := Prod.mk.inj
        (keyword_unique (mem_keywords.mpr ⟨word, .inl before⟩) keyword rfl)
      exact open'
  · rintro ⟨clear, function, word, starts⟩
    obtain ⟨q, keyword, rfl | ⟨rfl, rfl | hidden⟩⟩ := starts.keyword word <;> rw [liveStarts_eq]
    · exact List.mem_filterMap.mpr ⟨_, keyword, liveStart?_clear clear⟩
    · exact List.mem_filterMap.mpr ⟨_, keyword, liveStart?_clear clear⟩
    · exact List.mem_filterMap.mpr ⟨_, keyword, liveStart?_hidden hidden clear⟩

theorem StartsAt.function_unique {t : Text} {function function' start : Nat}
    (h : StartsAt t function start) (h' : StartsAt t function' start)
    (word : WholeWord functionWord t function) (word' : WholeWord functionWord t function') :
    function = function' := by
  have which : ∀ {f}, StartsAt t f start → WholeWord functionWord t f →
      ∃ k ∈ keywordsFrom 0 0 false t, k.2 = f ∧ (start = k.1 ∨ start = k.2) :=
    fun starts word => by
      obtain ⟨q, keyword, place⟩ := starts.keyword word
      exact ⟨_, keyword, rfl, place.imp id And.left⟩
  obtain ⟨k, keyword, rfl, place⟩ := which h word
  obtain ⟨l, keyword', rfl, place'⟩ := which h' word'
  obtain ⟨g, mark, w, marked, split, rfl⟩ : ∃ g mark w, Optionally unsafeWord mark ∧
      t = g ++ (mark ++ (functionWord ++ w)) ∧ g.length = start := by
    obtain ⟨a, mark, rest, marked, _, split, first, second, _⟩ := mem_keywordsFrom keyword
    rcases place with rfl | rfl
    · exact ⟨a, mark, rest, marked, split, by omega⟩
    · exact ⟨a ++ mark, [], rest, .inl rfl, by simp [split], by rw [List.length_append]; omega⟩
  rw [keyword_function keyword split marked place, keyword_function keyword' split marked place']

theorem StartsAt.start_unique {t : Text} {function start start' : Nat}
    (h : StartsAt t function start) (h' : StartsAt t function start')
    (word : WholeWord functionWord t function) : start = start' := by
  have same : ∀ {q q'}, UnsafeBefore t q function → UnsafeBefore t q' function → q = q' :=
    fun before before' => congrArg Prod.fst (keyword_unique
      (mem_keywords.mpr ⟨word, .inl before⟩) (mem_keywords.mpr ⟨word, .inl before'⟩) rfl)
  rcases h with ⟨before, clear⟩ | ⟨rfl, hidden⟩ <;>
    rcases h' with ⟨before', clear'⟩ | ⟨rfl, hidden'⟩
  · exact same before before'
  · exact absurd clear (hidden' _ before)
  · exact absurd clear' (hidden _ before')
  · rfl

theorem header?_marked {mark rest : Text} (marked : Optionally unsafeWord mark) :
    header? (mark ++ (functionWord ++ rest)) = header? (functionWord ++ rest) := by
  have skip : ∀ {m}, Optionally unsafeWord m →
      skipWord unsafeWord (m ++ (functionWord ++ rest)) = functionWord ++ rest :=
    fun marked => skipWord_append (by decide) (by decide) marked
  have none : skipWord unsafeWord (functionWord ++ rest) = functionWord ++ rest :=
    skip (.inl rfl)
  simp only [header?, skip marked, none]

theorem header?_gap {rest : Text} {found : Text × Text}
    (h : header? (functionWord ++ rest) = some found) :
    ∃ gap u, RunOf isBlank gap ∧ rest = gap ++ u := by
  have none : skipWord unsafeWord (functionWord ++ rest) = functionWord ++ rest :=
    skipWord_append (by decide) (by decide) (.inl rfl)
  simp only [header?, none, literal?_append, Option.bind_eq_bind, Option.bind_some,
    Option.bind_eq_some_iff] at h
  obtain ⟨u, behind, _⟩ := h
  obtain ⟨gap, run, split, _⟩ := gap?_eq_some.mp behind
  exact ⟨gap, u, run, split⟩

theorem headerAt_marked {a mark rest : Text} (marked : Optionally unsafeWord mark) :
    (headerAt (a ++ (mark ++ (functionWord ++ rest))) a.length).isSome =
      (headerAt (a ++ (mark ++ (functionWord ++ rest))) ↑(a.length + mark.length)).isSome := by
  have first : textFrom (a ++ (mark ++ (functionWord ++ rest))) ↑a.length =
      mark ++ (functionWord ++ rest) := by
    rw [textFrom, Int.toNat_natCast, List.drop_left]
  have second : textFrom (a ++ (mark ++ (functionWord ++ rest))) ↑(a.length + mark.length) =
      functionWord ++ rest := by
    rw [textFrom_append, textFrom, Int.toNat_natCast, List.drop_left]
  simp only [headerAt, matchAt, first, second, header?_marked marked, Option.isSome_map]

theorem StartsAt.header {t : Text} {function start : Nat} (h : StartsAt t function start)
    (word : WholeWord functionWord t function) :
    (headerAt t start).isSome = (headerAt t function).isSome := by
  rcases h with ⟨before, _⟩ | ⟨rfl, _⟩
  · obtain ⟨a, gap, rest, run, rfl, rfl, rfl, _⟩ := before.parts word
    exact headerAt_marked (.inr ⟨gap, run, rfl⟩)
  · rfl

/-- Regions do not begin in a quiet text. -/
theorem Clear.quiet {a q u : Text} {offset : Nat} (clear : Clear (a ++ (q ++ u)) a.length)
    (quiet : AllOf isQuiet q) (ends : endsWord true q = false) (low : a.length ≤ offset)
    (high : offset < a.length + q.length) : Clear (a ++ (q ++ u)) offset := by
  obtain ⟨spans, before, same⟩ :=
    inertFrom_split (Nat.zero_add _) (Nat.zero_le _) (clear_iff.mp clear)
  have earlier : inertAt spans offset = false :=
    inertAt_of_stop_le fun s member => Nat.le_trans (before s member) low
  have later : inertAt (inertFrom (a.length + q.length) 0 false u) offset = false :=
    inertAt_of_lt_start fun s member => by
      have := (inertFrom_bounds member).1
      omega
  rw [Clear, inertSpans, same, inertFrom_quiet quiet ends, inertAt_append, earlier, later]
  rfl

/-- A header that starts outside of the regions has its `fn` outside of them. -/
theorem StartsAt.clear {t : Text} {function start : Nat} (h : StartsAt t function start)
    (word : WholeWord functionWord t function) (clear : Clear t start)
    (header : (headerAt t function).isSome) : Clear t function := by
  rcases h with ⟨before, _⟩ | ⟨rfl, _⟩
  · obtain ⟨a, gap, rest, run, rfl, rfl, rfl, _⟩ := before.parts word
    have behind : textFrom (a ++ ((unsafeWord ++ gap) ++ (functionWord ++ rest)))
        ↑(a.length + (unsafeWord ++ gap).length) = functionWord ++ rest := by
      rw [textFrom_append, textFrom, Int.toNat_natCast, List.drop_left]
    simp only [headerAt, matchAt, behind, Option.isSome_map] at header
    obtain ⟨found, read⟩ := Option.isSome_iff_exists.mp header
    obtain ⟨gap', u, run', rfl⟩ := header?_gap read
    have calm : ∀ {b}, RunOf isBlank b → AllOf isQuiet b := fun run =>
      run.2.imp fun blank => quiet_of_signature (signature_of_blank blank)
    have shape : a ++ ((unsafeWord ++ gap) ++ (functionWord ++ (gap' ++ u))) =
        a ++ ((unsafeWord ++ (gap ++ (functionWord ++ gap'))) ++ u) := by simp
    rw [shape] at clear ⊢
    refine clear.quiet ?_ ?_ (Nat.le_add_right ..) ?_
    · simp only [allOf_append]
      exact ⟨by decide, calm run, by decide, calm run'⟩
    · rw [endsWord_append, endsWord_append, endsWord_append]
      exact endsWord_gap run' _
    · simp only [List.length_append, functionWord, List.length_cons]
      omega
  · exact clear

theorem methodAt?_name (t : Text) (offset : Nat) : (methodAt? t offset).map Method.name =
    (headerAt t offset).map Match.value := by
  simp only [methodAt?, parse, headerAt, matchAt, Reading.of, Option.map_map, Function.comp_def]
  cases header? (textFrom t offset) with
  | none => rfl
  | some found =>
    simp only
    cases tail? (parameters found.2).2 <;> rfl

theorem methodAt?_stub_iff {t : Text} {offset : Nat} {m : Method}
    (h : methodAt? t offset = some m) (d : Declaration) :
    m.stub? = some d ↔ parse t offset = .ok d := by
  unfold methodAt? at h
  split at h
  · rename_i parsed
    cases h
    simp [parsed]
  · rename_i parsed
    cases h
    simp [parsed]
  · cases h

theorem headerAt_nonempty {t name : Text} {offset : Nat}
    (h : (headerAt t offset).map Match.value = some name) : name ≠ [] := by
  simp only [headerAt, matchAt, Option.map_map, Option.map_eq_some_iff] at h
  obtain ⟨⟨name, rest⟩, found, rfl⟩ := h
  obtain ⟨_, ⟨_, _, _, _, _, named, _, _⟩, _⟩ := header?_eq_some.mp found
  exact named.1

/-- An `fn` that belongs to a method: a whole word outside of the regions that begins a header. -/
structure Declares (t : Text) (function : Nat) : Prop where
  clear : Clear t function
  word : WholeWord functionWord t function
  header : (headerAt t function).isSome

/-- An entry of the list: what is read at its offset, which lies outside of the regions. -/
structure Listed (t : Text) (m : Method) : Prop where
  clear : Clear t m.offset
  header : (headerAt t m.offset).map Match.value = some m.name
  named : m.name ≠ []
  stub : ∀ d, m.stub? = some d ↔ parse t m.offset = .ok d

theorem mem_methods {t : Text} {m : Method} :
    m ∈ methods t ↔ m.offset ∈ liveStarts t ∧ methodAt? t m.offset = some m := by
  constructor
  · intro member
    obtain ⟨offset, live, found⟩ := List.mem_filterMap.mp member
    obtain rfl := methodAt?_offset found
    exact ⟨live, found⟩
  · rintro ⟨live, found⟩
    exact List.mem_filterMap.mpr ⟨m.offset, live, found⟩

theorem methods_listed {t : Text} {m : Method} (h : m ∈ methods t) : Listed t m := by
  obtain ⟨live, found⟩ := mem_methods.mp h
  have header : (headerAt t m.offset).map Match.value = some m.name := by
    rw [← methodAt?_name, found]
    rfl
  exact ⟨(mem_liveStarts_iff.mp live).1, header, headerAt_nonempty header,
    methodAt?_stub_iff found⟩

theorem method_unique {t : Text} {m n : Method} (hm : m ∈ methods t) (hn : n ∈ methods t)
    (same : m.offset = n.offset) : m = n := by
  have first := (mem_methods.mp hm).2
  rw [same, (mem_methods.mp hn).2] at first
  exact (Option.some.inj first).symm

theorem Declares.exists_method {t : Text} {function : Nat} (h : Declares t function) :
    ∃ m ∈ methods t, StartsAt t function m.offset := by
  obtain ⟨start, starts, clear⟩ : ∃ start, StartsAt t function start ∧ Clear t start := by
    by_cases some : ∃ q, UnsafeBefore t q function ∧ Clear t q
    · obtain ⟨q, before, clear⟩ := some
      exact ⟨q, .inl ⟨before, clear⟩, clear⟩
    · exact ⟨function, .inr ⟨rfl, fun q before clear => some ⟨q, before, clear⟩⟩, h.clear⟩
  have live := mem_liveStarts_iff.mpr ⟨clear, function, h.word, starts⟩
  have header := h.header
  rw [← starts.header h.word, ← Option.isSome_map, ← methodAt?_name, Option.isSome_map] at header
  obtain ⟨m, found⟩ := Option.isSome_iff_exists.mp header
  obtain rfl := methodAt?_offset found
  exact ⟨m, mem_methods.mpr ⟨live, found⟩, starts⟩

theorem exists_declares {t : Text} {m : Method} (h : m ∈ methods t) :
    ∃ function, Declares t function ∧ StartsAt t function m.offset := by
  obtain ⟨live, found⟩ := mem_methods.mp h
  obtain ⟨clear, function, word, starts⟩ := mem_liveStarts_iff.mp live
  have header : (headerAt t function).isSome := by
    rw [← starts.header word, ← Option.isSome_map, ← methodAt?_name, found]
    rfl
  exact ⟨function, ⟨starts.clear word clear header, word, header⟩, starts⟩

/-- The list of methods is sound and complete. Its entries stand in order, each says what is read at
its offset, and they match the `fn`s that declare methods one to one. -/
theorem methods_exact (t : Text) :
    (methods t).Pairwise (fun m n => m.offset < n.offset) ∧
    (∀ m ∈ methods t, Listed t m) ∧
    (∀ function, Declares t function → ∃! m, m ∈ methods t ∧ StartsAt t function m.offset) ∧
    (∀ m ∈ methods t, ∃! function, Declares t function ∧ StartsAt t function m.offset) := by
  refine ⟨methods_pairwise t, fun m => methods_listed, fun function declares => ?_,
    fun m member => ?_⟩
  · obtain ⟨m, member, starts⟩ := declares.exists_method
    refine ⟨m, ⟨member, starts⟩, fun n ⟨member', starts'⟩ => ?_⟩
    exact method_unique member' member (starts'.start_unique starts declares.word)
  · obtain ⟨function, declares, starts⟩ := exists_declares member
    refine ⟨function, ⟨declares, starts⟩, fun other ⟨declares', starts'⟩ => ?_⟩
    exact starts'.function_unique starts declares'.word declares.word

def hiddenUnsafe : Text := "// unsafe\nfn a(&self) \x7b unimplemented!(\"\"); \x7d".toList

theorem methods_exact_hidden :
    (⟨10, 2, ['a'], some ⟨⟨['a'], []⟩, ⟨24, 43⟩, 10⟩⟩ : Method) ∈ methods hiddenUnsafe ∧
    Declares hiddenUnsafe 10 ∧
    (∃! m, m ∈ methods hiddenUnsafe ∧ StartsAt hiddenUnsafe 10 m.offset) ∧
    (∃! function, Declares hiddenUnsafe function ∧ StartsAt hiddenUnsafe function 10) :=
  have listed : (⟨10, 2, ['a'], some ⟨⟨['a'], []⟩, ⟨24, 43⟩, 10⟩⟩ : Method) ∈
      methods hiddenUnsafe := by decide +kernel
  have declares : Declares hiddenUnsafe 10 :=
    ⟨by unfold Clear; decide +kernel,
      ⟨hiddenUnsafe.take 10, hiddenUnsafe.drop 12, by decide +kernel, by decide +kernel,
        by decide +kernel, startsWord_eq_false.mp (by decide +kernel)⟩,
      by decide +kernel⟩
  ⟨listed, declares, (methods_exact hiddenUnsafe).2.2.1 10 declares,
    (methods_exact hiddenUnsafe).2.2.2 _ listed⟩

end RecorderStubs
