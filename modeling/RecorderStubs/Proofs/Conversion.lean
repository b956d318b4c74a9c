import RecorderStubs.Proofs.Call
import RecorderStubs.Proofs.Methods

/-! A stub converted: its placeholder gives way to the call. The text before the placeholder, the
placeholder and the call are all read by themselves, so the methods of the text stay what they are
but for the one that was converted. -/
namespace RecorderStubs

theorem keyword?_blank {c : Char} (blank : isBlank c = true) (t : Text) :
    keyword? (c :: t) = none := by
  cases found : keyword? (c :: t) with
  | none => rfl
  | some size =>
    obtain ⟨mark, rest, marked, _, same, _⟩ := keyword?_eq_some.mp found
    rcases marked with rfl | ⟨gap, _, rfl⟩ <;>
      (obtain ⟨rfl, _⟩ := List.cons.inj same; exact absurd blank (by decide))

theorem keywordsFrom_blanks {blanks : Text} (h : AllOf isBlank blanks) (offset : Nat) (v : Text) :
    keywordsFrom offset 0 false (blanks ++ v) =
      keywordsFrom (offset + blanks.length) 0 false v := by
  induction blanks generalizing offset with
  | nil => rfl
  | cons c blanks ih =>
    obtain ⟨blank, blanks'⟩ := allOf_cons.mp h
    have none : (if false then none else keyword? (c :: (blanks ++ v))) = none :=
      keyword?_blank blank _
    rw [List.cons_append, keywordsFrom_none none, isWord_of_blank blank, ih blanks',
      List.length_cons]
    congr 1
    omega

theorem keywords_cut {c : Char} (word : isWord c = false) (solid : isBlank c = false)
    {blanks : Text} (blank : AllOf isBlank blanks) (a v : Text) :
    keywordsFrom 0 0 false ((a ++ c :: blanks) ++ v) =
      keywordsFrom 0 0 false (a ++ c :: blanks) ++
        keywordsFrom (a ++ c :: blanks).length 0 false v := by
  have size : (a ++ c :: blanks).length = 0 + (a.length + 1) + blanks.length := by
    simp only [List.length_append, List.length_cons]
    omega
  have short : keywordsFrom 0 0 false (a ++ c :: blanks) = keywordsFrom 0 0 false (a ++ [c]) := by
    have none := keywordsFrom_blanks blank (0 + (a.length + 1)) []
    rw [List.append_nil] at none
    rw [keywordsFrom_append word solid a blanks 0 0 false (Nat.zero_le _), none]
    exact List.append_nil _
  rw [List.append_assoc, List.cons_append,
    keywordsFrom_append word solid a (blanks ++ v) 0 0 false (Nat.zero_le _),
    keywordsFrom_blanks blank, short, size]

theorem StubText.cut {s : Signature} {a before placeholder rest v u : Text}
    (h : StubText s before placeholder rest v) (clear : Clear (a ++ (before ++ u)) a.length) :
    Cut (a ++ before) := by
  obtain ⟨mark, head, blanks, heads, blank, rfl⟩ := h.outline
  have ends : endsWord true (head ++ '\x7b' :: blanks) = false := by
    have brace : isWord '\x7b' = false := by decide
    rw [endsWord_append, endsWord_cons, brace]
    exact endsWord_blanks blank
  have quiet : AllOf isQuiet (head ++ '\x7b' :: blanks) :=
    allOf_append.mpr ⟨heads.quiet, allOf_cons.mpr ⟨by decide,
      blank.imp fun blank => quiet_of_signature (signature_of_blank blank)⟩⟩
  obtain ⟨k, l, _, _, rfl⟩ := heads
  obtain ⟨spans, _, same⟩ := inertFrom_local (k := k) (h := l ++ '\x7b' :: blanks) (by simp) quiet
    ends (Nat.zero_add _) (Nat.zero_le _) (clear_iff.mp clear)
  have alone : inertSpans (a ++ (k ++ '(' :: '&' :: l ++ '\x7b' :: blanks)) = spans := by
    simpa [inertSpans, inertFrom] using same []
  refine ⟨fun v => ?_, fun v => ?_⟩
  · have := keywords_cut (c := '\x7b') (by decide) (by decide) blank (a ++ (k ++ '(' :: '&' :: l)) v
    simpa only [List.append_assoc] using this
  · rw [alone, inertSpans, List.append_assoc, List.length_append]
    exact same v

theorem callText_cut (m : Identifier) {s : Signature} (h : s.Valid) : Cut (callText m.text s) := by
  have quiet := callText_quiet m h
  have ends := callText_ends m.text s true
  refine ⟨fun v => ?_, fun v => ?_⟩
  · have := keywords_cut (c := ')') (by decide) (by decide) (by simp [AllOf] : AllOf isBlank [])
      (m.text ++ ['!', '('] ++ receiverWord ++ ['.'] ++ s.name ++ ['(']
        ++ separator.intercalate s.parameterNames ++ [')']) v
    simpa [callText] using this
  · have alone := inertFrom_quiet quiet ends 0 false []
    rw [List.append_nil] at alone
    rw [inertSpans, inertSpans, inertFrom_quiet quiet ends, alone, Nat.zero_add]
    rfl

section
variable {x body b c : Text} (blankX : AllOf isBlank x) (valid : StringBody body)
  (blankB : AllOf isBlank b) (blankC : AllOf isBlank c)
include blankX valid blankB blankC

theorem placeholder_regions (v : Text) :
    inertSpans ((unimplementedCall ++ x) ++
        '"' :: (body ++ '"' :: ((b ++ ')' :: (c ++ [';'])) ++ v))) =
      ⟨(unimplementedCall ++ x).length, (unimplementedCall ++ x).length + (body.length + 2)⟩ ::
        inertFrom ((unimplementedCall ++ x).length + (body.length + 2) +
          (b ++ ')' :: (c ++ [';'])).length) 0 false v := by
  have calm : ∀ {t}, AllOf isBlank t → AllOf isQuiet t := fun blank =>
    blank.imp fun blank => quiet_of_signature (signature_of_blank blank)
  have first : AllOf isQuiet (unimplementedCall ++ x) :=
    allOf_append.mpr ⟨by decide, calm blankX⟩
  have last : AllOf isQuiet (b ++ ')' :: (c ++ [';'])) := by
    simp only [allOf_append, allOf_cons]
    exact ⟨calm blankB, by decide, calm blankC, by decide⟩
  have call : endsWord true unimplementedCall = false := by decide
  have firstEnds : endsWord true (unimplementedCall ++ x) = false := by
    rw [endsWord_append, call]
    exact endsWord_blanks blankX
  have lastEnds : endsWord true (b ++ ')' :: (c ++ [';'])) = false := by
    rw [endsWord_append, endsWord_cons, endsWord_concat]
    decide
  rw [inertSpans, inertFrom_quiet first firstEnds, inertFrom_string valid,
    inertFrom_quiet last lastEnds, Nat.zero_add]

omit valid in
theorem placeholder_keywords {k : Nat × Nat} (h : k ∈ keywordsFrom 0 0 false
      ((unimplementedCall ++ x) ++ '"' :: (body ++ '"' :: (b ++ ')' :: (c ++ [';']))))) :
    (unimplementedCall ++ x).length < k.1 ∧ k.1 ≤ k.2 ∧
      k.2 < (unimplementedCall ++ x).length + (body.length + 2) := by
  have free : ∀ {t}, AllOf isBlank t → 'f' ∉ t := fun blank => blank.not_mem (by decide)
  have before : 'f' ∉ (unimplementedCall ++ x) ++ ['"'] := by
    simp [unimplementedCall, free blankX]
  have after : 'f' ∉ b ++ ')' :: (c ++ [';']) := by
    simp [free blankB, free blankC]
  rw [keywordsFrom_append (by decide) (by decide) _ _ 0 0 false (Nat.zero_le _),
    keywordsFrom_free before, List.nil_append,
    keywordsFrom_append (by decide) (by decide) _ _ _ 0 false (Nat.zero_le _),
    keywordsFrom_free after, List.append_nil] at h
  obtain ⟨a, mark, rest, _, _, same, start, function, _⟩ := mem_keywordsFrom h
  have sizes := congrArg List.length same
  simp only [functionWord, List.length_append, List.length_cons, List.length_nil] at sizes start ⊢
  omega

end

theorem PlaceholderText.cut {placeholder : Text} (h : PlaceholderText placeholder) :
    Cut placeholder := by
  obtain ⟨x, body, b, c, blankX, valid, blankB, blankC, rfl⟩ := h.outline
  have regions := placeholder_regions blankX valid blankB blankC
  refine ⟨fun v => ?_, fun v => ?_⟩
  · have := keywords_cut (c := ';') (by decide) (by decide) (by simp [AllOf] : AllOf isBlank [])
      (unimplementedCall ++ x ++ '"' :: (body ++ '"' :: (b ++ ')' :: c))) v
    simpa using this
  · have size : (unimplementedCall ++ x).length + (body.length + 2) +
        (b ++ ')' :: (c ++ [';'])).length = ((unimplementedCall ++ x) ++
          '"' :: (body ++ '"' :: (b ++ ')' :: (c ++ [';'])))).length := by
      simp only [List.length_append, List.length_cons]
      omega
    have alone := regions []
    have here := regions v
    rw [List.append_nil] at alone
    rw [size] at here
    simp only [List.append_assoc, List.cons_append] at alone here ⊢
    rw [here, alone]
    rfl

/-- Whatever stands in the string of a placeholder, no declaration starts there. -/
theorem PlaceholderText.liveStarts {placeholder : Text} (h : PlaceholderText placeholder) :
    liveStarts placeholder = [] := by
  obtain ⟨x, body, b, c, blankX, valid, blankB, blankC, rfl⟩ := h.outline
  have alone := placeholder_regions blankX valid blankB blankC []
  rw [List.append_nil] at alone
  rw [liveStarts_eq]
  refine List.filterMap_eq_nil_iff.mpr fun k member => ?_
  obtain ⟨low, order, high⟩ := placeholder_keywords blankX blankB blankC member
  have inert : ∀ o, k.1 ≤ o → o ≤ k.2 → inertAt (inertSpans ((unimplementedCall ++ x) ++
      '"' :: (body ++ '"' :: (b ++ ')' :: (c ++ [';']))))) o = true := by
    intro o first last
    rw [alone]
    simp only [inertAt, List.any_cons, Span.contains, Bool.or_eq_true, Bool.and_eq_true,
      decide_eq_true_eq]
    omega
  simp only [liveStart?, inert k.1 (Nat.le_refl _) order, inert k.2 order (Nat.le_refl _)]
  rfl

theorem PlaceholderText.methods {placeholder : Text} (h : PlaceholderText placeholder) (z : Text) :
    methods (placeholder ++ z) =
      (methods z).map (Method.placed (placeholder ++ z) placeholder.length) := by
  rw [h.cut.methods, h.liveStarts]
  rfl

theorem methodAt?_call (m : Identifier) {s : Signature} (h : s.Valid) (z : Text) {offset : Nat}
    (inside : offset < (callText m.text s).length) :
    methodAt? (callText m.text s ++ z) offset = none := by
  have unspaced := callText_unspaced m h
  have ends := callText_ends m.text s true
  rw [← List.take_append_drop offset (callText m.text s)] at unspaced ends ⊢
  have size : ((callText m.text s).take offset).length = offset := by
    rw [List.length_take]
    omega
  have nonempty : (callText m.text s).drop offset ≠ [] := by
    rw [Ne, List.drop_eq_nil_iff]
    omega
  generalize (callText m.text s).take offset = g at *
  generalize (callText m.text s).drop offset = w at *
  have wEnds : endsWord true w = false := by
    obtain ⟨c, w, rfl⟩ := List.exists_cons_of_ne_nil nonempty
    rw [endsWord_append, endsWord_cons] at ends
    rw [endsWord_cons, ends]
  have none : methodAt? (w ++ z) 0 = none := by
    refine Heading.eq (.nothing fun name header rest valid _ => ?_)
    obtain ⟨mark, k, l, key, _, rfl⟩ := valid.outline
    rw [List.append_assoc]
    exact Unspaced.no_key (List.isChain_append.mp unspaced).2.1 wEnds key
  have found := methodAt?_append g (w ++ z) 0
  rw [none] at found
  rw [List.append_assoc, ← size]
  exact found

theorem methods_call (m : Identifier) {s : Signature} (h : s.Valid) (z : Text) :
    methods (callText m.text s ++ z) =
      (methods z).map (Method.placed (callText m.text s ++ z) (callText m.text s).length) := by
  have none : (liveStarts (callText m.text s)).filterMap
      (methodAt? (callText m.text s ++ z)) = [] :=
    List.filterMap_eq_nil_iff.mpr fun _ member => methodAt?_call m h z (liveStarts_lt member)
  rw [(callText_cut m h).methods, none]
  rfl

/-- A stub behind `a`: what stands before its placeholder, and the placeholder. -/
structure Site (a before placeholder : Text) (s : Signature) : Prop where
  stub : ∀ rest, StubText s before placeholder rest (before ++ (placeholder ++ rest))
  cut : Cut (a ++ before)
  start : a.length ∈ liveStarts (a ++ before)

theorem start_in_head {a head blanks g y : Text} (blank : AllOf isBlank blanks)
    (split : a ++ (head ++ '\x7b' :: blanks) = g ++ y) (member : 'f' ∈ y) :
    ∃ w, a ++ head = g ++ w ∧ y = w ++ '\x7b' :: blanks := by
  rw [← List.append_assoc] at split
  rcases List.append_eq_append_iff.mp split with ⟨w, _, tail⟩ | ⟨w, first, tail⟩
  · have free : 'f' ∉ '\x7b' :: blanks := by
      simp [blank.not_mem (by decide : isBlank 'f' = false)]
    rw [tail] at free
    exact absurd (List.mem_append_right w member) free
  · exact ⟨w, first, tail⟩

theorem Site.clear {a before placeholder : Text} {s : Signature} (h : Site a before placeholder s)
    {start : Nat} (member : start ∈ liveStarts (a ++ before)) (v : Text) :
    Clear ((a ++ before) ++ v) start := by
  obtain ⟨_, _, _, _, clear⟩ := mem_liveStarts member
  exact h.cut.clear v (liveStarts_lt member) clear

/-- A declaration that starts elsewhere before the placeholder is read alike whatever takes the
placeholder's place. -/
theorem Site.other {a before placeholder : Text} {s : Signature} (h : Site a before placeholder s)
    {start : Nat} (member : start ∈ liveStarts (a ++ before)) (ne : start ≠ a.length)
    (v v' : Text) :
    methodAt? ((a ++ before) ++ v) start = methodAt? ((a ++ before) ++ v') start := by
  obtain ⟨mark, head, blanks, heads, blank, rfl⟩ := (h.stub []).outline
  obtain ⟨g, y, split, rfl, inside⟩ := liveStarts_text member
  obtain ⟨w, first, rfl⟩ := start_in_head blank split inside
  have whole : ∀ u, a ++ (head ++ '\x7b' :: blanks) ++ u = g ++ (w ++ '\x7b' :: (blanks ++ u)) :=
    fun u => by simp [split]
  have within : ∀ u s before placeholder rest,
      StubText s before placeholder rest (w ++ '\x7b' :: (blanks ++ u)) →
      ∃ r, w = before ++ (placeholder ++ r) := by
    intro u s' before' placeholder' rest stub
    have clear := h.clear h.start u
    have live := h.clear member u
    rw [whole] at clear live
    have again : g ++ (w ++ '\x7b' :: (blanks ++ u)) = a ++ (head ++ '\x7b' :: (blanks ++ u)) := by
      simp [← whole u]
    rcases stub.within heads again (by simp [first]) clear live with
      ⟨mark', marked', same⟩ | ⟨r, cut⟩
    · obtain ⟨tail, function⟩ := heads.function
      have keyed : a ++ (head ++ '\x7b' :: blanks) =
          a ++ (mark ++ (functionWord ++ (tail ++ '\x7b' :: blanks))) := by
        simp [function]
      exact absurd (liveStarts_unique h.start member keyed heads.marked marked' same) ne
    · rw [first] at cut
      exact ⟨r, List.append_cancel_left cut⟩
  rw [whole, whole]
  exact methodAt?_congr (methodAt?_before_brace (within v) (within v')) g

theorem Site.later {a before placeholder : Text} {s : Signature} (h : Site a before placeholder s)
    {start : Nat} (member : start ∈ liveStarts (a ++ before)) (after : a.length < start)
    (v : Text) : methodAt? ((a ++ before) ++ v) start = none := by
  obtain ⟨mark, head, blanks, heads, blank, rfl⟩ := (h.stub []).outline
  obtain ⟨g, y, split, rfl, inside⟩ := liveStarts_text member
  obtain ⟨w, first, rfl⟩ := start_in_head blank split inside
  have none : methodAt? (w ++ '\x7b' :: (blanks ++ v)) 0 = none := by
    refine Heading.eq (.nothing fun name header rest valid stop same => ?_)
    obtain ⟨d, rfl, _⟩ := valid.before_brace stop same
    obtain ⟨mark', k', l', key', _, rfl⟩ := valid.outline
    obtain ⟨tail, function⟩ := heads.function
    have keyed : a ++ (head ++ '\x7b' :: blanks) =
        a ++ (mark ++ (functionWord ++ (tail ++ '\x7b' :: blanks))) := by
      simp [function]
    obtain ⟨k, l, key, inside, rfl⟩ := heads
    -- Behind the start there is one parenthesis, so the two headers share it.
    obtain ⟨g', rfl⟩ : a <+: g :=
      List.prefix_of_prefix_length_le ⟨_, first⟩ ⟨_, rfl⟩ (Nat.le_of_lt after)
    have one : k ++ '(' :: ('&' :: l) = (g' ++ k') ++ '(' :: ('&' :: l' ++ d) := by
      simpa using first
    obtain ⟨shared, _⟩ := split_only one (key.signature.not_mem (by decide))
      (by simp [inside.not_mem (by decide : isSignatureChar '(' = false)])
    have same : (a ++ g') ++ k' = a ++ k := by rw [shared, List.append_assoc]
    have equal := liveStarts_unique h.start member keyed key.1 key'.1 (key'.unique key same)
    omega
  have found := methodAt?_append g (w ++ '\x7b' :: (blanks ++ v)) 0
  rw [none] at found
  simpa [split] using found

theorem Site.stubAt {a before placeholder : Text} {s : Signature}
    (h : Site a before placeholder s) (z : Text) :
    methodAt? ((a ++ before) ++ (placeholder ++ z)) a.length =
      some ⟨a.length, a.count '\n' + 1, s.name, some ⟨s, ⟨(a ++ before).length,
        (a ++ before).length + placeholder.length⟩, a.length⟩⟩ := by
  have found := methodAt?_append a (before ++ (placeholder ++ z)) 0
  rw [methodAt?_stub (h.stub z), Nat.add_zero] at found
  rw [List.append_assoc, found]
  simp [Method.placed, lineOf_append, -Int.natCast_add, Declaration.shift, Span.shift,
    Nat.add_assoc]

theorem StubText.placed {s : Signature} {before placeholder rest t : Text}
    (h : StubText s before placeholder rest t) : PlaceholderText placeholder := by
  obtain ⟨_, _, _, _, _, _, placed, _⟩ := h
  exact placed

/-- What stands before a placeholder determines where the placeholder is. -/
theorem StubText.same_body {s s' : Signature}
    {before before' placeholder placeholder' rest rest' u t t' : Text}
    (h : StubText s before placeholder rest t) (h' : StubText s' before' placeholder' rest' t')
    (solid : Stops isBlank u) (same : before ++ u = before' ++ (placeholder' ++ rest')) :
    u = placeholder' ++ rest' := by
  obtain ⟨_, head, blanks, heads, blank, rfl⟩ := h.outline
  obtain ⟨_, head', blanks', heads', blank', rfl⟩ := h'.outline
  have free : ∀ {name mark head}, HeadText name mark head → '\x7b' ∉ head :=
    fun heads => heads.not_mem (by decide) (by decide)
  rw [List.append_assoc, List.append_assoc, List.cons_append, List.cons_append] at same
  obtain ⟨_, tail⟩ := split_first same (free heads) (free heads')
  exact (run_unique blank blank' solid (h'.placed.solid rest') tail).2

theorem Site.methodAt {a before placeholder : Text} {s : Signature}
    (h : Site a before placeholder s) (m : Identifier) (z : Text) :
    methodAt? ((a ++ before) ++ (callText m.text s ++ z)) a.length =
      some ⟨a.length, a.count '\n' + 1, s.name, none⟩ := by
  have read : methodAt? (before ++ (callText m.text s ++ z)) 0 = some ⟨0, 1, s.name, none⟩ := by
    obtain ⟨header, parameters, opening, valid, many, opens, _, split, _⟩ := h.stub z
    refine Heading.eq (.method ?_ valid ?_
      (stops_word_parameters many opens (callText m.text s ++ z)))
    · intro s' before' placeholder' final stub
      have body := (h.stub z).same_body stub (callText_solid m s z) stub.split
      exact callText_not_placeholder m s stub.placed final z body.symm
    · simp [split]
  have found := methodAt?_append a (before ++ (callText m.text s ++ z)) 0
  rw [read, Nat.add_zero] at found
  rw [List.append_assoc, found]
  simp [Method.placed, lineOf_append, -Int.natCast_add]

theorem Site.earlier {a before placeholder : Text} {s : Signature}
    (h : Site a before placeholder s) : ∃ earlier, (∀ e ∈ earlier, e.offset < a.length) ∧
      ∀ v, (liveStarts (a ++ before)).filterMap (methodAt? ((a ++ before) ++ v)) =
        earlier ++ (methodAt? ((a ++ before) ++ v) a.length).toList := by
  obtain ⟨first, last, split⟩ := List.append_of_mem h.start
  have order := liveStarts_pairwise (a ++ before)
  rw [split, List.pairwise_append, List.pairwise_cons] at order
  have member : ∀ {q}, q ∈ first ∨ q ∈ last → q ∈ liveStarts (a ++ before) := fun which => by
    rw [split]
    rcases which with one | one <;> simp [one]
  have below : ∀ q ∈ first, q < a.length := fun q one =>
    order.2.2 q one a.length (List.mem_cons_self ..)
  refine ⟨first.filterMap (methodAt? ((a ++ before) ++ [])), fun e listed => ?_, fun v => ?_⟩
  · obtain ⟨q, one, found⟩ := List.mem_filterMap.mp listed
    rw [methodAt?_offset found]
    exact below q one
  · have none : last.filterMap (methodAt? ((a ++ before) ++ v)) = [] :=
      List.filterMap_eq_nil_iff.mpr fun q one => h.later (member (.inr one)) (order.2.1.1 q one) v
    have same : first.filterMap (methodAt? ((a ++ before) ++ v)) =
        first.filterMap (methodAt? ((a ++ before) ++ [])) :=
      List.filterMap_congr fun q one =>
        h.other (member (.inl one)) (Nat.ne_of_lt (below q one)) v []
    rw [split, List.filterMap_append, List.filterMap_cons, none, same]
    cases methodAt? ((a ++ before) ++ v) a.length <;> rfl

/-- The methods of a text with a stub, and of the text in which the stub is converted. -/
theorem Site.methods {a before placeholder : Text} {s : Signature}
    (h : Site a before placeholder s) (name : Identifier) (z : Text) :
    ∃ earlier, (∀ e ∈ earlier, e.offset < a.length) ∧
      methods ((a ++ before) ++ (placeholder ++ z)) =
        earlier ++ ⟨a.length, a.count '\n' + 1, s.name, some ⟨s, ⟨(a ++ before).length,
          (a ++ before).length + placeholder.length⟩, a.length⟩⟩ ::
        (methods z).map (Method.placed ((a ++ before) ++ (placeholder ++ z))
          ((a ++ before).length + placeholder.length)) ∧
      methods ((a ++ before) ++ (callText name.text s ++ z)) =
        earlier ++ ⟨a.length, a.count '\n' + 1, s.name, none⟩ ::
        (methods z).map (Method.placed ((a ++ before) ++ (callText name.text s ++ z))
          ((a ++ before).length + (callText name.text s).length)) := by
  obtain ⟨earlier, below, split⟩ := h.earlier
  refine ⟨earlier, below, ?_, ?_⟩
  · rw [h.cut.methods, split, h.stubAt, (h.stub []).placed.methods]
    simp [Function.comp_def, Method.placed_placed]
  · rw [h.cut.methods, split, h.methodAt, methods_call name (h.stub []).valid]
    simp [Function.comp_def, Method.placed_placed]

theorem exists_site {t : Text} {m : Method} {d : Declaration} (listed : m ∈ methods t)
    (stub : m.stub? = some d) : ∃ a before placeholder z, Site a before placeholder d.signature ∧
      t = (a ++ before) ++ (placeholder ++ z) ∧
      d = ⟨d.signature, ⟨(a ++ before).length, (a ++ before).length + placeholder.length⟩,
        a.length⟩ ∧ m = ⟨a.length, a.count '\n' + 1, d.signature.name, some d⟩ := by
  obtain ⟨start, member, found⟩ := List.mem_filterMap.mp listed
  obtain ⟨a, y, rfl, rfl, _⟩ := liveStarts_text member
  obtain ⟨_, _, _, _, clear⟩ := mem_liveStarts member
  have read := methodAt?_append a y 0
  rw [Nat.add_zero, found] at read
  have said := heading y
  generalize methodAt? y 0 = n at read said
  cases said with
  | @stub s before placeholder z valid =>
    obtain rfl := valid.split
    have cut : Cut (a ++ before) := valid.cut clear
    have start : a.length ∈ liveStarts (a ++ before) := by
      rw [← List.append_assoc, cut.liveStarts] at member
      refine (List.mem_append.mp member).resolve_right fun beyond => ?_
      obtain ⟨offset, _, same⟩ := List.mem_map.mp beyond
      obtain ⟨_, head, blanks, _, _, rfl⟩ := valid.outline
      simp at same
      omega
    simp [Method.placed, lineOf_append, -Int.natCast_add] at read
    subst read
    cases stub
    refine ⟨a, before, placeholder, z, ⟨valid.retail, cut, start⟩, by simp, ?_, rfl⟩
    simp [Declaration.shift, Span.shift, Nat.add_assoc]
  | method none valid split stop =>
    cases read
    cases stub
  | nothing none => cases read

/-- Where an offset behind a span stands once the span holds `size` characters. -/
def Span.moved (s : Span) (size offset : Nat) : Nat := offset + size - s.length

def Method.moved (t : Text) (s : Span) (size : Nat) (m : Method) : Method where
  offset := s.moved size m.offset
  line := lineOf t (s.moved size m.offset)
  name := m.name
  stub? := m.stub?.map fun d =>
    ⟨d.signature, ⟨s.moved size d.placeholder.start, s.moved size d.placeholder.stop⟩,
      d.start + size - s.length⟩

theorem Method.moved_placed (t t' : Text) (m : Method) (start length size : Nat) :
    (Method.placed t (start + length) m).moved t' ⟨start, start + length⟩ size =
      Method.placed t' (start + size) m := by
  have shift : ∀ offset, Span.moved ⟨start, start + length⟩ size (start + length + offset) =
      start + size + offset := fun offset => by
    simp only [Span.moved, Span.length]
    omega
  cases found : m.stub? with
  | none => simp [Method.moved, Method.placed, shift, found]
  | some d =>
    simp [Method.moved, Method.placed, shift, found, Declaration.shift, Span.shift, Span.length]
    omega

theorem replaceRegion_middle (x old new z : Text) :
    replaceRegion (x ++ (old ++ z)) x.length ↑(x.length + old.length) new =
      .ok (x ++ (new ++ z)) := by
  have inside : (0 : Int) ≤ x.length ∧ (x.length : Int) ≤ ↑(x.length + old.length) ∧
      ↑(x.length + old.length) ≤ ((x ++ (old ++ z)).length : Int) := by
    simp only [List.length_append]
    omega
  rw [replaceRegion, if_pos inside, Int.toNat_natCast, Int.toNat_natCast, List.take_left,
    ← List.append_assoc x old, ← List.length_append, List.drop_left, List.append_assoc]

/-- Converting one stub flips exactly its own entry in the list of methods: the entries before it
stay, and those behind it move with the text. -/
theorem conversion_flips_one {t : Text} {m : Method} {d : Declaration} (name : Identifier)
    (listed : m ∈ methods t) (stub : m.stub? = some d) :
    ∃ t' before after,
      replaceRegion t d.placeholder.start d.placeholder.stop (callText name.text d.signature) =
        .ok t' ∧
      methods t = before ++ m :: after ∧
      methods t' = before ++ { m with stub? := none } ::
        after.map (Method.moved t' d.placeholder (callText name.text d.signature).length) ∧
      (∀ e ∈ before, e.offset < m.offset) ∧ (∀ e ∈ after, d.placeholder.stop ≤ e.offset) := by
  obtain ⟨a, x, placeholder, z, site, rfl, shape, rfl⟩ := exists_site listed stub
  obtain ⟨earlier, below, old, new⟩ := site.methods name z
  have span : d.placeholder = ⟨(a ++ x).length, (a ++ x).length + placeholder.length⟩ := by
    rw [shape]
  refine ⟨(a ++ x) ++ (callText name.text d.signature ++ z), earlier,
    (methods z).map (Method.placed ((a ++ x) ++ (placeholder ++ z))
      ((a ++ x).length + placeholder.length)), ?_, ?_, ?_, below, ?_⟩
  · rw [span]
    exact replaceRegion_middle ..
  · rw [old, ← shape]
  · rw [new, span]
    simp only [List.map_map, Function.comp_def, Method.moved_placed]
  · intro e later
    obtain ⟨n, _, rfl⟩ := List.mem_map.mp later
    rw [span]
    exact Nat.le_add_right ..

def twoStubs : Text :=
  ("unsafe fn a(&self) \x7b unimplemented!(\"fn b(&self) \"); \x7d\n" ++
    "fn c(&mut self, fn: u8) \x7b unimplemented!(\"\"); \x7d").toList

def firstOfTwo : Declaration := ⟨⟨['a'], []⟩, ⟨21, 52⟩, 0⟩

theorem conversion_flips_one_quoted :
    (⟨0, 1, ['a'], some firstOfTwo⟩ : Method) ∈ methods twoStubs ∧
    ∃ t' before after,
      replaceRegion twoStubs 21 52 (callText ['r'] firstOfTwo.signature) = .ok t' ∧
      methods twoStubs = before ++ ⟨0, 1, ['a'], some firstOfTwo⟩ :: after ∧
      methods t' = before ++ ⟨0, 1, ['a'], none⟩ :: after.map (Method.moved t' ⟨21, 52⟩ 12) ∧
      (∀ e ∈ before, e.offset < 0) ∧ (∀ e ∈ after, 52 ≤ e.offset) :=
  have listed : (⟨0, 1, ['a'], some firstOfTwo⟩ : Method) ∈ methods twoStubs := by decide +kernel
  ⟨listed, conversion_flips_one ⟨['r'], by decide⟩ listed rfl⟩

end RecorderStubs
