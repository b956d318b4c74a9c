import RecorderStubs.Proofs.Cover
import RecorderStubs.Proofs.Parse
import RecorderStubs.Proofs.Keywords

/-! The outline of a stub: a keyword and a name up to the one parenthesis that opens its
parameters, then nothing but parameters and a result up to its one brace. Two headers before the
same brace are therefore the same header, and a stub that starts before another one's brace also
ends before it. -/
namespace RecorderStubs

/-- What a stub holds before its brace, besides the parenthesis of its parameters. -/
def isSignatureChar (c : Char) : Bool :=
  isBlank c || isTypeChar c || [',', ':', ')', '-'].contains c

theorem signature_of_blank {c : Char} (h : isBlank c = true) : isSignatureChar c = true := by
  simp [isSignatureChar, h]

theorem signature_of_typeChar {c : Char} (h : isTypeChar c = true) : isSignatureChar c = true := by
  simp [isSignatureChar, h]

theorem signature_of_word {c : Char} (h : isWord c = true) : isSignatureChar c = true :=
  signature_of_typeChar (by simp [isTypeChar, h])

theorem AllOf.imp {p q : Char → Bool} {t : Text} (h : AllOf p t)
    (le : ∀ {c}, p c = true → q c = true) : AllOf q t :=
  fun c member => le (h c member)

theorem AllOf.not_mem {p : Char → Bool} {t : Text} (h : AllOf p t) {c : Char}
    (other : p c = false) : c ∉ t := by
  intro member
  rw [h c member] at other
  cases other

theorem quiet_of_signature {c : Char} (h : isSignatureChar c = true) : isQuiet c = true :=
  quiet_of_class (by decide) h

theorem Optionally.signature {word mark : Text} (letters : AllOf isWord word)
    (h : Optionally word mark) : AllOf isSignatureChar mark := by
  rcases h with rfl | ⟨gap, run, rfl⟩
  · exact fun _ member => absurd member List.not_mem_nil
  · exact allOf_append.mpr ⟨letters.imp signature_of_word, run.2.imp signature_of_blank⟩

theorem TypeText.signature {t : Text} (h : TypeText t) : AllOf isSignatureChar t := by
  cases h with
  | run run => exact run.2.imp signature_of_typeChar
  | mutable gap run =>
    exact allOf_append.mpr ⟨allOf_append.mpr ⟨by decide, gap.2.imp signature_of_blank⟩,
      run.2.imp signature_of_typeChar⟩

theorem ParametersText.signature {ps : List Parameter} {t : Text} (h : ParametersText ps t) :
    AllOf isSignatureChar t := by
  induction h with
  | nil => exact fun _ member => absurd member List.not_mem_nil
  | cons first _ ih =>
    obtain ⟨before, inside, after, blank₁, blank₂, blank₃, named, typed, rfl⟩ := first
    simp only [allOf_append]
    exact ⟨⟨⟨⟨⟨⟨⟨by decide, blank₁.imp signature_of_blank⟩, named.2.imp signature_of_word⟩,
      by decide⟩, blank₂.imp signature_of_blank⟩, typed.signature⟩,
      blank₃.imp signature_of_blank⟩, ih⟩

theorem ResultText.signature {t : Text} (h : ResultText t) : AllOf isSignatureChar t := by
  rcases h with rfl | ⟨before, type, after, blank₁, typed, blank₂, rfl⟩
  · exact fun _ member => absurd member List.not_mem_nil
  · simp only [allOf_append]
    exact ⟨⟨⟨by decide, blank₁.imp signature_of_blank⟩, typed.signature⟩,
      blank₂.imp signature_of_blank⟩

theorem OpeningText.outline {opening : Text} (h : OpeningText opening) :
    ∃ l blanks, AllOf isSignatureChar l ∧ AllOf isBlank blanks ∧
      opening = l ++ '\x7b' :: blanks := by
  obtain ⟨comma, a, b, result, c, first, blankA, blankB, typed, blankC, rfl⟩ := h
  have comma' : AllOf isSignatureChar comma := by
    rcases first with rfl | rfl <;> decide
  refine ⟨comma ++ a ++ [')'] ++ b ++ result, c, ?_, blankC, by simp⟩
  simp only [allOf_append]
  exact ⟨⟨⟨⟨comma', blankA.imp signature_of_blank⟩, by decide⟩,
    blankB.imp signature_of_blank⟩, typed.signature⟩

/-- A header up to its parenthesis; `mark` is what stands before its `fn`. -/
def KeyText (name mark k : Text) : Prop :=
  Optionally unsafeWord mark ∧ RunOf isWord name ∧
    ∃ gap, RunOf isBlank gap ∧ k = mark ++ (functionWord ++ (gap ++ name))

theorem KeyText.signature {name mark k : Text} (h : KeyText name mark k) :
    AllOf isSignatureChar k := by
  obtain ⟨marked, named, gap, run, rfl⟩ := h
  simp only [allOf_append]
  exact ⟨marked.signature (by decide), by decide, run.2.imp signature_of_blank,
    named.2.imp signature_of_word⟩

theorem HeaderText.outline {name h : Text} (valid : HeaderText name h) :
    ∃ mark k l, KeyText name mark k ∧ AllOf isSignatureChar l ∧ h = k ++ '(' :: '&' :: l := by
  obtain ⟨mark, gap, mutable, marked, run, named, mutably, rfl⟩ := valid
  refine ⟨mark, _, mutable ++ receiverWord, ⟨marked, named, gap, run, rfl⟩, ?_, by simp⟩
  exact allOf_append.mpr ⟨mutably.signature (by decide), by decide⟩

def HeadText (name mark head : Text) : Prop :=
  ∃ k l, KeyText name mark k ∧ AllOf isSignatureChar l ∧ head = k ++ '(' :: '&' :: l

theorem HeadText.marked {name mark head : Text} (h : HeadText name mark head) :
    Optionally unsafeWord mark := by
  obtain ⟨k, l, key, _⟩ := h
  exact key.1

theorem HeadText.function {name mark head : Text} (h : HeadText name mark head) :
    ∃ w, head = mark ++ (functionWord ++ w) := by
  obtain ⟨k, l, ⟨_, _, gap, _, rfl⟩, _, rfl⟩ := h
  exact ⟨gap ++ name ++ '(' :: '&' :: l, by simp⟩

theorem HeadText.not_mem {name mark head : Text} (h : HeadText name mark head) {c : Char}
    (other : isSignatureChar c = false) (paren : c ≠ '(') : c ∉ head := by
  obtain ⟨k, l, key, inside, rfl⟩ := h
  have ampersand : c ≠ '&' := fun same => by
    rw [same] at other
    revert other
    decide
  simp [key.signature.not_mem other, inside.not_mem other, paren, ampersand]

theorem HeadText.quiet {name mark head : Text} (h : HeadText name mark head) :
    AllOf isQuiet head := by
  obtain ⟨k, l, key, inside, rfl⟩ := h
  simp only [allOf_append, allOf_cons]
  exact ⟨key.signature.imp quiet_of_signature, by decide, by decide,
    inside.imp quiet_of_signature⟩

theorem StubText.outline {s : Signature} {before placeholder rest t : Text}
    (h : StubText s before placeholder rest t) :
    ∃ mark head blanks, HeadText s.name mark head ∧ AllOf isBlank blanks ∧
      before = head ++ '\x7b' :: blanks := by
  obtain ⟨header, parameters, opening, valid, many, opens, _, rfl, _⟩ := h
  obtain ⟨mark, k, l, key, inside, rfl⟩ := valid.outline
  obtain ⟨l', blanks, inside', blank, rfl⟩ := opens.outline
  refine ⟨mark, _, blanks, ⟨k, l ++ parameters ++ l', key, ?_, rfl⟩, blank, by simp⟩
  exact allOf_append.mpr ⟨allOf_append.mpr ⟨inside, many.signature⟩, inside'⟩

theorem PlaceholderText.outline {placeholder : Text} (h : PlaceholderText placeholder) :
    ∃ a body b c, AllOf isBlank a ∧ StringBody body ∧ AllOf isBlank b ∧ AllOf isBlank c ∧
      placeholder = (unimplementedCall ++ a) ++
        '"' :: (body ++ '"' :: (b ++ ')' :: (c ++ [';']))) := by
  obtain ⟨a, _, b, c, blankA, ⟨body, valid, rfl⟩, blankB, blankC, rfl⟩ := h
  exact ⟨a, body, b, c, blankA, valid, blankB, blankC, by simp⟩

theorem split_last {a b s t : Text} {c : Char} (h : a ++ c :: s = b ++ c :: t) (hs : c ∉ s)
    (ht : c ∉ t) : a = b ∧ s = t := by
  rcases List.append_eq_append_iff.mp h with ⟨d, rfl, same⟩ | ⟨d, rfl, same⟩ <;>
    cases d with
    | nil => simp_all
    | cons e d =>
      obtain ⟨-, rfl⟩ := List.cons.inj same
      simp at hs ht

theorem split_first {a b s t : Text} {c : Char} (h : a ++ c :: s = b ++ c :: t) (ha : c ∉ a)
    (hb : c ∉ b) : a = b ∧ s = t := by
  obtain ⟨d, rfl, same⟩ := prefix_before h ha
  cases d with
  | nil => simp_all
  | cons e d =>
    obtain ⟨rfl, _⟩ := List.cons.inj same
    simp at hb

theorem split_only {a b s t : Text} {c : Char} (h : a ++ c :: s = b ++ c :: t) (ha : c ∉ a)
    (hs : c ∉ s) : a = b ∧ s = t := by
  obtain ⟨d, rfl, same⟩ := prefix_before h ha
  cases d with
  | nil => simp_all
  | cons e d =>
    obtain ⟨-, rfl⟩ := List.cons.inj same
    simp at hs

theorem RunOf.reverse {p : Char → Bool} {t : Text} (h : RunOf p t) : RunOf p t.reverse :=
  ⟨by simpa using h.1, fun c member => h.2 c (List.mem_reverse.mp member)⟩

/-- Read from the parenthesis backwards, there is one name, one gap and one `fn`. -/
theorem KeyText.unique {name name' mark mark' k k' g g' : Text} (h : KeyText name mark k)
    (h' : KeyText name' mark' k') (same : g ++ k = g' ++ k') : g ++ mark = g' ++ mark' := by
  obtain ⟨_, named, gap, run, rfl⟩ := h
  obtain ⟨_, named', gap', run', rfl⟩ := h'
  have shape : ∀ g mark gap name : Text, (g ++ (mark ++ (functionWord ++ (gap ++ name)))).reverse =
      name.reverse ++ (gap.reverse ++ 'n' :: 'f' :: (g ++ mark).reverse) := by
    simp [functionWord]
  have turned := congrArg List.reverse same
  rw [shape, shape] at turned
  have stop : ∀ {gap u}, RunOf isBlank gap → Stops isWord (gap.reverse ++ u) := fun run =>
    stops_of_run (fun _ => isWord_of_blank) run.reverse
  have solid : ∀ u, Stops isBlank ('n' :: u) := fun u => stops_cons.mpr (by decide)
  obtain ⟨-, turned⟩ :=
    run_unique named.reverse.2 named'.reverse.2 (stop run) (stop run') turned
  obtain ⟨-, turned⟩ := run_unique run.reverse.2 run'.reverse.2 (solid _) (solid _) turned
  exact List.reverse_inj.mp (List.cons.inj (List.cons.inj turned).2).2

theorem HeadText.unique {name name' mark mark' head head' g g' : Text}
    (h : HeadText name mark head) (h' : HeadText name' mark' head')
    (same : g ++ head = g' ++ head') : g ++ mark = g' ++ mark' := by
  obtain ⟨k, l, key, inside, rfl⟩ := h
  obtain ⟨k', l', key', inside', rfl⟩ := h'
  have free : ∀ {l}, AllOf isSignatureChar l → '(' ∉ '&' :: l := fun inside => by
    simp [inside.not_mem (by decide : isSignatureChar '(' = false)]
  rw [← List.append_assoc, ← List.append_assoc] at same
  exact key.unique key' (split_last same (free inside) (free inside')).1

/-- An offset outside of every inert region. -/
def Clear (t : Text) (offset : Nat) : Prop := inertAt (inertSpans t) offset = false

theorem clear_iff {t : Text} {offset : Nat} :
    Clear t offset ↔ ∀ s ∈ inertSpans t, s.contains offset = false := by
  simp [Clear, inertAt]

theorem endsWord_append (afterWord : Bool) (a b : Text) :
    endsWord afterWord (a ++ b) = endsWord (endsWord afterWord a) b := by
  induction a generalizing afterWord with
  | nil => rfl
  | cons c a ih => rw [List.cons_append, endsWord_cons, endsWord_cons, ih]

theorem endsWord_blanks {blanks : Text} (h : AllOf isBlank blanks) :
    endsWord false blanks = false := by
  induction blanks with
  | nil => rfl
  | cons c blanks ih =>
    obtain ⟨blank, blanks⟩ := allOf_cons.mp h
    rw [endsWord_cons, isWord_of_blank blank, ih blanks]

def leadText (head blanks x : Text) : Text := head ++ '\x7b' :: (blanks ++ (unimplementedCall ++ x))

theorem lead_quiet {name mark head blanks x : Text} (heads : HeadText name mark head)
    (blank : AllOf isBlank blanks) (blankX : AllOf isBlank x) :
    AllOf isQuiet (leadText head blanks x) := by
  have calm : ∀ {c}, isBlank c = true → isQuiet c = true :=
    fun blank => quiet_of_signature (signature_of_blank blank)
  simp only [leadText, allOf_append, allOf_cons]
  exact ⟨heads.quiet, by decide, blank.imp calm, by decide, blankX.imp calm⟩

theorem lead_ends {head blanks x : Text} (blankX : AllOf isBlank x) :
    endsWord true (leadText head blanks x) = false := by
  have call : ∀ afterWord, endsWord afterWord unimplementedCall = false := by decide
  rw [leadText, endsWord_append, endsWord_cons, endsWord_append, endsWord_append, call]
  exact endsWord_blanks blankX

theorem string_mem_inertSpans {g q body rest : Text}
    (live : Clear (g ++ (q ++ '"' :: (body ++ '"' :: rest))) g.length)
    (quiet : AllOf isQuiet q) (ends : endsWord true q = false) (valid : StringBody body) :
    ⟨(g ++ q).length, (g ++ q).length + (body.length + 2)⟩ ∈
      inertSpans (g ++ (q ++ '"' :: (body ++ '"' :: rest))) := by
  obtain ⟨spans, _, same⟩ := inertFrom_split (Nat.zero_add _) (Nat.zero_le _) (clear_iff.mp live)
  rw [inertSpans, same, inertFrom_quiet quiet ends, inertFrom_string valid, List.length_append]
  simp

theorem prefix_within {g v b u : Text} {c : Char} (h : g ++ v = b ++ c :: u)
    (short : g.length ≤ b.length) : ∃ w, b = g ++ w ∧ v = w ++ c :: u := by
  obtain ⟨w, rfl⟩ := List.prefix_of_prefix_length_le ⟨v, h⟩ ⟨c :: u, rfl⟩ short
  exact ⟨w, rfl, List.append_cancel_left (h.trans (List.append_assoc ..))⟩

/-- A string that starts before a clear offset with a head at it is over before that offset. -/
theorem string_over {name mark head a u g q body rest d : Text} (heads : HeadText name mark head)
    (whole : g ++ (q ++ '"' :: (body ++ '"' :: rest)) = a ++ (head ++ u))
    (clear : Clear (g ++ (q ++ '"' :: (body ++ '"' :: rest))) a.length)
    (live : Clear (g ++ (q ++ '"' :: (body ++ '"' :: rest))) g.length)
    (quiet : AllOf isQuiet q) (ends : endsWord true q = false) (valid : StringBody body)
    (starts : a ++ head = (g ++ q) ++ '"' :: d) :
    ∃ r, a = g ++ (q ++ '"' :: (body ++ '"' :: r)) ∧ rest = r ++ (head ++ u) := by
  have region := clear_iff.mp clear _ (string_mem_inertSpans live quiet ends valid)
  have before : (g ++ q).length ≤ a.length := by
    rcases Nat.le_total (g ++ q).length a.length with before | beyond
    · exact before
    · -- The quote would stand in the head.
      obtain ⟨w, _, rfl⟩ := prefix_within starts beyond
      exact absurd (by simp) (heads.not_mem (c := '"') (by decide) (by decide))
  have stop := stop_le_of_clear region before
  have first : g ++ (q ++ '"' :: (body ++ ['"'])) <+: a :=
    List.prefix_of_prefix_length_le ⟨rest, by simp [← whole]⟩ ⟨head ++ u, rfl⟩
      (by simp at stop ⊢; omega)
  obtain ⟨r, rfl⟩ := first
  refine ⟨r, by simp, ?_⟩
  simpa using whole

/-- A stub that starts before the brace of another one, both outside of the inert regions, either
shares its `fn`, or is over before that brace. -/
theorem StubText.within {s : Signature} {name mark head a u g v before placeholder rest : Text}
    (heads : HeadText name mark head) (stub : StubText s before placeholder rest v)
    (whole : g ++ v = a ++ (head ++ '\x7b' :: u)) (short : g.length ≤ (a ++ head).length)
    (clear : Clear (g ++ v) a.length) (live : Clear (g ++ v) g.length) :
    (∃ mark', Optionally unsafeWord mark' ∧ g ++ mark' = a ++ mark) ∨
      ∃ r, a ++ head = g ++ (before ++ (placeholder ++ r)) := by
  have free : ∀ {t}, AllOf isBlank t → '\x7b' ∉ t := fun blank => blank.not_mem (by decide)
  obtain ⟨mark', head', blanks, heads', blank, rfl⟩ := stub.outline
  have placed : PlaceholderText placeholder := by
    obtain ⟨_, _, _, _, _, _, placed, _⟩ := stub
    exact placed
  obtain ⟨x, body, b, c, blankX, valid, blankB, blankC, rfl⟩ := placed.outline
  have shape : v = leadText head' blanks x ++
      '"' :: (body ++ '"' :: (b ++ ')' :: (c ++ ';' :: rest))) := by
    simp [stub.split, leadText]
  obtain ⟨w, cut, split⟩ := prefix_within (whole.trans (List.append_assoc ..).symm) short
  rw [shape, leadText, List.append_assoc] at split
  obtain ⟨d, rfl, same⟩ := prefix_before split (heads'.not_mem (by decide) (by decide))
  -- The brace is the one that opens the stub, or it stands behind that.
  cases d with
  | nil =>
    rw [List.append_nil] at cut
    exact .inl ⟨mark', heads'.marked, heads'.unique heads cut.symm⟩
  | cons e d =>
    right
    obtain ⟨rfl, same⟩ := List.cons.inj same
    have opened : (blanks ++ (unimplementedCall ++ (x ++ ['"']))) ++
        (body ++ '"' :: (b ++ ')' :: (c ++ ';' :: rest))) = d ++ '\x7b' :: u := by
      simpa using same
    obtain ⟨d', rfl, _⟩ := prefix_before opened
      (by simp [free blank, free blankX, unimplementedCall])
    rw [shape] at whole clear live
    obtain ⟨r, rfl, tail⟩ := string_over (d := d') heads whole clear live
      (lead_quiet heads' blank blankX) (lead_ends blankX) valid (cut.trans (by simp [leadText]))
    have closed : (b ++ ')' :: (c ++ [';'])) ++ rest = (r ++ head) ++ '\x7b' :: u := by
      simpa using tail
    obtain ⟨r', cut', _⟩ := prefix_before closed (by simp [free blankB, free blankC])
    exact ⟨r', by simp [cut', leadText]⟩

end RecorderStubs
