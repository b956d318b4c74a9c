import Mathlib.Data.List.Chain
import RecorderStubs.Proofs.Outline
import RecorderStubs.Recording.Render
import RecorderStubs.Settings.Basic

/-! The call that takes the place of a placeholder. It opens no inert region, no header starts in
it, and it is no placeholder itself, whatever the names in it are. -/
namespace RecorderStubs

def isIdentifierChar (c : Char) : Bool := startsIdentifier c || continuesIdentifier c

theorem solid_of_identifierChar {c : Char} (h : isIdentifierChar c = true) : isBlank c = false :=
  solid_of_class (p := isIdentifierChar)
    (fun c blank => by
      rw [isIdentifierChar, startsIdentifier_of_blank blank, continuesIdentifier_of_blank blank]
      rfl) h

theorem Identifier.run (i : Identifier) : RunOf isIdentifierChar i.text := by
  obtain ⟨t, valid⟩ := i
  cases t with
  | nil => cases valid
  | cons c t =>
    simp only [isIdentifier, Bool.and_eq_true, List.all_eq_true] at valid
    refine ⟨by simp, allOf_cons.mpr ⟨?_, fun d member => ?_⟩⟩
    · rw [isIdentifierChar, valid.1]
      rfl
    · rw [isIdentifierChar, valid.2 d member, Bool.or_true]

/-- What signatures that were read are made of. -/
structure Signature.Valid (s : Signature) : Prop where
  name : RunOf isWord s.name
  parameters : ∀ p ∈ s.parameters, RunOf isWord p.name ∧ TypeText p.type

theorem Signature.Valid.names {s : Signature} (h : s.Valid) :
    ∀ n ∈ s.parameterNames, RunOf isWord n := by
  intro n member
  obtain ⟨p, listed, rfl⟩ := List.mem_map.mp member
  exact (h.parameters p listed).1

theorem ParametersText.valid {ps : List Parameter} {t : Text} (h : ParametersText ps t) :
    ∀ p ∈ ps, RunOf isWord p.name ∧ TypeText p.type := by
  induction h with
  | nil => simp
  | cons first _ ih =>
    obtain ⟨_, _, _, _, _, _, named, typed, _⟩ := first
    exact List.forall_mem_cons.mpr ⟨⟨named, typed⟩, ih⟩

theorem StubText.valid {s : Signature} {before placeholder rest t : Text}
    (h : StubText s before placeholder rest t) : s.Valid := by
  obtain ⟨_, _, _, ⟨_, _, _, _, _, named, _⟩, many, _⟩ := h
  exact ⟨named, many.valid⟩

def isCallChar (c : Char) : Bool :=
  isIdentifierChar c || isWord c || ['!', '(', '.', ',', ' ', ')'].contains c

theorem allOf_intercalate {p : Char → Bool} {sep : Text} {parts : List Text} (hs : AllOf p sep)
    (h : ∀ part ∈ parts, AllOf p part) : AllOf p (sep.intercalate parts) := by
  induction parts with
  | nil => simp [AllOf]
  | cons part parts ih =>
    obtain ⟨first, others⟩ := List.forall_mem_cons.mp h
    cases parts with
    | nil => simpa using first
    | cons next parts =>
      rw [List.intercalate_cons_cons]
      exact allOf_append.mpr ⟨allOf_append.mpr ⟨first, hs⟩, ih others⟩

theorem callText_chars (m : Identifier) {s : Signature} (h : s.Valid) :
    AllOf isCallChar (callText m.text s) := by
  have word : ∀ {c}, isWord c = true → isCallChar c = true := fun word => by
    simp [isCallChar, word]
  simp only [callText, allOf_append]
  exact ⟨⟨⟨⟨⟨⟨⟨m.run.2.imp fun h => by simp [isCallChar, h], by decide⟩, by decide⟩, by decide⟩,
    h.name.2.imp word⟩, by decide⟩,
    allOf_intercalate (by decide) fun n member => (h.names n member).2.imp word⟩, by decide⟩

theorem callText_quiet (m : Identifier) {s : Signature} (h : s.Valid) :
    AllOf isQuiet (callText m.text s) :=
  (callText_chars m h).imp (quiet_of_class (by decide))

theorem callText_ends (m : Text) (s : Signature) (afterWord : Bool) :
    endsWord afterWord (callText m s) = false := by
  rw [callText, endsWord_append, endsWord_cons, endsWord_cons]
  decide

theorem callText_solid (m : Identifier) (s : Signature) (rest : Text) :
    Stops isBlank (callText m.text s ++ rest) := by
  simp only [callText, List.append_assoc]
  exact stops_of_run (fun _ => solid_of_identifierChar) m.run

/-- No blank stands right behind a word. -/
def Unspaced (t : Text) : Prop := t.IsChain (fun d b => isBlank b = true → isWord d = false)

theorem unspaced_of_solid {t : Text} (h : AllOf (fun b => !isBlank b) t) : Unspaced t := by
  refine List.Pairwise.isChain (List.pairwise_of_forall_mem_list fun d _ b member blank => ?_)
  have solid : (!isBlank b) = true := h b member
  rw [blank] at solid
  cases solid

theorem unspaced_append {a b : Text} (ha : Unspaced a) (hb : Unspaced b)
    (seam : endsWord false a = false ∨ Stops isBlank b) : Unspaced (a ++ b) := by
  refine List.isChain_append.mpr ⟨ha, hb, fun d last c first blank => ?_⟩
  rcases seam with ends | solid
  · rw [endsWord, last] at ends
    exact ends
  · rw [solid c first] at blank
    cases blank

theorem unspaced_intercalate {names : List Text} (h : ∀ n ∈ names, RunOf isWord n) :
    Unspaced (separator.intercalate names) := by
  induction names with
  | nil => simp [Unspaced]
  | cons name names ih =>
    obtain ⟨first, others⟩ := List.forall_mem_cons.mp h
    have solid : Unspaced name :=
      unspaced_of_solid (first.2.imp fun word => by rw [solid_of_word word]; rfl)
    cases names with
    | nil => simpa using solid
    | cons next names =>
      rw [List.intercalate_cons_cons]
      have comma : Unspaced separator := by
        refine List.isChain_pair.mpr fun _ => ?_
        decide
      refine unspaced_append (unspaced_append solid comma (.inr ?_)) (ih others) (.inl ?_)
      · exact stops_cons.mpr (by decide)
      · rw [endsWord_append]
        simp only [separator, endsWord_cons]
        decide

theorem callText_unspaced (m : Identifier) {s : Signature} (h : s.Valid) :
    Unspaced (callText m.text s) := by
  unfold callText
  refine unspaced_append (unspaced_append (unspaced_of_solid ?_) (unspaced_intercalate h.names)
    (.inl ?_)) (unspaced_of_solid (by decide)) (.inr (stops_cons.mpr (by decide)))
  · simp only [allOf_append]
    exact ⟨⟨⟨⟨⟨m.run.2.imp fun h => by rw [solid_of_identifierChar h]; rfl, by decide⟩,
      by decide⟩, by decide⟩, h.name.2.imp fun word => by rw [solid_of_word word]; rfl⟩, by decide⟩
  · rw [endsWord_append, endsWord_cons]
    decide

theorem endsWord_words {t : Text} (h : AllOf isWord t) : endsWord true t = true := by
  induction t with
  | nil => rfl
  | cons c t ih =>
    obtain ⟨word, words⟩ := allOf_cons.mp h
    rw [endsWord_cons, word, ih words]

theorem KeyText.spaced {name mark k : Text} (h : KeyText name mark k) :
    ∃ word b u, AllOf isWord word ∧ word ≠ [] ∧ isBlank b = true ∧ k = word ++ b :: u := by
  obtain ⟨marked, _, gap, run, rfl⟩ := h
  rcases marked with rfl | ⟨gap', run', rfl⟩
  · obtain ⟨b, u, rfl, blank⟩ := run.head
    exact ⟨functionWord, b, u ++ name, by decide, by simp [functionWord], blank, rfl⟩
  · obtain ⟨b, u, rfl, blank⟩ := run'.head
    exact ⟨unsafeWord, b, u ++ (functionWord ++ (gap ++ name)), by decide, by simp [unsafeWord],
      blank, by simp⟩

theorem Unspaced.no_key {w z name mark k rest : Text} (h : Unspaced w)
    (ends : endsWord true w = false) (key : KeyText name mark k) : w ++ z ≠ k ++ rest := by
  obtain ⟨word, b, u, words, nonempty, blank, rfl⟩ := key.spaced
  intro same
  rw [List.append_assoc] at same
  have longer : ∀ y, word ≠ w ++ y := fun y cut => by
    rw [cut] at words
    rw [endsWord_words (allOf_append.mp words).1] at ends
    cases ends
  rcases List.append_eq_append_iff.mp same with ⟨y, cut, _⟩ | ⟨y, cut, tail⟩
  · exact longer y cut
  · cases y with
    | nil => exact longer [] (by simpa using cut.symm)
    | cons c y =>
      obtain ⟨rfl, _⟩ := List.cons.inj tail
      obtain ⟨x, d, rfl⟩ := (List.eq_nil_or_concat word).resolve_left nonempty
      rw [cut, List.concat_eq_append, List.append_assoc, List.singleton_append] at h
      have apart := (List.isChain_append_cons_cons.mp h).2.1 blank
      rw [words d (by simp)] at apart
      cases apart

/-- Also a call of the macro `unimplemented` goes on with a name, not with a string. -/
theorem callText_not_placeholder (m : Identifier) (s : Signature) {placeholder : Text}
    (h : PlaceholderText placeholder) (rest z : Text) :
    placeholder ++ rest ≠ callText m.text s ++ z := by
  obtain ⟨x, body, b, c, blank, _, _, _, rfl⟩ := h.outline
  intro same
  have turned : unimplementedCall.take 13 ++ '!' :: '(' :: (x ++ '"' ::
      ((body ++ '"' :: (b ++ ')' :: (c ++ [';']))) ++ rest)) = m.text ++ '!' :: '(' ::
      's' :: (receiverWord.tail ++ ['.'] ++ s.name ++ ['(']
        ++ separator.intercalate s.parameterNames ++ [')', ')'] ++ z) := by
    simpa [callText, unimplementedCall, receiverWord] using same
  obtain ⟨_, tail⟩ := split_first turned (by decide) (m.run.2.not_mem (by decide))
  cases x with
  | nil => cases (List.cons.inj (List.cons.inj tail).2).1
  | cons d x =>
    have letter := blank d (List.mem_cons_self ..)
    rw [(List.cons.inj (List.cons.inj tail).2).1] at letter
    revert letter
    decide

end RecorderStubs
