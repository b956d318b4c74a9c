import RecorderStubs.Proofs.Conversion

/-! All stubs of a text, and their conversion at once. Converting the first stub leaves the others,
moved, and its call brings no new one; so converting first stubs for as long as there are any
replaces every placeholder. -/
namespace RecorderStubs

/-- Replaces spans, given in order, in the part of a text from `offset` on. -/
def substituteFrom (offset : Nat) : List (Span × Text) → Text → Text
  | [], t => t
  | (span, new) :: edits, t =>
    t.take (span.start - offset) ++ new ++
      substituteFrom span.stop edits (t.drop (span.stop - offset))

def substitute (edits : List (Span × Text)) (t : Text) : Text := substituteFrom 0 edits t

/-- The spans lie in a text of the given length, each behind the one before. -/
def Apart (length : Nat) (edits : List (Span × Text)) : Prop :=
  (∀ e ∈ edits, e.1.start ≤ e.1.stop ∧ e.1.stop ≤ length) ∧
    edits.Pairwise (fun e f => e.1.stop ≤ f.1.start)

def shiftEdit (d : Nat) (e : Span × Text) : Span × Text := (e.1.shift d, e.2)

theorem shiftEdit_shiftEdit (d e : Nat) (edits : List (Span × Text)) :
    (edits.map (shiftEdit e)).map (shiftEdit d) = edits.map (shiftEdit (d + e)) := by
  simp [shiftEdit, Span.shift, Nat.add_assoc]

theorem substituteFrom_shift (d offset : Nat) (edits : List (Span × Text)) (t : Text) :
    substituteFrom (d + offset) (edits.map (shiftEdit d)) t = substituteFrom offset edits t := by
  induction edits generalizing offset t with
  | nil => rfl
  | cons e edits ih =>
    simp only [List.map_cons, shiftEdit, Span.shift, substituteFrom, Nat.add_sub_add_left]
    rw [← ih]

theorem substitute_append (x z : Text) (edits : List (Span × Text)) :
    substitute (edits.map (shiftEdit x.length)) (x ++ z) = x ++ substitute edits z := by
  cases edits with
  | nil => rfl
  | cons e edits =>
    have rest := substituteFrom_shift x.length e.1.stop edits (z.drop e.1.stop)
    simp only [substitute, List.map_cons, substituteFrom, shiftEdit, Span.shift, Nat.sub_zero,
      List.take_length_add_append, List.drop_length_add_append, List.append_assoc]
    rw [← rest]

theorem substituteFrom_append {edits : List (Span × Text)} {offset : Nat} {x : Text}
    (inside : ∀ e ∈ edits, offset ≤ e.1.start ∧ e.1.start ≤ e.1.stop ∧
      e.1.stop ≤ offset + x.length)
    (order : edits.Pairwise (fun e f => e.1.stop ≤ f.1.start)) (z : Text)
    (more : List (Span × Text)) :
    substituteFrom offset (edits ++ more.map (shiftEdit (offset + x.length))) (x ++ z) =
      substituteFrom offset edits x ++ substitute more z := by
  induction edits generalizing offset x with
  | nil =>
    have moved := substituteFrom_shift offset 0 (more.map (shiftEdit x.length)) (x ++ z)
    rw [shiftEdit_shiftEdit, Nat.add_zero] at moved
    rw [List.nil_append, moved]
    exact substitute_append x z more
  | cons e edits ih =>
    obtain ⟨low, proper, high⟩ := inside e (List.mem_cons_self ..)
    obtain ⟨behind, order'⟩ := List.pairwise_cons.mp order
    have left : (x ++ z).drop (e.1.stop - offset) = x.drop (e.1.stop - offset) ++ z :=
      List.drop_append_of_le_length (by omega)
    have size : offset + x.length = e.1.stop + (x.drop (e.1.stop - offset)).length := by
      rw [List.length_drop]
      omega
    simp only [List.cons_append, substituteFrom, left]
    rw [List.take_append_of_le_length (by omega), size, ih ?_ order']
    · simp only [List.append_assoc]
    · intro f member
      have := inside f (List.mem_cons_of_mem _ member)
      have := behind f member
      omega

theorem substitute_split {edits : List (Span × Text)} {x : Text} (apart : Apart x.length edits)
    (z : Text) (more : List (Span × Text)) :
    substitute (edits ++ more.map (shiftEdit x.length)) (x ++ z) =
      substitute edits x ++ substitute more z := by
  have inside : ∀ e ∈ edits, 0 ≤ e.1.start ∧ e.1.start ≤ e.1.stop ∧ e.1.stop ≤ 0 + x.length :=
    fun e member => by
      have := apart.1 e member
      omega
  have split := substituteFrom_append inside apart.2 z more
  rwa [Nat.zero_add] at split

theorem substitute_cons (x old new z : Text) (edits : List (Span × Text)) :
    substitute ((⟨x.length, x.length + old.length⟩, new) ::
      edits.map (shiftEdit (x.length + old.length))) (x ++ (old ++ z)) =
        x ++ (new ++ substitute edits z) := by
  have rest := substituteFrom_shift (x.length + old.length) 0 edits z
  simp only [substitute, substituteFrom, Nat.sub_zero, List.take_left,
    List.drop_length_add_append, List.drop_left, List.append_assoc]
  rw [Nat.add_zero] at rest
  rw [rest]

theorem Apart.cons {x old z : Text} {edits : List (Span × Text)} (h : Apart z.length edits)
    (new : Text) :
    Apart (x ++ (old ++ z)).length ((⟨x.length, x.length + old.length⟩, new) ::
      edits.map (shiftEdit (x.length + old.length))) := by
  obtain ⟨inside, order⟩ := h
  simp only [List.length_append]
  refine ⟨fun e listed => ?_, List.pairwise_cons.mpr ⟨fun e listed => ?_, ?_⟩⟩
  · rcases List.mem_cons.mp listed with rfl | moved
    · exact ⟨Nat.le_add_right .., by simp only; omega⟩
    · obtain ⟨f, member, rfl⟩ := List.mem_map.mp moved
      obtain ⟨low, high⟩ := inside f member
      simp only [shiftEdit, Span.shift]
      omega
  · obtain ⟨f, _, rfl⟩ := List.mem_map.mp listed
    exact Nat.le_add_right ..
  · refine List.pairwise_map.mpr (order.imp fun {e f} behind => ?_)
    simp only [shiftEdit, Span.shift]
    omega

def Method.conversion? (name : Identifier) (m : Method) : Option (Span × Text) :=
  m.stub?.map fun d => (d.placeholder, callText name.text d.signature)

/-- What converting methods replaces, and the calls that come in its place. -/
def conversions (name : Identifier) (ms : List Method) : List (Span × Text) :=
  ms.filterMap (Method.conversion? name)

theorem conversions_placed (name : Identifier) (t : Text) (d : Nat) (ms : List Method) :
    conversions name (ms.map (Method.placed t d)) = (conversions name ms).map (shiftEdit d) := by
  unfold conversions
  rw [List.filterMap_map, List.map_filterMap]
  refine List.filterMap_congr fun m _ => ?_
  simp only [Function.comp_apply, Method.conversion?, Method.placed, Option.map_map]
  rfl

def signatures (ms : List Method) : List Signature :=
  ms.filterMap fun m => m.stub?.map Declaration.signature

theorem signatures_placed (t : Text) (d : Nat) (ms : List Method) :
    signatures (ms.map (Method.placed t d)) = signatures ms := by
  unfold signatures
  rw [List.filterMap_map]
  refine List.filterMap_congr fun m _ => ?_
  simp only [Function.comp_apply, Method.placed, Option.map_map]
  rfl

theorem names_placed (t : Text) (d : Nat) (ms : List Method) :
    (ms.map (Method.placed t d)).map (fun m => some m.name) = ms.map (fun m => some m.name) := by
  simp [Function.comp_def, Method.placed]

theorem stubs_placed (t : Text) (d : Nat) (ms : List Method) :
    (ms.map (Method.placed t d)).filter Method.isStub =
      (ms.filter Method.isStub).map (Method.placed t d) := by
  rw [List.filter_map]
  congr 2
  funext m
  simp [Method.isStub, Method.placed]

theorem parse_of_methodAt? {t : Text} {offset : Nat} {m : Method} {d : Declaration}
    (h : methodAt? t offset = some m) (stub : m.stub? = some d) : parse t offset = .ok d := by
  unfold methodAt? at h
  split at h
  · rename_i parsed
    cases h
    cases stub
    exact parsed
  · cases h
    cases stub
  · cases h

structure FirstStub (t : Text) (m : Method) (d : Declaration) (x placeholder z : Text) : Prop where
  text : t = x ++ (placeholder ++ z)
  stub : m.stub? = some d
  name : m.name = d.signature.name
  parsed : parse t m.offset = .ok d
  span : d.placeholder = ⟨x.length, x.length + placeholder.length⟩
  valid : d.signature.Valid
  quoted : '"' ∈ placeholder
  all : stubs t = m :: (stubs z).map (Method.placed t (x.length + placeholder.length))
  left : ∀ name : Identifier, stubs (x ++ (callText name.text d.signature ++ z)) =
    (stubs z).map (Method.placed (x ++ (callText name.text d.signature ++ z))
      (x.length + (callText name.text d.signature).length))

theorem PlaceholderText.quoted {placeholder : Text} (h : PlaceholderText placeholder) :
    '"' ∈ placeholder := by
  obtain ⟨a, body, b, c, _, _, _, _, rfl⟩ := h.outline
  simp

theorem split_at_offset {a b c d : List Method} {m n : Method}
    (sorted : (a ++ m :: b).Pairwise (fun m n => m.offset < n.offset))
    (h : a ++ m :: b = c ++ n :: d) (same : m.offset = n.offset) : a = c ∧ m = n ∧ b = d := by
  obtain ⟨_, behind, before⟩ := List.pairwise_append.mp sorted
  rcases List.append_eq_append_iff.mp h with ⟨e, rfl, tail⟩ | ⟨e, rfl, tail⟩
  · cases e with
    | nil => simpa using tail
    | cons f e =>
      obtain ⟨rfl, rfl⟩ := List.cons.inj tail
      have := (List.pairwise_cons.mp behind).1 n (by simp)
      omega
  · cases e with
    | nil => simpa [eq_comm] using tail
    | cons f e =>
      obtain ⟨rfl, rfl⟩ := List.cons.inj tail
      have := before n (by simp) m (by simp)
      omega

theorem stubs_pairwise (t : Text) : (stubs t).Pairwise (fun m n => m.offset < n.offset) :=
  (methods_pairwise t).filter _

/-- Converting a stub leaves the others: those before it stay, those behind it are those of the text
behind its placeholder. -/
theorem Site.other_stubs {a before placeholder z : Text} {s : Signature} {m : Method}
    {earlier later : List Method} (h : Site a before placeholder s) (name : Identifier)
    (offset : m.offset = a.length)
    (all : stubs ((a ++ before) ++ (placeholder ++ z)) = earlier ++ m :: later) :
    later = (stubs z).map (Method.placed ((a ++ before) ++ (placeholder ++ z))
      ((a ++ before).length + placeholder.length)) ∧
    stubs ((a ++ before) ++ (callText name.text s ++ z)) =
      earlier ++ (stubs z).map (Method.placed ((a ++ before) ++ (callText name.text s ++ z))
        ((a ++ before).length + (callText name.text s).length)) := by
  have sorted := stubs_pairwise ((a ++ before) ++ (placeholder ++ z))
  obtain ⟨first, _, old, new⟩ := h.methods name z
  unfold stubs at all sorted ⊢
  rw [old, List.filter_append, List.filter_cons_of_pos rfl, stubs_placed] at all sorted
  rw [new, List.filter_append, List.filter_cons_of_neg Bool.false_ne_true, stubs_placed]
  obtain ⟨rfl, _, rfl⟩ := split_at_offset sorted all offset.symm
  exact ⟨rfl, rfl⟩

theorem parse_of_mem_stubs {t : Text} {m : Method} (h : m ∈ stubs t) :
    m ∈ methods t ∧ ∃ d, m.stub? = some d ∧ parse t m.offset = .ok d := by
  obtain ⟨listed, isStub⟩ := List.mem_filter.mp h
  obtain ⟨d, stub⟩ := Option.isSome_iff_exists.mp isStub
  obtain ⟨offset, _, found⟩ := List.mem_filterMap.mp listed
  rw [methodAt?_offset found]
  exact ⟨listed, d, stub, parse_of_methodAt? found stub⟩

theorem exists_firstStub {t : Text} {m : Method} {rest : List Method} (h : stubs t = m :: rest) :
    ∃ d x placeholder z, FirstStub t m d x placeholder z := by
  obtain ⟨listed, d, stub, parsed⟩ := parse_of_mem_stubs (t := t) (m := m) (by simp [h])
  obtain ⟨a, before, placeholder, z, site, rfl, shape, rfl⟩ := exists_site listed stub
  have others := fun name : Identifier => site.other_stubs name rfl (h.trans (List.nil_append _).symm)
  refine ⟨d, a ++ before, placeholder, z, rfl, rfl, rfl, parsed, by rw [shape],
    (site.stub z).valid, (site.stub z).placed.quoted, ?_, fun name => (others name).2⟩
  rw [h, (others ({} : Settings).macroName).1]

theorem FirstStub.shorter {t : Text} {m : Method} {d : Declaration} {x placeholder z : Text}
    (h : FirstStub t m d x placeholder z) : z.length < t.length := by
  have nonempty := List.length_pos_of_mem h.quoted
  rw [h.text, List.length_append, List.length_append]
  omega

theorem conversions_firstStub {t : Text} {m : Method} {d : Declaration} {x placeholder z : Text}
    (h : FirstStub t m d x placeholder z) (name : Identifier) :
    conversions name (stubs t) =
      (⟨x.length, x.length + placeholder.length⟩, callText name.text d.signature) ::
        (conversions name (stubs z)).map
          (shiftEdit (x.length + placeholder.length)) := by
  have own : m.conversion? name = some (d.placeholder, callText name.text d.signature) := by
    rw [Method.conversion?, h.stub]
    rfl
  rw [← conversions_placed name t, h.all, ← h.span]
  exact List.filterMap_cons_some own

theorem signatures_firstStub {t : Text} {m : Method} {d : Declaration} {x placeholder z : Text}
    (h : FirstStub t m d x placeholder z) :
    signatures (stubs t) = d.signature :: signatures (stubs z) := by
  have own : m.stub?.map Declaration.signature = some d.signature := by
    rw [h.stub]
    rfl
  rw [← signatures_placed t (x.length + placeholder.length) (stubs z), h.all]
  exact List.filterMap_cons_some own

/-- Once the first stub is converted, what is left to convert is what was left before. -/
theorem substitute_firstStub {t : Text} {m : Method} {d : Declaration} {x placeholder z : Text}
    (h : FirstStub t m d x placeholder z) (name : Identifier) :
    substitute (conversions name (stubs
      (x ++ (callText name.text d.signature ++ z)))) (x ++ (callText name.text d.signature ++ z)) =
    substitute (conversions name (stubs t)) t := by
  rw [conversions_firstStub h, h.left, conversions_placed, ← List.append_assoc,
    ← List.length_append, substitute_append, h.text, substitute_cons, List.append_assoc]

theorem stubs_length_le (t : Text) : (stubs t).length ≤ t.count '"' := by
  cases found : stubs t with
  | nil => exact Nat.zero_le _
  | cons m rest =>
    obtain ⟨d, x, placeholder, z, first⟩ := exists_firstStub found
    have fewer := stubs_length_le z
    have some := List.count_pos_iff.mpr first.quoted
    have same := congrArg List.length first.all
    rw [found] at same
    rw [same, first.text]
    simp only [List.length_cons, List.length_map, List.count_append]
    omega
termination_by t.length
decreasing_by exact first.shorter

theorem conversions_apart (name : Identifier) (t : Text) :
    Apart t.length (conversions name (stubs t)) := by
  cases found : stubs t with
  | nil => exact ⟨by simp [conversions], .nil⟩
  | cons m rest =>
    obtain ⟨d, x, placeholder, z, first⟩ := exists_firstStub found
    have behind := conversions_apart name z
    rw [← found, conversions_firstStub first, first.text]
    exact behind.cons _
termination_by t.length
decreasing_by exact first.shorter

end RecorderStubs
