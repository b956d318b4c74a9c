import RecorderStubs.Proofs.Slot

/-! What a variant and a call carry of a signature. The fields of a variant, put back into a
declaration, are read as the parameters they were written from, so a variant tells its signature;
and the names that a call passes on are those of the parameters, each by itself and in order. -/
namespace RecorderStubs

/-- A part of a text between two marks. -/
def Between (opens closes part t : Text) : Prop :=
  ∃ x y, t = x ++ (opens ++ (part ++ (closes ++ y)))

/-- A part in parentheses that has none inside. -/
def Innermost (part t : Text) : Prop := Between ['('] [')'] part t ∧ '(' ∉ part ∧ ')' ∉ part

def listParts : Text → List Text
  | [] => [[]]
  | ',' :: ' ' :: t => [] :: listParts t
  | c :: t =>
    match listParts t with
    | [] => [[c]]
    | part :: parts => (c :: part) :: parts

def redeclared (s : Signature) (fields : Text) : Text :=
  functionWord ++ [' '] ++ s.name ++ ['(', '&'] ++ receiverWord
    ++ (if s.parameters.isEmpty then [] else separator ++ fields)
    ++ [')', ' ', '\x7b', ' '] ++ unimplementedCall ++ ['"', '"', ')', ';', ' ', '\x7d']

theorem parameterText_field {p : Parameter} (named : RunOf isWord p.name)
    (typed : TypeText p.type) : ParameterText p (separator ++ fieldText p) :=
  ⟨[' '], [' '], [], by decide, by decide, by decide, named, typed, by simp [separator, fieldText]⟩

theorem parametersText_fields {ps : List Parameter}
    (h : ∀ p ∈ ps, RunOf isWord p.name ∧ TypeText p.type) :
    ParametersText ps
      (if ps.isEmpty then [] else separator ++ separator.intercalate (ps.map fieldText)) := by
  induction ps with
  | nil => exact .nil
  | cons p ps ih =>
    obtain ⟨⟨named, typed⟩, others⟩ := List.forall_mem_cons.mp h
    have all := ParametersText.cons (parameterText_field named typed) (ih others)
    cases ps with
    | nil => simpa using all
    | cons q ps =>
      simpa only [List.map_cons, List.intercalate_cons_cons, List.isEmpty_cons, Bool.false_eq_true,
        if_false, List.append_assoc] using all

theorem redeclared_stub {s : Signature} (h : s.Valid) :
    ∃ before placeholder rest, StubText s before placeholder rest
      (redeclared s (separator.intercalate (s.parameters.map fieldText))) := by
  have header : HeaderText s.name (functionWord ++ [' '] ++ s.name ++ ['(', '&'] ++ receiverWord) :=
    ⟨[], [' '], [], .inl rfl, ⟨nofun, by decide⟩, h.name, .inl rfl, by simp⟩
  have opening : OpeningText [')', ' ', '\x7b', ' '] :=
    ⟨[], [], [' '], [], [' '], .inl rfl, by decide, by decide, .inl rfl, by decide, rfl⟩
  have placeholder : PlaceholderText (unimplementedCall ++ ['"', '"', ')', ';']) :=
    ⟨[], ['"', '"'], [], [], by decide, ⟨[], .nil, rfl⟩, by decide, by decide, by simp⟩
  refine ⟨_, _, [' ', '\x7d'], _, _, _, header, parametersText_fields h.parameters, opening,
    placeholder, rfl, ?_⟩
  simp [redeclared]

theorem parse_redeclared {s : Signature} (h : s.Valid) :
    ∃ d, parse (redeclared s (separator.intercalate (s.parameters.map fieldText))) 0 = .ok d ∧
      d.signature = s := by
  obtain ⟨before, placeholder, rest, stub⟩ := redeclared_stub h
  refine ⟨⟨s, ⟨before.length, before.length + placeholder.length⟩, 0⟩, ?_, rfl⟩
  apply parse_eq_ok.mpr
  have start : clamp (redeclared s (separator.intercalate (s.parameters.map fieldText))) 0 = 0 := by
    rw [clamp]
    omega
  rw [start]
  exact ⟨before, placeholder, rest, stub, by simp, rfl⟩

theorem variantText_shape (s : Signature) : variantText s =
    (List.replicate 4 ' ' ++ s.name ++ [' ']) ++ '\x7b' ::
      ((' ' :: separator.intercalate (s.parameters.map fieldText) ++ [' ']) ++
        '\x7d' :: [',', '\n']) := by
  simp [variantText]

section
variable {s s' : Signature} (h : s.Valid)
include h

theorem brace_not_mem_name : '\x7b' ∉ List.replicate 4 ' ' ++ s.name ++ [' '] := by
  have name : '\x7b' ∉ s.name := h.name.2.not_mem (by decide)
  simp [name]

/-- The braces of a variant are its only ones, so its fields are all that can stand between them. -/
theorem between_variant {part : Text} :
    Between ['\x7b', ' '] [' ', '\x7d'] part (variantText s) ↔
      part = separator.intercalate (s.parameters.map fieldText) := by
  have fields := fields_signature h
  have opening : '\x7b' ∉ separator.intercalate (s.parameters.map fieldText) :=
    fields.not_mem (by decide)
  have closing : '\x7d' ∉ separator.intercalate (s.parameters.map fieldText) :=
    fields.not_mem (by decide)
  rw [variantText_shape]
  constructor
  · rintro ⟨x, y, same⟩
    obtain ⟨_, inside⟩ := split_only same (brace_not_mem_name h) (by simp [opening])
    have framed : (' ' :: separator.intercalate (s.parameters.map fieldText) ++ [' ']) ++
        '\x7d' :: [',', '\n'] = (' ' :: part ++ [' ']) ++ '\x7d' :: y := by
      simpa using inside
    obtain ⟨same, _⟩ := split_only framed (by simp [closing]) (by decide)
    simpa using same.symm
  · rintro rfl
    exact ⟨List.replicate 4 ' ' ++ s.name ++ [' '], [',', '\n'], by simp⟩

theorem variantText_parts (h' : s'.Valid) (same : variantText s = variantText s') :
    s.name = s'.name ∧ separator.intercalate (s.parameters.map fieldText) =
      separator.intercalate (s'.parameters.map fieldText) := by
  rw [variantText_shape, variantText_shape] at same
  obtain ⟨first, second⟩ := split_first same (brace_not_mem_name h) (brace_not_mem_name h')
  exact ⟨by simpa using first, by simpa using second⟩

end

theorem fields_isEmpty (ps : List Parameter) :
    (separator.intercalate (ps.map fieldText)).isEmpty = ps.isEmpty := by
  cases ps with
  | nil => rfl
  | cons p ps => cases ps <;> simp [fieldText]

theorem signature_of_variant {s s' : Signature} (h : s.Valid) (h' : s'.Valid)
    (same : variantText s = variantText s') : s = s' := by
  obtain ⟨name, fields⟩ := variantText_parts h h' same
  obtain ⟨d, read, signature⟩ := parse_redeclared h
  obtain ⟨d', read', signature'⟩ := parse_redeclared h'
  have empty : s.parameters.isEmpty = s'.parameters.isEmpty := by
    rw [← fields_isEmpty, fields, fields_isEmpty]
  have text : redeclared s (separator.intercalate (s.parameters.map fieldText)) =
      redeclared s' (separator.intercalate (s'.parameters.map fieldText)) := by
    rw [redeclared, redeclared, name, fields, empty]
  rw [text, read'] at read
  cases read
  exact signature.symm.trans signature'

theorem callText_shape (m : Text) (s : Signature) : callText m s =
    (m ++ ['!', '('] ++ receiverWord ++ ['.'] ++ s.name) ++ '(' ::
      (separator.intercalate s.parameterNames ++ ')' :: [')']) := by
  simp [callText]

theorem names_free {s : Signature} (h : s.Valid) {c : Char} (word : isWord c = false)
    (other : c ∉ separator) : c ∉ separator.intercalate s.parameterNames := by
  have chars : AllOf (fun d => isWord d || separator.contains d)
      (separator.intercalate s.parameterNames) := by
    refine allOf_intercalate (by decide) fun name member => ?_
    exact (h.names name member).2.imp fun letter => by simp [letter]
  exact chars.not_mem (by simp [word, other])

/-- Behind the last opening parenthesis of a call, and before its first closing one, stand the
names; no other two parentheses enclose none. -/
theorem innermost_call (m : Identifier) {s : Signature} (h : s.Valid) {part : Text} :
    Innermost part (callText m.text s) ↔ part = separator.intercalate s.parameterNames := by
  have opening := names_free h (c := '(') (by decide) (by decide)
  have closing := names_free h (c := ')') (by decide) (by decide)
  have before : ')' ∉ m.text ++ ['!', '('] ++ receiverWord ++ ['.'] ++ s.name := by
    have one : ')' ∉ m.text := m.run.2.not_mem (by decide)
    have two : ')' ∉ s.name := h.name.2.not_mem (by decide)
    simp [one, two, receiverWord]
  rw [callText_shape]
  generalize m.text ++ ['!', '('] ++ receiverWord ++ ['.'] ++ s.name = a at before
  generalize separator.intercalate s.parameterNames = names at opening closing
  constructor
  · rintro ⟨⟨x, y, same⟩, free, shut⟩
    have closes : (a ++ '(' :: names) ++ ')' :: [')'] = (x ++ '(' :: part) ++ ')' :: y := by
      simpa using same
    obtain ⟨d, split, rest⟩ := prefix_before closes (by simp [before, closing])
    cases d with
    | nil =>
      rw [List.append_nil] at split
      exact (split_last split free opening).2
    | cons e d =>
      -- Then `part` would end with the first closing parenthesis, or the opening one would be it.
      obtain ⟨rfl, last⟩ := List.cons.inj rest
      obtain rfl : d = [] := by
        cases d with
        | nil => rfl
        | cons f d => simp at last
      have ends := congrArg List.getLast? split
      rw [List.getLast?_concat, List.getLast?_append, List.getLast?_cons, Option.some_or,
        Option.some.injEq] at ends
      cases final : part.getLast? with
      | none => simp [final] at ends
      | some e =>
        rw [final, Option.getD_some] at ends
        exact absurd (ends ▸ List.mem_of_getLast? final) shut
  · rintro rfl
    exact ⟨⟨a, [')'], rfl⟩, opening, closing⟩

theorem listParts_other {c : Char} {t : Text} (other : c ≠ ',') :
    listParts (c :: t) = (c :: (listParts t).headD []) :: (listParts t).tail := by
  rw [listParts]
  · cases listParts t with
    | nil => rfl
    | cons part parts => rfl
  · intro u same
    exact absurd same other

theorem listParts_append {name : Text} (free : ',' ∉ name) (t : Text) :
    listParts (name ++ separator ++ t) = name :: listParts t := by
  induction name with
  | nil => simp [separator, listParts]
  | cons c name ih =>
    simp only [List.mem_cons, not_or] at free
    rw [List.cons_append, List.cons_append, listParts_other (Ne.symm free.1), ih free.2]
    rfl

theorem listParts_name {name : Text} (free : ',' ∉ name) : listParts name = [name] := by
  induction name with
  | nil => rfl
  | cons c name ih =>
    simp only [List.mem_cons, not_or] at free
    rw [listParts_other (Ne.symm free.1), ih free.2]
    rfl

/-- Splitting at the separators undoes the joining, unless there was nothing to join. -/
theorem listParts_intercalate {names : List Text} (free : ∀ name ∈ names, ',' ∉ name)
    (present : names ≠ []) : listParts (separator.intercalate names) = names := by
  induction names with
  | nil => exact absurd rfl present
  | cons name names ih =>
    obtain ⟨first, others⟩ := List.forall_mem_cons.mp free
    cases names with
    | nil => simpa using listParts_name first
    | cons next names =>
      rw [List.intercalate_cons_cons, listParts_append first, ih others nofun]

theorem parameterNames_call {s : Signature} (h : s.Valid) : s.parameterNames =
    if separator.intercalate s.parameterNames = [] then []
    else listParts (separator.intercalate s.parameterNames) := by
  have comma : ∀ name ∈ s.parameterNames, ',' ∉ name := fun name member =>
    (h.names name member).2.not_mem (by decide)
  cases names : s.parameterNames with
  | nil => rfl
  | cons name more =>
    rw [names] at comma
    have present : separator.intercalate (name :: more) ≠ [] := by
      have first := (h.names name (names ▸ List.mem_cons_self ..)).1
      cases more <;> simp [first]
    rw [if_neg present, listParts_intercalate comma nofun]

theorem parse_valid {t : Text} {offset : Int} {d : Declaration} (h : parse t offset = .ok d) :
    d.signature.Valid := by
  obtain ⟨_, _, _, stub, _⟩ := parse_eq_ok.mp h
  exact stub.valid

/-- A variant and a call carry all of the signature they were written from. The fields of the
variant, as the parameters of a declaration, are read as the same signature, so that no two
signatures have one variant; the names of the call, split at the separators, are those of the
parameters. -/
theorem fields_carry_signature {t : Text} {offset : Int} {d : Declaration}
    (found : parse t offset = .ok d) (m : Identifier) :
    (∃ fields, (∀ part, Between ['\x7b', ' '] [' ', '\x7d'] part (variantText d.signature) ↔
        part = fields) ∧
      ∃ d', parse (redeclared d.signature fields) 0 = .ok d' ∧ d'.signature = d.signature) ∧
    (∀ t' offset' d', parse t' offset' = .ok d' →
      variantText d'.signature = variantText d.signature → d'.signature = d.signature) ∧
    ∃ names, (∀ part, Innermost part (callText m.text d.signature) ↔ part = names) ∧
      d.signature.parameterNames = if names = [] then [] else listParts names := by
  have valid := parse_valid found
  refine ⟨⟨_, fun _ => between_variant valid, parse_redeclared valid⟩, ?_,
    _, fun _ => innermost_call m valid, parameterNames_call valid⟩
  intro t' offset' d' found' same
  exact signature_of_variant (parse_valid found') valid same

def markedTypes : Text :=
  "fn f(&self, a: &mut , b: &mut \n[u8], c: &mut) \x7b unimplemented!(\"\");".toList

def markedDeclaration : Declaration :=
  ⟨⟨['f'], [⟨['a'], "&mut".toList⟩, ⟨['b'], "&mut \n[u8]".toList⟩, ⟨['c'], "&mut".toList⟩]⟩,
    ⟨48, 67⟩, 0⟩

theorem fields_carry_signature_marked :
    parse markedTypes 0 = .ok markedDeclaration ∧
    Between ['\x7b', ' '] [' ', '\x7d'] "a: &mut, b: &mut \n[u8], c: &mut".toList
      (variantText markedDeclaration.signature) ∧
    ∃ d', parse (redeclared markedDeclaration.signature
      "a: &mut, b: &mut \n[u8], c: &mut".toList) 0 = .ok d' ∧
      d'.signature = markedDeclaration.signature := by
  have found : parse markedTypes 0 = .ok markedDeclaration := by decide +kernel
  have between : Between ['\x7b', ' '] [' ', '\x7d'] "a: &mut, b: &mut \n[u8], c: &mut".toList
      (variantText markedDeclaration.signature) :=
    ⟨"    f ".toList, [',', '\n'], by decide +kernel⟩
  obtain ⟨⟨fields, only, read⟩, _⟩ := fields_carry_signature found .usualMacro
  obtain rfl := (only _).mp between
  exact ⟨found, between, read⟩

end RecorderStubs
