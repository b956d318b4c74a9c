import RecorderStubs.Proofs.Commit

/-! What a generating command leaves when it succeeds. The input has the calls in place of the
placeholders and the companion has the variants in its enum, provided that these are two files. If
they are one, the input is written over the companion and the variants are gone. -/
namespace RecorderStubs

section
variable {command : Command} {t : Text} {x : Declaration}

theorem Cursor.declaration?_parsed {cursor : Cursor} (h : cursor.declaration? t = some x) :
    ∃ place, parse t place = .ok x := by
  unfold Cursor.declaration? at h
  split at h
  · cases h
  · rename_i place _
    split at h
    · cases h
    · cases parsed : parse t place with
      | error e =>
        rw [parsed] at h
        cases h
      | ok y =>
        rw [parsed] at h
        cases h
        exact ⟨place, parsed⟩

theorem Command.declarations_parsed (h : x ∈ command.declarations t) :
    ∃ place, parse t place = .ok x := by
  cases command with
  | generate target cursor trace => exact Cursor.declaration?_parsed (Option.mem_toList.mp h)
  | generateAll target =>
    obtain ⟨m, listed, stub⟩ := List.mem_filterMap.mp h
    obtain ⟨_, y, stub', parsed⟩ := parse_of_mem_stubs listed
    cases stub.symm.trans stub'
    exact ⟨m.offset, parsed⟩
  | scan input => cases h

theorem Command.declarations_valid (h : x ∈ command.declarations t) : x.signature.Valid := by
  obtain ⟨place, parsed⟩ := Command.declarations_parsed h
  obtain ⟨_, _, _, _, valid, _⟩ := exists_stubAt parsed
  exact valid

theorem StubAt.apart {place : Int} {a b z : Text} (h : StubAt t place x a b z) (new : Text) :
    Apart t.length [(x.placeholder, new)] := by
  have none : Apart z.length [] := ⟨by simp, .nil⟩
  rw [h.span, h.text]
  exact none.cons new

theorem Command.declarations_apart (command : Command) (t : Text) (name : Identifier) :
    Apart t.length (callEdits name (command.declarations t)) := by
  cases command with
  | generate target cursor trace =>
    cases meant : cursor.declaration? t with
    | none =>
      simp only [Command.declarations, meant]
      exact ⟨by simp [callEdits], .nil⟩
    | some x =>
      obtain ⟨place, parsed⟩ := Cursor.declaration?_parsed meant
      obtain ⟨a, b, z, stub, _, _⟩ := exists_stubAt parsed
      simp only [Command.declarations, meant]
      exact stub.apart _
  | generateAll target =>
    have apart := conversions_apart name t
    rw [conversions_eq] at apart
    exact apart
  | scan input => exact ⟨by simp [callEdits, Command.declarations], .nil⟩

end

/-- `part` stands between the braces of the enum. -/
def InEnum (name part t : Text) : Prop :=
  ∃ w above below closing, SlotParts t name w above below closing ∧ part <:+: above

def variantLines (t : Text) (offset : Nat) (ss : List Signature) : Text :=
  (if (t.take offset).getLast? = some '\n' then [] else ['\n']) ++ (ss.map variantText).flatten

section
variable {t : Text} {offset : Nat} {ss : List Signature}

theorem withVariants_eq (nonempty : ss ≠ []) :
    withVariants t offset ss = t.take offset ++ (variantLines t offset ss ++ t.drop offset) := by
  cases ss with
  | nil => exact absurd rfl nonempty
  | cons s ss => simp only [withVariants, variantLines, List.append_assoc]

theorem Neutral.flatten {vs : List Text} (h : ∀ v ∈ vs, Neutral v) : Neutral vs.flatten := by
  induction vs with
  | nil => exact neutral_of_free (by simp) (by simp)
  | cons v vs ih =>
    obtain ⟨first, rest⟩ := List.forall_mem_cons.mp h
    exact first.append (ih rest)

theorem variantLines_neutral (valid : ∀ s ∈ ss, s.Valid) : Neutral (variantLines t offset ss) := by
  have newline : Neutral (if (t.take offset).getLast? = some '\n' then [] else ['\n']) := by
    split
    · exact neutral_of_free (by decide) (by decide)
    · exact neutral_of_free (by decide) (by decide)
  apply newline.append
  apply Neutral.flatten
  intro v listed
  obtain ⟨s, member, rfl⟩ := List.mem_map.mp listed
  exact variantText_neutral (valid s member)

theorem variantLines_line (nonempty : ss ≠ []) :
    (variantLines t offset ss).getLast? = some '\n' := by
  obtain ⟨first, last, rfl⟩ := List.eq_nil_or_concat ss |>.resolve_left nonempty
  simp only [variantLines, List.concat_eq_append, List.map_append, List.flatten_append,
    List.getLast?_append, List.map_cons, List.map_nil, List.flatten_cons, List.flatten_nil,
    List.append_nil, variantText_line]
  rfl

/-- Valid variants put into the slot of an enum stand inside the enum. -/
theorem withVariants_inEnum {i : Identifier} (slot : enumSlot t i.text = .ok offset)
    (valid : ∀ s ∈ ss, s.Valid) {s : Signature} (member : s ∈ ss) :
    InEnum i.text (variantText s) (withVariants t offset ss) := by
  obtain ⟨w, above, below, closing, parts, rfl⟩ := exists_slotParts slot
  have nonempty : ss ≠ [] := List.ne_nil_of_mem member
  have upper : t.take (w ++ '\x7b' :: above).length = w ++ '\x7b' :: above := by
    rw [parts.whole, List.take_left]
  have lower : t.drop (w ++ '\x7b' :: above).length = below ++ closing := by
    rw [parts.whole, List.drop_left]
  generalize (w ++ '\x7b' :: above).length = offset at upper lower
  have shape : withVariants t offset ss =
      w ++ '\x7b' :: ((above ++ variantLines t offset ss) ++ (below ++ closing)) := by
    rw [withVariants_eq nonempty, upper, lower]
    simp
  refine ⟨w, above ++ variantLines t offset ss, below, closing, ?_, ?_⟩
  · rw [shape]
    exact parts.insert (variantLines_neutral valid) (variantLines_line nonempty)
  · have inside : variantText s <:+: (ss.map variantText).flatten :=
      List.infix_of_mem_flatten (List.mem_map_of_mem member)
    exact inside.trans ((List.suffix_append _ _).trans (List.suffix_append _ _)).isInfix

end

/-- Both files after a command that converted declarations. -/
structure Delivered (s : Setup) (before : Texts) (xs : List Declaration) (d after : Disk) : Prop where
  apart : Apart before.primary.length (callEdits s.settings.macroName xs)
  input : after.text? s.input =
    some (substitute (callEdits s.settings.macroName xs) before.primary)
  companion : d.locate s.input ≠ d.locate s.companion →
    ∃ t, after.text? s.companion = some t ∧
      ∀ x ∈ xs, InEnum s.settings.enumName.text (variantText x.signature) t
  overwritten : d.locate s.input = d.locate s.companion →
    after.text? s.companion = after.text? s.input

theorem Setup.written_read {s : Setup} {d disk : Disk} {before after : Texts}
    (read : s.read d = .ok before) (wrote : s.write after d = (.ok (), disk)) :
    disk.read s.input = .ok (encodeUtf8 after.primary) ∧
    (d.locate s.input ≠ d.locate s.companion →
      disk.read s.companion = .ok (encodeUtf8 after.companion)) ∧
    (d.locate s.input = d.locate s.companion →
      disk.read s.companion = .ok (encodeUtf8 after.primary)) := by
  obtain ⟨l, m, bytes, other, access, access', input, companion, first, second⟩ := Setup.files read
  obtain rfl := Setup.write_done input companion wrote
  obtain ⟨left, input'⟩ := input.overwrite m (encodeUtf8 after.companion)
  have companion' := companion.overwrite_self (encodeUtf8 after.companion)
  refine ⟨(input'.overwrite_self _).read first, fun apart => ?_, fun same => ?_⟩
  · have elsewhere : m ≠ l := (input.place_ne companion apart).symm
    exact (companion'.overwrite_other elsewhere _).read second
  · rw [input.place, companion.place] at same
    obtain rfl : l = m := Except.ok.inj same
    -- The second write goes to the same place as the first.
    exact (companion'.overwrite_self _).read second

theorem Planned.delivered {command : Command} {target : Target} {d disk : Disk} {p : Plan}
    (planned : Planned command target d p) (wrote : p.setup.write p.after d = (.ok (), disk)) :
    Delivered p.setup p.before (command.declarations p.before.primary) d disk := by
  obtain ⟨input, elsewhere, here⟩ := Setup.written_read planned.read wrote
  have valid : ∀ s ∈ p.converted.map Declaration.signature, s.Valid := by
    intro s listed
    obtain ⟨x, member, rfl⟩ := List.mem_map.mp listed
    rw [planned.converted] at member
    exact Command.declarations_valid member
  rw [← planned.converted]
  constructor
  · rw [planned.converted]
    exact command.declarations_apart p.before.primary _
  · exact Disk.text?_of_read input
  · intro apart
    refine ⟨p.after.companion, Disk.text?_of_read (elsewhere apart), ?_⟩
    intro x member
    exact withVariants_inEnum planned.slot valid (List.mem_map_of_mem member)
  · intro same
    rw [Disk.text?_of_read input, Disk.text?_of_read (here same)]

/-- A command that succeeds has put every call in place of its placeholder; and every variant into
the enum, unless the companion is the input. -/
theorem success_delivers {command : Command} {target : Target}
    (untraced : command.untraced? = some target) (real : target.dryRun = false)
    (stamp : Nat → Stamp) (c : Console) (d : Disk)
    (succeeded : (command.run stamp c d).ending = .exit 0) :
    ∃ s before, target.setup d = .ok s ∧ s.read d = .ok before ∧
      (command.declarations before.primary ≠ [] →
        Delivered s before (command.declarations before.primary) d (command.run stamp c d).disk) := by
  cases run_concluded stamp c untraced d with
  | stopped ending => exact absurd succeeded ending
  | idle prepared read nothing => exact ⟨_, _, prepared, read, fun some => absurd nothing some⟩
  | shown _ dry => cases real.symm.trans dry
  | refused _ _ _ ending => cases succeeded.symm.trans ending
  | @written p planned _ wrote =>
    exact ⟨p.setup, p.before, planned.setup, planned.read, fun _ => planned.delivered wrote⟩

def pairRun : Disk × Outcome :=
  let d := pairDisk (oneStub ++ oneStub) "pub enum Call \x7b\x7d" {}
  (d, (Command.generateAll pairTarget).run unstamped {} d)

theorem success_delivers_pair :
    pairRun.2.ending = .exit 0 ∧
    pairRun.1.locate pairSetup.input ≠ pairRun.1.locate pairSetup.companion ∧
    Delivered pairSetup ⟨(oneStub ++ oneStub).toList, "pub enum Call \x7b\x7d".toList⟩
      ((Command.generateAll pairTarget).declarations (oneStub ++ oneStub).toList) pairRun.1
      pairRun.2.disk := by
  have succeeded : pairRun.2.ending = .exit 0 := Ending.eq_exit (by decide +kernel)
  obtain ⟨s, before, prepared, read, delivered⟩ :=
    @success_delivers (.generateAll pairTarget) pairTarget rfl rfl unstamped {} pairRun.1 succeeded
  obtain ⟨rfl, rfl⟩ := pair_prepared
    ⟨(oneStub ++ oneStub).toList, "pub enum Call \x7b\x7d".toList⟩ rfl (by decide +kernel) prepared read
  exact ⟨succeeded, by decide +kernel, delivered (by decide +kernel)⟩

/-- The companion is the input. -/
def sharedRun : Disk × Outcome :=
  let d := pairDisk (oneStub ++ "pub enum Call \x7b\n\x7d\n") "" {}
  let target := { pairTarget with companion := some pairTarget.input }
  (d, (Command.generate target (.line (some 1) none) none).run unstamped {} d)

theorem InEnum.mem {name part t : Text} (h : InEnum name part t) : part <:+: t := by
  obtain ⟨w, above, below, closing, parts, inside⟩ := h
  rw [parts.whole]
  have before : above <:+: (w ++ '\x7b' :: above) ++ (below ++ closing) := by
    refine ⟨w ++ ['\x7b'], below ++ closing, ?_⟩
    simp
  exact inside.trans before

/-- The input is written over the companion, which had the variant. -/
theorem shared_file_loses_variant :
    sharedRun.2.ending = .exit 0 ∧
    ∃ t, sharedRun.2.disk.text? pairTarget.input = some t ∧
      callText ['s', 'i', 'm', 'p', 'l', 'e'] ⟨['a'], []⟩ <:+: t ∧
      ¬InEnum ['C', 'a', 'l', 'l'] (variantText ⟨['a'], []⟩) t := by
  let t := "fn a(&self) \x7b simple!(self.a()) \x7d\npub enum Call \x7b\n\x7d\n".toList
  refine ⟨Ending.eq_exit (by decide +kernel), t, by decide +kernel, by decide +kernel, ?_⟩
  intro inside
  have missing : ¬variantText ⟨['a'], []⟩ <:+: t := by decide +kernel
  exact missing inside.mem

-- One file by four names.
example :
    let d := ((Disk.empty.add ["w"] (.directory {}) ⟨rfl, rfl⟩).add ["w", "x.rs"] (.file [] {})
      ⟨rfl, rfl⟩).workIn ["w"] rfl
    ["x.rs", "/w/x.rs", "../w/x.rs", "//w/x.rs"].map (fun name => d.locate (.ofString name)) =
      List.replicate 4 (.ok ["w", "x.rs"]) := by
  decide +kernel

end RecorderStubs
