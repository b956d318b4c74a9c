import RecorderStubs.Generation.Session
import RecorderStubs.Proofs.Conversion
import RecorderStubs.Proofs.Recording

/-! One run. The declaration it reads has its placeholder inside the primary text, so the call goes
in without fail; with a companion in memory, the enum alone decides whether the run succeeds. -/
namespace RecorderStubs

/-- A text with the lines of variants at an offset, behind a newline. -/
def withVariants (t : Text) (offset : Nat) : List Signature → Text
  | [] => t
  | ss =>
    t.take offset ++ (if (t.take offset).getLast? = some '\n' then [] else ['\n']) ++
      (ss.map variantText).flatten ++ t.drop offset

section
variable {t : Text} {i : Identifier} {offset : Nat} {s : Signature}

theorem variantAt_eq (slot : enumSlot t i.text = .ok offset) : variantAt t offset s =
    (if (t.take offset).getLast? = some '\n' then [] else ['\n']) ++ variantText s := by
  obtain ⟨positive, inside⟩ := enumSlot_bounds slot
  rw [(variantAt_ownLine positive inside s).brought]
  split <;> rfl

theorem withVariants_one (slot : enumSlot t i.text = .ok offset) :
    withVariants t offset [s] = t.take offset ++ variantAt t offset s ++ t.drop offset := by
  simp [withVariants, variantAt_eq slot]

theorem variantAt_line (slot : enumSlot t i.text = .ok offset) :
    (variantAt t offset s).getLast? = some '\n' := by
  rw [variantAt_eq slot, List.getLast?_append, variantText_line]
  rfl

/-- The slot moves behind a variant that is put in. -/
theorem enumSlot_withVariants (slot : enumSlot t i.text = .ok offset) (valid : s.Valid) :
    enumSlot (withVariants t offset [s]) i.text = .ok (offset + (variantAt t offset s).length) := by
  rw [withVariants_one slot]
  refine enumSlot_insert slot ?_ (variantAt_line slot)
  rw [variantAt_eq slot]
  refine (neutral_of_free ?_ ?_).append (variantText_neutral valid) <;> split <;> decide

/-- A variant put in behind another needs no newline of its own. -/
theorem withVariants_cons (slot : enumSlot t i.text = .ok offset) (ss : List Signature) :
    withVariants (withVariants t offset [s]) (offset + (variantAt t offset s).length) ss =
      withVariants t offset (s :: ss) := by
  cases ss with
  | nil => rfl
  | cons s' ss =>
    have size : (t.take offset ++ variantAt t offset s).length =
        offset + (variantAt t offset s).length := by
      rw [List.length_append, List.length_take, Nat.min_eq_left (enumSlot_bounds slot).2]
    have above : (withVariants t offset [s]).take (offset + (variantAt t offset s).length) =
        t.take offset ++ variantAt t offset s := by
      rw [withVariants_one slot]
      exact List.take_left' size
    have below : (withVariants t offset [s]).drop (offset + (variantAt t offset s).length) =
        t.drop offset := by
      rw [withVariants_one slot]
      exact List.drop_left' size
    have ends : (t.take offset ++ variantAt t offset s).getLast? = some '\n' := by
      rw [List.getLast?_append, variantAt_line slot]
      rfl
    generalize withVariants t offset [s] = u at above below
    simp only [withVariants, above, below, ends]
    rw [variantAt_eq slot]
    simp

end

theorem Report.succeeded_eq (r : Report) : r.succeeded = r.failure?.isNone := by
  unfold Report.succeeded Report.failure?
  cases r.result <;> rfl

/-- What a run leaves that could read its declaration. -/
structure Ran (s : Session) (d : Declaration) (recording : Recording) (r : Report) (s' : Session) :
    Prop where
  name : r.name = some d.signature.name
  result : r.result = recording.result.mapError RecordError.toFailure
  desk : s'.desk = recording.desk
  settings : s'.settings = s.settings

theorem run_ran {s : Session} {offset : Int} {d : Declaration}
    (parsed : parse s.desk.primary offset = .ok d) :
    Ran s d (record d s.settings.macroName.text s.settings.enumName.text s.desk) (s.run offset).1
      (s.run offset).2 := by
  simp only [Session.run, parsed, Session.convert]
  cases result : (record d s.settings.macroName.text s.settings.enumName.text s.desk).result with
  | error e => exact ⟨rfl, by rw [result]; rfl, rfl, rfl⟩
  | ok o => exact ⟨rfl, by rw [result]; rfl, rfl, rfl⟩

theorem ParseError.isDeclaration (e : ParseError) (t : Text) :
    (e.toFailure t).kind.isDeclaration = true := by
  cases e with
  | noHeader offset => rfl
  | unexpectedBody name offset => rfl

theorem run_unread {s : Session} {offset : Int} {e : ParseError}
    (unread : parse s.desk.primary offset = .error e) :
    (s.run offset).1.failure? = some (e.toFailure s.desk.primary) ∧
      (s.run offset).2.desk = s.desk := by
  simp only [Session.run, unread]
  exact ⟨rfl, rfl⟩

theorem recordVariant_primary (primary : Text) (region : Span) (call : Text) (s : Signature)
    (enumName : Text) (desk : Desk) :
    (recordVariant primary region call s enumName desk).desk.primary = primary := by
  simp only [recordVariant]
  repeat' split
  all_goals rfl

/-- A declaration read at an offset of `t`, with what stands before its placeholder and behind it. -/
structure StubAt (t : Text) (offset : Int) (d : Declaration) (x placeholder z : Text) : Prop where
  text : t = x ++ (placeholder ++ z)
  parsed : parse t offset = .ok d
  span : d.placeholder = ⟨x.length, x.length + placeholder.length⟩

theorem exists_stubAt {t : Text} {offset : Int} {d : Declaration} (h : parse t offset = .ok d) :
    ∃ x placeholder z, StubAt t offset d x placeholder z ∧ d.signature.Valid ∧
      PlaceholderText placeholder := by
  obtain ⟨before, placeholder, z, stub, span, _⟩ := parse_eq_ok.mp h
  have inside : clamp t offset ≤ t.length := by
    unfold clamp
    omega
  have start : (t.take (clamp t offset) ++ before).length = clamp t offset + before.length := by
    rw [List.length_append, List.length_take, Nat.min_eq_left inside]
  refine ⟨t.take (clamp t offset) ++ before, placeholder, z, ⟨?_, h, by rw [start, span]⟩,
    stub.valid, stub.placed⟩
  rw [List.append_assoc, ← stub.split, List.take_append_drop]

theorem record_stubAt {t : Text} {offset : Int} {d : Declaration} {x placeholder z : Text}
    (h : StubAt t offset d x placeholder z) {desk : Desk} (text : desk.primary = t)
    (name : Identifier) (enumName : Text) :
    record d name.text enumName desk =
      recordVariant (x ++ (callText name.text d.signature ++ z))
        ⟨x.length, x.length + (callText name.text d.signature).length⟩
        (callText name.text d.signature) d.signature enumName desk := by
  have replaced := replaceRegion_middle x placeholder (callText name.text d.signature) z
  rw [← h.text, ← text] at replaced
  simp only [record, h.span, replaced]

section
variable {s : Session} {position : Int} {d : Declaration} {x placeholder z : Text} {buffer : Buffer}

theorem read_memory (memory : s.desk.companion = .memory buffer none) :
    s.desk.companion.read s.desk.disk = (.ok buffer.text, .memory buffer none) := by
  rw [memory]
  rfl

theorem run_located (stub : StubAt s.desk.primary position d x placeholder z)
    (memory : s.desk.companion = .memory buffer none) {offset : Nat}
    (slot : enumSlot buffer.text s.settings.enumName.text = .ok offset) :
    (s.run position).1.failure? = none ∧ (s.run position).2.desk =
      ⟨x ++ (callText s.settings.macroName.text d.signature ++ z),
        .memory { buffer with
          text := withVariants buffer.text offset [d.signature]
          saves := buffer.saves + 1 } none, s.desk.disk⟩ := by
  have ran := run_ran stub.parsed
  have saves : (s.desk.companion.store (withVariants buffer.text offset [d.signature])).save
      s.desk.disk = (.ok (), .memory { buffer with
        text := withVariants buffer.text offset [d.signature]
        saves := buffer.saves + 1 } none, s.desk.disk) := by
    rw [memory]
    rfl
  rw [withVariants_one slot] at saves ⊢
  rw [record_stubAt stub rfl, recordVariant_persisted (read_memory memory) slot saves] at ran
  exact ⟨by simp [Report.failure?, ran.result, Except.mapError], ran.desk⟩

theorem run_unlocated (stub : StubAt s.desk.primary position d x placeholder z)
    (memory : s.desk.companion = .memory buffer none) {e : SlotError}
    (slot : enumSlot buffer.text s.settings.enumName.text = .error e) :
    (s.run position).1.failure? = some (RecordError.slot e).toFailure ∧
      (s.run position).2.desk =
        ⟨x ++ (callText s.settings.macroName.text d.signature ++ z), s.desk.companion,
          s.desk.disk⟩ := by
  have ran := run_ran stub.parsed
  rw [record_stubAt stub rfl] at ran
  simp only [recordVariant, read_memory memory, slot] at ran
  exact ⟨by simp [Report.failure?, ran.result, Except.mapError], by rw [memory]; exact ran.desk⟩

end

end RecorderStubs
