import RecorderStubs.Proofs.Run

/-! Two texts without a session. A method recorded in two plain texts gives the texts that a run
with a companion in memory leaves, or fails as that run does. -/
namespace RecorderStubs

def Session.onTexts (s : Session) (t : Text) (buffer : Buffer) : Session :=
  { s with desk := ⟨t, .memory buffer none, s.desk.disk⟩ }

section
variable {t x placeholder z companion : Text} {position : Int} {d : Declaration}
  {macroName enumName : Identifier}

theorem recordTexts_unread {e : ParseError} (unread : parse t position = .error e) :
    recordTexts t position companion macroName.text enumName.text = .error (e.toFailure t) := by
  simp only [recordTexts, unread]

theorem recordTexts_unlocated {e : SlotError} (stub : StubAt t position d x placeholder z)
    (slot : enumSlot companion enumName.text = .error e) :
    recordTexts t position companion macroName.text enumName.text =
      .error (RecordError.slot e).toFailure := by
  simp only [recordTexts, stub.parsed]
  rw [record_stubAt stub rfl]
  simp only [recordVariant, Companion.read, slot]

theorem recordTexts_located {offset : Nat} (stub : StubAt t position d x placeholder z)
    (slot : enumSlot companion enumName.text = .ok offset) :
    recordTexts t position companion macroName.text enumName.text =
      .ok (x ++ (callText macroName.text d.signature ++ z),
        withVariants companion offset [d.signature]) := by
  simp only [recordTexts, stub.parsed]
  rw [record_stubAt stub rfl, recordVariant_persisted rfl slot rfl, withVariants_one slot]
  rfl

end

/-- The kinds of failure that a run expects: of the declaration while it is read, of the recording
afterwards. -/
def Expected (t : Text) (position : Int) (kind : FailureKind) : Prop :=
  (if (parse t position).isOk then kind.isRecording else kind.isDeclaration) = true

/-- A plain result at a position of a text, and what a run that starts with a buffer reports and
leaves. -/
inductive Agrees (t : Text) (position : Int) (buffer : Buffer) (r : Report) (desk : Desk) :
    Except Failure (Text × Text) → Prop where
  | converted {t' companion' : Text} (succeeded : r.failure? = none) (primary : desk.primary = t')
      (companion : desk.companion.held = companion') :
      Agrees t position buffer r desk (.ok (t', companion'))
  | failed {f : Failure} (failure : r.failure? = some f) (expected : Expected t position f.kind)
      (kept : desk.companion = .memory buffer none) :
      Agrees t position buffer r desk (.error f)

theorem run_agrees (s : Session) (t : Text) (buffer : Buffer) (position : Int) :
    Agrees t position buffer ((s.onTexts t buffer).run position).1
      ((s.onTexts t buffer).run position).2.desk
      (recordTexts t position buffer.text s.settings.macroName.text s.settings.enumName.text) := by
  cases parsed : parse t position with
  | error e =>
    obtain ⟨failure, desk⟩ := run_unread (s := s.onTexts t buffer) parsed
    rw [recordTexts_unread parsed]
    have expected : Expected t position (e.toFailure t).kind := by
      rw [Expected, parsed]
      exact e.isDeclaration t
    exact .failed failure expected (by rw [desk]; rfl)
  | ok d =>
    obtain ⟨x, placeholder, z, stub, _, _⟩ := exists_stubAt parsed
    cases slot : enumSlot buffer.text s.settings.enumName.text with
    | error e =>
      obtain ⟨failure, desk⟩ := run_unlocated (s := s.onTexts t buffer) stub rfl slot
      rw [recordTexts_unlocated stub slot]
      have expected : Expected t position (RecordError.slot e).toFailure.kind := by
        rw [Expected, parsed]
        rfl
      exact .failed failure expected (by rw [desk]; rfl)
    | ok offset =>
      obtain ⟨succeeded, desk⟩ := run_located (s := s.onTexts t buffer) stub rfl slot
      rw [recordTexts_located stub slot]
      exact .converted succeeded (by rw [desk]; rfl) (by rw [desk]; rfl)

section
variable {t : Text} {position : Int} {buffer : Buffer} {r : Report} {desk : Desk}
  {plain : Except Failure (Text × Text)}

theorem Agrees.ok_iff (h : Agrees t position buffer r desk plain) (t' companion' : Text) :
    plain = .ok (t', companion') ↔
      r.succeeded = true ∧ desk.primary = t' ∧ desk.companion.held = companion' := by
  cases h with
  | converted succeeded primary companion =>
    simp [Report.succeeded_eq, succeeded, primary, companion]
  | failed failure => simp [Report.succeeded_eq, failure]

theorem Agrees.error_iff (h : Agrees t position buffer r desk plain) (kind : FailureKind)
    (message : String) :
    (∃ f, plain = .error f ∧ f.kind = kind ∧ f.message = message) ↔
      r.succeeded = false ∧ r.failure?.map Failure.kind = some kind ∧ r.errors = [message] := by
  cases h with
  | converted succeeded => simp [Report.succeeded_eq, succeeded]
  | failed failure => simp [Report.succeeded_eq, Report.errors, failure]

theorem Agrees.unconverted (h : Agrees t position buffer r desk plain)
    (failed : r.succeeded = false) :
    desk.companion = .memory buffer none ∧
      ∃ f, r.failure? = some f ∧ Expected t position f.kind := by
  cases h with
  | converted succeeded =>
    rw [Report.succeeded_eq, succeeded] at failed
    cases failed
  | failed failure expected kept => exact ⟨kept, _, failure, expected⟩

end

/-- Recording in plain texts gives the texts that a run leaves, or fails with the kind and the
message that the run reports. Nothing but the failures that a run expects arises, and a run that
fails keeps the companion as it was. -/
theorem shortcut_agrees (s : Session) (t : Text) (buffer : Buffer) (position : Int) :
    let plain :=
      recordTexts t position buffer.text s.settings.macroName.text s.settings.enumName.text
    let ran := (s.onTexts t buffer).run position
    (∀ t' companion', plain = .ok (t', companion') ↔
      ran.1.succeeded = true ∧ ran.2.desk.primary = t' ∧ ran.2.desk.companion.held = companion') ∧
    (∀ kind message, (∃ f, plain = .error f ∧ f.kind = kind ∧ f.message = message) ↔
      ran.1.succeeded = false ∧ ran.1.failure?.map Failure.kind = some kind ∧
        ran.1.errors = [message]) ∧
    (ran.1.succeeded = false → ran.2.desk.companion = .memory buffer none ∧
      ∃ f, ran.1.failure? = some f ∧ Expected t position f.kind) := by
  have agrees := run_agrees s t buffer position
  exact ⟨agrees.ok_iff, agrees.error_iff, agrees.unconverted⟩

end RecorderStubs
