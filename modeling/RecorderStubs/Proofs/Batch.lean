import RecorderStubs.Proofs.Run
import RecorderStubs.Proofs.Substitution

/-! A batch reads the primary text anew for every stub and edits it each time. It comes to an end,
and it leaves what replacing all placeholders at once would leave, with the variants one below the
other in the enum. -/
namespace RecorderStubs

theorem FirstStub.stubAt {t : Text} {m : Method} {d : Declaration} {x placeholder z : Text}
    (h : FirstStub t m d x placeholder z) : StubAt t m.offset d x placeholder z :=
  ⟨h.text, h.parsed, h.span⟩

/-- A batch as it would go without a bound on its runs. -/
inductive Batch : Session → List Report → Session → Prop where
  | done {s : Session} : firstStub? s.desk.primary = none → Batch s [] s
  | stop {s s' : Session} {r : Report} {offset : Nat} :
      firstStub? s.desk.primary = some offset → s.run offset = (r, s') → r.succeeded = false →
      Batch s [r] s'
  | next {s s' s'' : Session} {r : Report} {rs : List Report} {offset : Nat} :
      firstStub? s.desk.primary = some offset → s.run offset = (r, s') → r.succeeded = true →
      Batch s' rs s'' → Batch s (r :: rs) s''

theorem stubs_of_firstStub? {t : Text} {offset : Nat} (h : firstStub? t = some offset) :
    ∃ m d x placeholder z, FirstStub t m d x placeholder z ∧ m.offset = offset := by
  rw [firstStub?_eq] at h
  cases found : stubs t with
  | nil => simp [found] at h
  | cons m rest =>
    obtain ⟨d, x, placeholder, z, first⟩ := exists_firstStub found
    exact ⟨m, d, x, placeholder, z, first, by simpa [found] using h⟩

theorem stubs_of_firstStub?_none {t : Text} (h : firstStub? t = none) : stubs t = [] := by
  simpa [firstStub?_eq] using h

/-- Every run of the first stub leaves one stub less, also when it fails. -/
theorem run_stubs {s : Session} {offset : Nat} (h : firstStub? s.desk.primary = some offset) :
    (stubs (s.run offset).2.desk.primary).length + 1 = (stubs s.desk.primary).length := by
  obtain ⟨m, d, x, placeholder, z, first, rfl⟩ := stubs_of_firstStub? h
  rw [(run_ran first.parsed).desk, record_stubAt first.stubAt rfl, recordVariant_primary, first.left,
    first.all]
  simp

theorem runFirst_batch {s : Session} {limit : Nat}
    (enough : (stubs s.desk.primary).length ≤ limit) :
    Batch s (s.runFirst limit).1 (s.runFirst limit).2 := by
  induction limit generalizing s with
  | zero =>
    refine .done ?_
    rw [firstStub?_eq, List.eq_nil_of_length_eq_zero (Nat.le_zero.mp enough)]
    rfl
  | succ limit ih =>
    unfold Session.runFirst
    cases found : firstStub? s.desk.primary with
    | none => exact .done found
    | some offset =>
      have fewer := run_stubs found
      have enough : (stubs (s.run offset).2.desk.primary).length ≤ limit := by omega
      simp only
      split
      · rename_i succeeded
        exact .next found rfl succeeded (ih enough)
      · rename_i failed
        exact .stop found rfl (Bool.eq_false_iff.mpr failed)

/-- Every batch comes to an end, and not at its bound. -/
theorem runAll_batch (s : Session) : Batch s s.runAll.1 s.runAll.2 :=
  runFirst_batch (stubs_length_le s.desk.primary)

/-- A batch that converted all stubs. -/
structure Completed (s : Session) (buffer : Buffer) (offset : Nat) (rs : List Report)
    (s' : Session) : Prop where
  succeeded : ∀ r ∈ rs, r.succeeded = true
  names : rs.map Report.name = (stubs s.desk.primary).map (fun m => some m.name)
  apart : Apart s.desk.primary.length (conversions s.settings.macroName (stubs s.desk.primary))
  primary : s'.desk.primary =
    substitute (conversions s.settings.macroName (stubs s.desk.primary)) s.desk.primary
  companion : s'.desk.companion = .memory
    { buffer with
      text := withVariants buffer.text offset (signatures (stubs s.desk.primary))
      saves := buffer.saves + (stubs s.desk.primary).length } none
  finished : stubs s'.desk.primary = []

/-- A batch that could not find the slot: it ends with its first run, before the companion is
edited. -/
structure Stopped (s : Session) (rs : List Report) (s' : Session) : Prop where
  failed : ∃ r f, rs = [r] ∧ r.failure? = some f ∧ f.kind = .enumTarget
  kept : s'.desk.companion = s.desk.companion

theorem Batch.completed {s s' : Session} {rs : List Report} (h : Batch s rs s') {buffer : Buffer}
    {offset : Nat} (memory : s.desk.companion = .memory buffer none)
    (slot : enumSlot buffer.text s.settings.enumName.text = .ok offset) :
    Completed s buffer offset rs s' := by
  have apart := fun s : Session => conversions_apart s.settings.macroName s.desk.primary
  induction h generalizing buffer offset with
  | @done s first =>
    have empty := stubs_of_firstStub?_none first
    refine ⟨by simp, by simp [empty], apart s, ?_, ?_, empty⟩
    · rw [empty]
      rfl
    · rw [empty]
      exact memory
  | stop found ran failed =>
    obtain ⟨m, d, x, placeholder, z, first, rfl⟩ := stubs_of_firstStub? found
    have success := (run_located first.stubAt memory slot).1
    rw [ran] at success
    rw [Report.succeeded_eq, success] at failed
    cases failed
  | @next s s₁ s' r rs _ found ran succeeded rest ih =>
    obtain ⟨m, d, x, placeholder, z, first, rfl⟩ := stubs_of_firstStub? found
    have desk := (run_located first.stubAt memory slot).2
    have settings := (run_ran first.parsed).settings
    have named := (run_ran first.parsed).name
    rw [ran] at desk settings named
    -- The slot now stands behind the new variant, where the rest of the batch finds it.
    have moved := enumSlot_withVariants slot first.valid
    obtain ⟨all, names, _, primary, companion, finished⟩ :=
      ih (by rw [desk]) (by rw [settings]; exact moved)
    rw [desk] at names primary companion
    have left := first.left s.settings.macroName
    refine ⟨List.forall_mem_cons.mpr ⟨succeeded, all⟩, ?_, apart s, ?_, ?_, finished⟩
    · rw [List.map_cons, names, left, first.all, List.map_cons, named, first.name, names_placed,
        names_placed]
    · rw [primary, settings]
      exact substitute_firstStub first s.settings.macroName
    · rw [companion, left, signatures_placed, withVariants_cons slot,
        ← signatures_firstStub first, first.all, List.length_map, List.length_cons,
        List.length_map, Nat.add_assoc, Nat.add_comm 1]

theorem Batch.stopped {s s' : Session} {rs : List Report} (h : Batch s rs s') {buffer : Buffer}
    {e : SlotError} (present : stubs s.desk.primary ≠ [])
    (memory : s.desk.companion = .memory buffer none)
    (slot : enumSlot buffer.text s.settings.enumName.text = .error e) : Stopped s rs s' := by
  cases h with
  | done none => exact absurd (stubs_of_firstStub?_none none) present
  | @stop _ _ r _ found ran failed =>
    obtain ⟨m, d, x, placeholder, z, first, rfl⟩ := stubs_of_firstStub? found
    obtain ⟨failure, desk⟩ := run_unlocated first.stubAt memory slot
    rw [ran] at failure desk
    exact ⟨⟨r, (RecordError.slot e).toFailure, rfl, failure, rfl⟩, by rw [desk]⟩
  | next found ran succeeded rest =>
    obtain ⟨m, d, x, placeholder, z, first, rfl⟩ := stubs_of_firstStub? found
    have failure := (run_unlocated first.stubAt memory slot).1
    rw [ran] at failure
    rw [Report.succeeded_eq, failure] at succeeded
    cases succeeded

theorem Batch.idle {s s' : Session} {rs : List Report} (h : Batch s rs s')
    (empty : stubs s.desk.primary = []) : rs = [] ∧ s' = s := by
  have first : firstStub? s.desk.primary = none := by
    rw [firstStub?_eq, empty]
    rfl
  cases h with
  | done => exact ⟨rfl, rfl⟩
  | stop found => cases first.symm.trans found
  | next found => cases first.symm.trans found

/-- A batch comes to an end. Without stubs it changes nothing; without a slot it stops at the first
stub; else it converts all stubs at once. -/
theorem batch_substitutes (s : Session) {buffer : Buffer}
    (memory : s.desk.companion = .memory buffer none) :
    Batch s s.runAll.1 s.runAll.2 ∧
    (stubs s.desk.primary = [] → s.runAll = ([], s)) ∧
    (stubs s.desk.primary ≠ [] → ∀ e, enumSlot buffer.text s.settings.enumName.text = .error e →
      Stopped s s.runAll.1 s.runAll.2) ∧
    (stubs s.desk.primary ≠ [] → ∀ offset,
      enumSlot buffer.text s.settings.enumName.text = .ok offset →
      Completed s buffer offset s.runAll.1 s.runAll.2) := by
  have batch := runAll_batch s
  refine ⟨batch, fun empty => ?_, fun present e slot => ?_, fun _ offset slot => ?_⟩
  · obtain ⟨reports, same⟩ := batch.idle empty
    exact Prod.ext reports same
  · exact batch.stopped present memory slot
  · exact batch.completed memory slot

def twoStubsDesk : Desk :=
  ⟨twoStubs, .memory { text := "pub enum Call \x7b\x7d".toList } none, .empty⟩

theorem batch_substitutes_two :
    twoStubsDesk.companion = .memory { text := "pub enum Call \x7b\x7d".toList } none ∧
    stubs twoStubsDesk.primary ≠ [] ∧
    Completed ⟨{}, twoStubsDesk, {}, []⟩ { text := "pub enum Call \x7b\x7d".toList } 15
      (Session.runAll ⟨{}, twoStubsDesk, {}, []⟩).1 (Session.runAll ⟨{}, twoStubsDesk, {}, []⟩).2 :=
  have present : stubs twoStubsDesk.primary ≠ [] := by decide +kernel
  ⟨rfl, present,
    (batch_substitutes ⟨{}, twoStubsDesk, {}, []⟩ rfl).2.2.2 present 15 (by decide +kernel)⟩

end RecorderStubs
