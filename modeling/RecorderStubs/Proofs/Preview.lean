import RecorderStubs.Proofs.Delivery

/-! Dry runs. A dry run and the same command done in earnest find out the same, so they end alike;
the dry run writes nothing, and the texts it compares with those before are the texts that the other
leaves. -/
namespace RecorderStubs

def Target.withDryRun (t : Target) (dryRun : Bool) : Target := { t with dryRun := dryRun }

def Command.withDryRun (dryRun : Bool) : Command → Command
  | .generate target cursor trace => .generate (target.withDryRun dryRun) cursor trace
  | .generateAll target => .generateAll (target.withDryRun dryRun)
  | .scan input => .scan input

/-- The texts on the desk of a dry run when all is converted: those it compares with the texts
before. -/
def Command.drafts (s : Setup) (before : Texts) (d : Disk) : Command → Texts
  | .generate _ cursor _ =>
    match cursor.locate before.primary with
    | .error _ => before
    | .ok offset => (s.converted true before offset d).2.desk.texts
  | .generateAll _ => (s.convertedAll before d).2.desk.texts
  | .scan _ => before

section
variable {command : Command} {target : Target} {d : Disk} {p : Plan}

theorem Command.untraced?_withDryRun (untraced : command.untraced? = some target) (dryRun : Bool) :
    (command.withDryRun dryRun).untraced? = some (target.withDryRun dryRun) := by
  cases command with
  | generate files cursor trace =>
    cases trace with
    | none =>
      cases untraced
      rfl
    | some trace => cases untraced
  | generateAll files =>
    cases untraced
    rfl
  | scan input => cases untraced

theorem Command.declarations_withDryRun (command : Command) (dryRun : Bool) (t : Text) :
    (command.withDryRun dryRun).declarations t = command.declarations t := by
  cases command with
  | generate files cursor trace => rfl
  | generateAll files => rfl
  | scan input => rfl

theorem Command.obstacle?_withDryRun (command : Command) (dryRun : Bool) (s : Setup)
    (before : Texts) : (command.withDryRun dryRun).obstacle? s before =
      command.obstacle? s before := by
  cases command with
  | generate files cursor trace => rfl
  | generateAll files => rfl
  | scan input => rfl

theorem Command.halt?_withDryRun (command : Command) (dryRun : Bool) (target : Target) (d : Disk) :
    (command.withDryRun dryRun).halt? (target.withDryRun dryRun) d = command.halt? target d := by
  have prepared : (target.withDryRun dryRun).setup d = target.setup d := rfl
  simp only [Command.halt?, prepared, Command.obstacle?_withDryRun]

theorem planned_withDryRun (dryRun : Bool) :
    Planned (command.withDryRun dryRun) (target.withDryRun dryRun) d p ↔
      Planned command target d p := by
  have same := command.declarations_withDryRun dryRun p.before.primary
  constructor
  · rintro ⟨setup, read, converted, nonempty, slot⟩
    exact ⟨setup, read, converted.trans same, nonempty, slot⟩
  · rintro ⟨setup, read, converted, nonempty, slot⟩
    exact ⟨setup, read, converted.trans same.symm, nonempty, slot⟩

theorem Cursor.declaration?_eq_some {cursor : Cursor} {t : Text} {x : Declaration}
    (h : cursor.declaration? t = some x) :
    ∃ place, cursor.locate t = .ok place ∧ parse t place = .ok x := by
  unfold declaration? at h
  split at h
  · cases h
  · rename_i place located
    split at h
    · cases h
    · refine ⟨place, located, ?_⟩
      cases parsed : parse t place with
      | error e =>
        rw [parsed] at h
        cases h
      | ok y =>
        rw [parsed] at h
        cases h
        rfl

/-- What a dry run compares with the texts before is what is planned. -/
theorem Planned.drafts (planned : Planned command target d p) :
    command.drafts p.setup p.before d = p.after := by
  obtain ⟨s, before, xs, offset⟩ := p
  have converted : xs = command.declarations before.primary := planned.converted
  cases command with
  | generate files cursor trace =>
    cases meant : cursor.declaration? before.primary with
    | none =>
      rw [Command.declarations, meant] at converted
      exact absurd converted planned.nonempty
    | some x =>
      rw [Command.declarations, meant, Option.toList_some] at converted
      subst converted
      obtain ⟨place, located, parsed⟩ := Cursor.declaration?_eq_some meant
      obtain ⟨a, b, z, stub, _, _⟩ := exists_stubAt parsed
      simp only [Command.drafts, located]
      exact planned.single_texts stub
  | generateAll files =>
    subst converted
    have batch : Batch (s.batch before d) (s.convertedAll before d).1 (s.convertedAll before d).2 :=
      runAll_batch (s.batch before d)
    exact (batch.completed rfl planned.slot).texts rfl
  | scan input => exact absurd converted planned.nonempty

theorem not_refused_of_dry (dry : target.dryRun = true) : ¬Refused command target d := by
  rintro ⟨_, _, _, _, real, _⟩
  cases dry.symm.trans real

theorem Concluded.disk_of_dry {c : Console} {o : Outcome} (h : Concluded command target d c o)
    (dry : target.dryRun = true) : o.disk = d := by
  cases h with
  | stopped _ disk => exact disk
  | idle _ _ _ _ disk => exact disk
  | shown _ _ _ disk => exact disk
  | refused _ real => cases dry.symm.trans real
  | written _ real => cases dry.symm.trans real

/-- A command that ends well has something to convert, and then a plan, or nothing. -/
theorem Concluded.exists_planned {c : Console} {o : Outcome} (h : Concluded command target d c o)
    (succeeded : o.ending = .exit 0) :
    ∃ s before, target.setup d = .ok s ∧ s.read d = .ok before ∧
      (command.declarations before.primary ≠ [] →
        ∃ p, Planned command target d p ∧ p.setup = s ∧ p.before = before) := by
  cases h with
  | stopped ending => exact absurd succeeded ending
  | idle prepared read nothing => exact ⟨_, _, prepared, read, fun some => absurd nothing some⟩
  | @shown p planned => exact ⟨_, _, planned.setup, planned.read, fun _ => ⟨p, planned, rfl, rfl⟩⟩
  | refused _ _ _ ending => cases succeeded.symm.trans ending
  | @written p planned => exact ⟨_, _, planned.setup, planned.read, fun _ => ⟨p, planned, rfl, rfl⟩⟩

theorem Concluded.diffs_of_dry {c : Console} {o : Outcome} (h : Concluded command target d c o)
    (planned : Planned command target d p) (dry : target.dryRun = true) :
    (∃ said, o.console = p.setup.showDiffs p.before p.after said) ∧
      o.console.diffs = c.diffs ++ p.setup.diffs p.before p.after := by
  cases h with
  | stopped _ _ halt => cases halt.symm.trans planned.halt
  | idle prepared read nothing => exact absurd nothing (planned.present prepared read)
  | shown planned' _ _ _ shows diffs =>
    rw [planned.unique planned']
    exact ⟨shows, diffs⟩
  | refused _ real => cases dry.symm.trans real
  | written _ real => cases dry.symm.trans real

end

/-- A dry run writes nothing and ends as the same command in earnest does. If it converts anything,
the texts that it compares with those before are the texts that the other leaves. -/
theorem dry_run_predicts {command : Command} {target : Target}
    (untraced : command.untraced? = some target) (stamp : Nat → Stamp) (c : Console) (d : Disk)
    (accepted : ¬Refused (command.withDryRun false) (target.withDryRun false) d) :
    let dry := (command.withDryRun true).run stamp c d
    let real := (command.withDryRun false).run stamp c d
    dry.disk = d ∧ dry.ending = real.ending ∧
    (dry.ending = .exit 0 → ∃ s before, target.setup d = .ok s ∧ s.read d = .ok before ∧
      (command.declarations before.primary ≠ [] → d.locate s.input ≠ d.locate s.companion →
        let after := command.drafts s before d
        (∃ said, dry.console = s.showDiffs before after said) ∧
          dry.console.diffs = c.diffs ++ s.diffs before after ∧
          real.disk.read s.input = .ok (encodeUtf8 after.primary) ∧
          real.disk.read s.companion = .ok (encodeUtf8 after.companion))) := by
  intro dry real
  have shown : Concluded (command.withDryRun true) (target.withDryRun true) d c dry :=
    run_concluded stamp c (Command.untraced?_withDryRun untraced true) d
  have done : Concluded (command.withDryRun false) (target.withDryRun false) d c real :=
    run_concluded stamp c (Command.untraced?_withDryRun untraced false) d
  refine ⟨shown.disk_of_dry rfl, ?_, fun succeeded => ?_⟩
  · rw [shown.ending_eq (not_refused_of_dry rfl), done.ending_eq accepted,
      Command.halt?_withDryRun, Command.halt?_withDryRun]
  · obtain ⟨s, before, prepared, read, plan⟩ := shown.exists_planned succeeded
    refine ⟨s, before, prepared, read, fun some apart => ?_⟩
    rw [Command.declarations_withDryRun] at plan
    obtain ⟨p, planned, rfl, rfl⟩ := plan some
    -- The plan does not depend on the mode; it decides what is shown and what is written.
    have plain : Planned command target d p := (planned_withDryRun true).mp planned
    have same : Planned (command.withDryRun false) (target.withDryRun false) d p :=
      (planned_withDryRun false).mpr plain
    obtain ⟨shows, diffs⟩ := shown.diffs_of_dry planned rfl
    obtain ⟨input, companion, _⟩ := Setup.written_read same.read (done.wrote same rfl accepted)
    simp only [plain.drafts]
    exact ⟨shows, diffs, input, companion apart⟩

theorem not_refused_of_writable {command : Command} {target : Target} {d : Disk} {s : Setup}
    (prepared : target.setup d = .ok s) (input : d.Writable s.input)
    (companion : d.Writable s.companion) : ¬Refused command target d := by
  rintro ⟨p, e, disk, planned, _, wrote⟩
  obtain rfl := Except.ok.inj (prepared.symm.trans planned.setup)
  obtain ⟨done, written⟩ := Setup.write_ok companion input p.after
  cases wrote.symm.trans written

theorem dry_run_predicts_pair :
    let d := pairRun.1
    let dry := (Command.generateAll (pairTarget.withDryRun true)).run unstamped {} d
    let before : Texts := ⟨(oneStub ++ oneStub).toList, "pub enum Call \x7b\x7d".toList⟩
    let after := (Command.generateAll pairTarget).drafts pairSetup before d
    ¬Refused (.generateAll pairTarget) pairTarget d ∧ dry.disk = d ∧ dry.ending = .exit 0 ∧
      dry.console.diffs = pairSetup.diffs before after ∧
      pairRun.2.disk.read pairSetup.input = .ok (encodeUtf8 after.primary) ∧
      pairRun.2.disk.read pairSetup.companion = .ok (encodeUtf8 after.companion) := by
  intro d dry before after
  have accepted : ¬Refused (.generateAll pairTarget) pairTarget d :=
    not_refused_of_writable (s := pairSetup) rfl ⟨_, _, _, ⟨rfl, rfl⟩, rfl, fun _ => rfl⟩
      ⟨_, _, _, ⟨rfl, rfl⟩, rfl, fun _ => rfl⟩
  obtain ⟨kept, alike, texts⟩ := @dry_run_predicts (.generateAll pairTarget) pairTarget rfl unstamped
    {} d accepted
  have succeeded : pairRun.2.ending = .exit 0 := Ending.eq_exit (by decide +kernel)
  obtain ⟨s, found, prepared, read, shown⟩ := texts (alike.trans succeeded)
  obtain ⟨rfl, rfl⟩ := pair_prepared before rfl (by decide +kernel) prepared read
  obtain ⟨_, diffs, written⟩ := shown (by decide +kernel) (by decide +kernel)
  exact ⟨accepted, kept, alike.trans succeeded, diffs, written⟩

end RecorderStubs
