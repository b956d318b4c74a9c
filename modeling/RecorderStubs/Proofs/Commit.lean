import RecorderStubs.Program
import RecorderStubs.Proofs.Batch
import RecorderStubs.Proofs.Storage

/-! What a generating command does to the files. Whether the stub at a cursor is converted or all
stubs of a file, the command either stops before it writes anything, or both edited texts are
written, the companion first. So a command that fails leaves all files as they were, unless the
system refuses a write; and even then it leaves an input that is not the companion too, unless the
write of the input itself has begun and breaks off. -/
namespace RecorderStubs

def Console.diffs (c : Console) : List Text :=
  c.entries.filterMap fun
    | .diff t => some t
    | _ => none

/-- The diffs that show how both texts changed; a text that did not change has none. -/
def Setup.diffs (s : Setup) (before after : Texts) : List Text :=
  [Diff.unified before.primary after.primary s.input.name,
    Diff.unified before.companion after.companion s.companion.name].filter (!·.isEmpty)

namespace Console

@[simp] theorem diffs_log (c : Console) (level : Level) (message : String) :
    (c.log level message).diffs = c.diffs := by
  unfold log
  split
  · rfl
  · simp [diffs, add]

@[simp] theorem diffs_table (c : Console) (title : String) (headers : List String)
    (rows : List (List String)) : (c.add (.table title headers rows)).diffs = c.diffs := by
  simp [diffs, add]

@[simp] theorem diffs_notes (c : Console) (messages : List String) :
    (c.notes messages).diffs = c.diffs := by
  induction messages generalizing c with
  | nil => rfl
  | cons message messages ih =>
    rw [notes, List.foldl_cons, ← notes, ih, diffs_log]

theorem diffs_addAll (c : Console) (ts : List Text) :
    (ts.foldl (fun c t => c.add (.diff t)) c).diffs = c.diffs ++ ts := by
  induction ts generalizing c with
  | nil => simp
  | cons t ts ih =>
    have first : (c.add (.diff t)).diffs = c.diffs ++ [t] := by
      simp [diffs, add]
    rw [List.foldl_cons, ih, first, List.append_assoc]
    rfl

end Console

theorem Setup.diffs_showDiffs (s : Setup) (before after : Texts) (c : Console) :
    (s.showDiffs before after c).diffs = c.diffs ++ s.diffs before after :=
  c.diffs_addAll (s.diffs before after)

def Command.untraced? : Command → Option Target
  | .generate target _ none => some target
  | .generate _ _ (some _) => none
  | .generateAll target => some target
  | .scan _ => none

def Cursor.declaration? (t : Text) (c : Cursor) : Option Declaration :=
  match c.locate t with
  | .error _ => none
  | .ok place => if place < 0 ∨ t.length < place then none else (parse t place).toOption

def Command.declarations (t : Text) : Command → List Declaration
  | .generate _ cursor _ => (cursor.declaration? t).toList
  | .generateAll _ => (stubs t).filterMap Method.stub?
  | .scan _ => []

/-- The calls for declarations, each with the span of its placeholder. -/
def callEdits (name : Identifier) (xs : List Declaration) : List (Span × Text) :=
  xs.map fun x => (x.placeholder, callText name.text x.signature)

/-- What a command has found out before it edits anything. -/
structure Plan where
  setup : Setup
  before : Texts
  converted : List Declaration
  slot : Nat

/-- Both texts with all edits made. -/
def Plan.after (p : Plan) : Texts :=
  ⟨substitute (callEdits p.setup.settings.macroName p.converted) p.before.primary,
    withVariants p.before.companion p.slot (p.converted.map Declaration.signature)⟩

/-- The plan of a command that finds all it needs. -/
structure Planned (command : Command) (target : Target) (d : Disk) (p : Plan) : Prop where
  setup : target.setup d = .ok p.setup
  read : p.setup.read d = .ok p.before
  converted : p.converted = command.declarations p.before.primary
  nonempty : p.converted ≠ []
  slot : enumSlot p.before.companion p.setup.settings.enumName.text = .ok p.slot

def Stop.ending : Stop → Ending
  | .refused _ => .exit 1
  | .broken b => .broken b

def Command.miss? (t : Text) : Command → Option Ending
  | .generate _ cursor _ =>
    match cursor.locate t with
    | .error e => some (Stop.ofCursor e).ending
    | .ok _ => if (cursor.declaration? t).isSome then none else some (.exit 1)
  | _ => none

/-- How a command ends that has read its texts and cannot go on. -/
def Command.obstacle? (command : Command) (s : Setup) (before : Texts) : Option Ending :=
  match command.miss? before.primary with
  | some ending => some ending
  | none =>
    if command.declarations before.primary = [] then none
    else
      match enumSlot before.companion s.settings.enumName.text with
      | .error _ => some (.exit 1)
      | .ok _ => none

/-- How a command ends that stops before it has anything to write or to show. -/
def Command.halt? (command : Command) (target : Target) (d : Disk) : Option Ending :=
  match target.setup d with
  | .error e => some e.ending
  | .ok s =>
    match s.read d with
    | .error e => some e.ending
    | .ok before => command.obstacle? s before

/-- The ways in which a command comes to an end that starts with a console. -/
inductive Concluded (command : Command) (target : Target) (d : Disk) (c : Console) (o : Outcome) :
    Prop where
  | stopped (ending : o.ending ≠ .exit 0) (disk : o.disk = d)
      (halt : command.halt? target d = some o.ending)
  | idle {setup : Setup} {before : Texts} (prepared : target.setup d = .ok setup)
      (read : setup.read d = .ok before) (nothing : command.declarations before.primary = [])
      (ending : o.ending = .exit 0) (disk : o.disk = d) (halt : command.halt? target d = none)
  | shown {p : Plan} (planned : Planned command target d p) (dry : target.dryRun = true)
      (ending : o.ending = .exit 0) (disk : o.disk = d)
      (shows : ∃ said, o.console = p.setup.showDiffs p.before p.after said)
      (diffs : o.console.diffs = c.diffs ++ p.setup.diffs p.before p.after)
  | refused {p : Plan} {e : FileError} (planned : Planned command target d p)
      (real : target.dryRun = false) (wrote : p.setup.write p.after d = (.error e, o.disk))
      (ending : o.ending = .exit 1)
  | written {p : Plan} (planned : Planned command target d p) (real : target.dryRun = false)
      (wrote : p.setup.write p.after d = (.ok (), o.disk)) (ending : o.ending = .exit 0)

section
variable {command : Command} {target : Target} {d : Disk} {c : Console} {s : Setup} {before : Texts}

theorem Command.halt?_read (prepared : target.setup d = .ok s) (read : s.read d = .ok before) :
    command.halt? target d = command.obstacle? s before := by
  simp only [Command.halt?, prepared, read]

theorem Stop.concluded (stop : Stop) (halt : command.halt? target d = some stop.ending)
    (said : Console) : Concluded command target d c (stop.outcome said d) := by
  cases stop with
  | refused r => exact .stopped nofun rfl halt
  | broken b => exact .stopped nofun rfl halt

theorem Target.begin_concluded {go : Setup → Texts → Outcome}
    (goes : ∀ s before, target.setup d = .ok s → s.read d = .ok before →
      Concluded command target d c (go s before)) :
    Concluded command target d c (target.begin c d go) := by
  unfold Target.begin
  split
  · rename_i unprepared
    exact Stop.concluded _ (by simp only [Command.halt?, unprepared]) c
  · rename_i s prepared
    split
    · rename_i unread
      exact Stop.concluded _ (by simp only [Command.halt?, prepared, unread]) c
    · rename_i before read
      exact goes s before prepared read

theorem isFile_of_requireFile {p : Path} {missing : Refusal}
    (h : requireFile d p missing = .ok ()) : d.isFile p = .ok true := by
  unfold requireFile at h
  split at h
  · cases h
  · cases h
  · assumption

theorem Target.setup_ok (h : target.setup d = .ok s) :
    s.input = target.input ∧ d.isFile s.input = .ok true ∧ d.isFile s.companion = .ok true := by
  unfold Target.setup at h
  split at h
  · cases h
  · rename_i input
    split at h
    · cases h
    · split at h
      · cases h
      · rename_i companion
        cases h
        exact ⟨rfl, isFile_of_requireFile input, isFile_of_requireFile companion⟩

theorem Setup.read_ok (h : s.read d = .ok before) :
    d.readText s.input .utf8 = .ok before.primary ∧
      d.readText s.companion .utf8 = .ok before.companion := by
  unfold Setup.read at h
  split at h
  · cases h
  · rename_i primary first
    split at h
    · cases h
    · rename_i companion second
      cases h
      exact ⟨first, second⟩

section
variable {k : Session} {place : Int} {x : Declaration} {companion last : Companion} {t a b z : Text}
  {disk : Disk}

theorem run_nowhere {e : SlotError} (stub : StubAt k.desk.primary place x a b z)
    (found : k.desk.companion.read k.desk.disk = (.ok t, companion))
    (slot : enumSlot t k.settings.enumName.text = .error e) :
    (k.run place).1.succeeded = false ∧ (k.run place).2.desk.disk = k.desk.disk := by
  have ran := run_ran stub.parsed
  rw [record_stubAt stub rfl] at ran
  simp only [recordVariant, found, slot] at ran
  exact ⟨by rw [Report.succeeded, ran.result]; rfl, by rw [ran.desk]⟩

/-- Once the slot is found, a run succeeds if its companion is saved. -/
theorem run_saving {offset : Nat} {saved : Except SaveError Unit}
    (stub : StubAt k.desk.primary place x a b z)
    (found : k.desk.companion.read k.desk.disk = (.ok t, companion))
    (slot : enumSlot t k.settings.enumName.text = .ok offset)
    (saves : (k.desk.companion.store (withVariants t offset [x.signature])).save k.desk.disk =
      (saved, last, disk)) :
    (k.run place).1.succeeded = saved.isOk ∧ (k.run place).2.desk =
      ⟨a ++ (callText k.settings.macroName.text x.signature ++ z), last, disk⟩ := by
  have ran := run_ran stub.parsed
  rw [withVariants_one slot] at saves
  rw [record_stubAt stub rfl] at ran
  cases saved with
  | error e =>
    rw [recordVariant_unsaved found slot saves] at ran
    exact ⟨by rw [Report.succeeded, ran.result]; rfl, ran.desk⟩
  | ok done =>
    rw [recordVariant_persisted found slot saves] at ran
    exact ⟨by rw [Report.succeeded, ran.result]; rfl, ran.desk⟩

end

theorem Report.exists_recorded {report : Report} (h : report.succeeded = true) :
    ∃ o, report.result = .ok o := by
  unfold Report.succeeded at h
  cases result : report.result with
  | ok o => exact ⟨o, rfl⟩
  | error f =>
    rw [result] at h
    cases h

theorem Setup.conclude_failed {report : Report} (failed : report.succeeded = false)
    (dryRun : Bool) (after : Texts) (c : Console) :
    (s.conclude dryRun before report after c d).ending = .exit 1 ∧
      (s.conclude dryRun before report after c d).disk = d := by
  unfold Report.succeeded at failed
  cases result : report.result with
  | ok o =>
    rw [result] at failed
    cases failed
  | error f =>
    simp only [Setup.conclude, result]
    split
    · exact ⟨rfl, rfl⟩
    · exact ⟨rfl, rfl⟩

theorem Setup.conclude_stopped {report : Report} (failed : report.succeeded = false)
    (halt : command.halt? target d = some (.exit 1)) (dryRun : Bool) (after : Texts)
    (said : Console) :
    Concluded command target d c (s.conclude dryRun before report after said d) := by
  obtain ⟨ending, disk⟩ := Setup.conclude_failed failed dryRun after said
  refine .stopped ?_ disk ?_
  · rw [ending]
    nofun
  · rw [ending, halt]

section
variable {p : Plan} {report : Report} {after : Texts} {disk : Disk} (said : Console)

theorem Planned.conclude_dry (planned : Planned command target d p) (dry : target.dryRun = true)
    (succeeded : report.succeeded = true) (quiet : said.diffs = c.diffs) :
    Concluded command target d c (p.setup.conclude true p.before report p.after said d) := by
  obtain ⟨o, result⟩ := Report.exists_recorded succeeded
  simp only [Setup.conclude, result]
  refine .shown planned dry rfl rfl ⟨said, rfl⟩ ?_
  rw [← quiet]
  exact p.setup.diffs_showDiffs p.before p.after said

theorem Planned.conclude_unsaved {e : FileError} (planned : Planned command target d p)
    (real : target.dryRun = false) (failed : report.succeeded = false)
    (saved : d.writeText p.setup.companion .utf8 p.after.companion = (.error e, disk)) :
    Concluded command target d c (p.setup.conclude false p.before report after said disk) := by
  obtain ⟨ending, last⟩ := Setup.conclude_failed failed false after said
  refine .refused (e := e) planned real ?_ ending
  rw [last]
  simp only [Setup.write, saved]

theorem Planned.conclude_saved (planned : Planned command target d p)
    (real : target.dryRun = false) (succeeded : report.succeeded = true)
    (primary : after.primary = p.after.primary)
    (saved : d.writeText p.setup.companion .utf8 p.after.companion = (.ok (), disk)) :
    Concluded command target d c (p.setup.conclude false p.before report after said disk) := by
  obtain ⟨o, result⟩ := Report.exists_recorded succeeded
  have write : p.setup.write p.after d = disk.writeText p.setup.input .utf8 p.after.primary := by
    simp only [Setup.write, saved]
  simp only [Setup.conclude, result, primary]
  rcases wrote : disk.writeText p.setup.input .utf8 p.after.primary with ⟨e | ⟨⟨⟩⟩, last⟩
  · exact .refused planned real (write.trans wrote) rfl
  · exact .written planned real (write.trans wrote) rfl

end

def Setup.edited (s : Setup) (dryRun : Bool) (before : Texts) : Companion :=
  if dryRun then s.draft before.companion else .file { path := s.companion }

theorem Setup.edited_read (read : s.read d = .ok before) (dryRun : Bool) :
    ∃ held, (s.edited dryRun before).read d = (.ok before.companion, held) := by
  cases dryRun with
  | true => exact ⟨_, rfl⟩
  | false =>
    have text := (Setup.read_ok read).2
    refine ⟨.file { path := s.companion, cached := some before.companion }, ?_⟩
    simp [Setup.edited, Companion.read, DiskBuffer.read, text, Coded.text_char]

/-- A companion file is saved by writing its text. -/
theorem Setup.edited_save {t : Text} {wrote : Except FileError Unit} {disk : Disk} (before : Texts)
    (h : d.writeText s.companion .utf8 t = (wrote, disk)) :
    ∃ saved last, ((s.edited false before).store t).save d = (saved, last, disk) ∧
      saved.isOk = wrote.isOk := by
  cases wrote with
  | error e =>
    refine ⟨.error (.file e), .file { path := s.companion, cached := some t, dirty := true }, ?_,
      rfl⟩
    simp [Setup.edited, Companion.store, Companion.save, DiskBuffer.store, DiskBuffer.save,
      DiskBuffer.read, h]
  | ok done =>
    refine ⟨.ok (), .file { path := s.companion, cached := some t }, ?_, rfl⟩
    simp [Setup.edited, Companion.store, Companion.save, DiskBuffer.store, DiskBuffer.save,
      DiskBuffer.read, h]

theorem substitute_stubAt {t a b z : Text} {place : Int} {x : Declaration}
    (stub : StubAt t place x a b z) (new : Text) :
    substitute [(x.placeholder, new)] t = a ++ (new ++ z) := by
  rw [stub.span, stub.text]
  exact substitute_cons a b new z []

def Setup.single (s : Setup) (dryRun : Bool) (before : Texts) (d : Disk) : Session :=
  s.session before.primary (s.edited dryRun before) d

theorem Planned.single_texts {x : Declaration} {a b z : Text} {place : Int} {offset : Nat}
    (planned : Planned command target d ⟨s, before, [x], offset⟩)
    (stub : StubAt before.primary place x a b z) :
    ((s.single true before d).run place).2.desk.texts =
      (⟨s, before, [x], offset⟩ : Plan).after := by
  obtain ⟨held, found⟩ := Setup.edited_read planned.read true
  rw [(run_saving (k := s.single true before d) stub found planned.slot rfl).2, Plan.after,
    callEdits, List.map_singleton, substitute_stubAt stub]
  rfl

theorem Planned.run_concluded {x : Declaration} {a b z : Text} {place : Int} {offset : Nat}
    {dryRun : Bool} (planned : Planned command target d ⟨s, before, [x], offset⟩)
    (mode : target.dryRun = dryRun) (stub : StubAt before.primary place x a b z) (said : Console)
    (quiet : said.diffs = c.diffs) :
    Concluded command target d c (s.conclude dryRun before ((s.single dryRun before d).run place).1
      ((s.single dryRun before d).run place).2.desk.texts said
      ((s.single dryRun before d).run place).2.desk.disk) := by
  let p : Plan := ⟨s, before, [x], offset⟩
  obtain ⟨held, found⟩ := Setup.edited_read planned.read dryRun
  -- A dry run saves in memory, without fail; a real run saves by writing the file.
  cases dryRun with
  | true =>
    have ran := run_saving (k := s.single true before d) stub found planned.slot rfl
    rw [planned.single_texts stub, ran.2]
    exact Planned.conclude_dry (p := p) said planned mode ran.1 quiet
  | false =>
    rcases wrote : d.writeText s.companion .utf8 p.after.companion with ⟨result, disk⟩
    obtain ⟨saved, last, saves, same⟩ := Setup.edited_save before wrote
    have ran := run_saving (k := s.single false before d) stub found planned.slot saves
    rw [same] at ran
    rw [ran.2]
    cases result with
    | error e => exact Planned.conclude_unsaved (p := p) said planned mode ran.1 wrote
    | ok done =>
      refine Planned.conclude_saved (p := p) said planned mode ran.1 ?_ wrote
      exact (substitute_stubAt stub _).symm

theorem Setup.convertAt_concluded {cursor : Cursor} {place : Int}
    (prepared : target.setup d = .ok s) (read : s.read d = .ok before)
    (located : cursor.locate before.primary = .ok place)
    (inside : ¬(place < 0 ∨ before.primary.length < place)) (stamp : Nat → Stamp) (c : Console) :
    Concluded (.generate target cursor none) target d c
      (s.convertAt stamp target.dryRun none before place c d) := by
  have meant : cursor.declaration? before.primary = (parse before.primary place).toOption := by
    simp only [Cursor.declaration?, located, if_neg inside]
  let k := s.single target.dryRun before d
  change Concluded _ _ _ _ (s.conclude target.dryRun before (k.run place).1
    (k.run place).2.desk.texts (c.notes (k.run place).2.notes) (k.run place).2.desk.disk)
  cases parsed : parse before.primary place with
  | error e =>
    obtain ⟨failure, desk⟩ := run_unread (s := k) parsed
    have failed : (k.run place).1.succeeded = false := by
      rw [Report.succeeded_eq, failure]
      rfl
    rw [desk]
    refine Setup.conclude_stopped failed ?_ _ _ _
    rw [Command.halt?_read prepared read]
    simp [Command.obstacle?, Command.miss?, located, meant, parsed, Except.toOption]
  | ok x =>
    obtain ⟨a, b, z, stub, _, _⟩ := exists_stubAt parsed
    cases slot : enumSlot before.companion s.settings.enumName.text with
    | error e =>
      obtain ⟨held, found⟩ := Setup.edited_read read target.dryRun
      obtain ⟨failed, disk⟩ := run_nowhere (k := k) stub found slot
      rw [disk]
      refine Setup.conclude_stopped failed ?_ _ _ _
      rw [Command.halt?_read prepared read]
      simp [Command.obstacle?, Command.miss?, Command.declarations, located, meant, parsed, slot,
        Except.toOption]
    | ok offset =>
      have converted : [x] = Command.declarations before.primary (.generate target cursor none) := by
        simp [Command.declarations, meant, parsed, Except.toOption]
      exact Planned.run_concluded ⟨prepared, read, converted, by simp, slot⟩ rfl stub _
        (c.diffs_notes _)

theorem generate_concluded (stamp : Nat → Stamp) (target : Target) (cursor : Cursor) (c : Console)
    (d : Disk) : Concluded (.generate target cursor none) target d c
      (generate stamp target cursor none c d) := by
  apply Target.begin_concluded
  intro s before prepared read
  cases located : cursor.locate before.primary with
  | error e =>
    simp only
    refine Stop.concluded _ ?_ c
    rw [Command.halt?_read prepared read]
    simp only [Command.obstacle?, Command.miss?, located]
  | ok place =>
    simp only
    split
    · rename_i outside
      refine Stop.concluded (.refused _) ?_ c
      rw [Command.halt?_read prepared read]
      simp [Command.obstacle?, Command.miss?, Cursor.declaration?, located, outside, Stop.ending]
    · rename_i inside
      exact Setup.convertAt_concluded prepared read located inside stamp c

theorem conversions_eq (name : Identifier) (ms : List Method) :
    conversions name ms = callEdits name (ms.filterMap Method.stub?) := by
  rw [callEdits, List.map_filterMap]
  rfl

theorem signatures_eq (ms : List Method) :
    signatures ms = (ms.filterMap Method.stub?).map Declaration.signature := by
  rw [List.map_filterMap]
  rfl

theorem declarations_nonempty {t : Text} (present : stubs t ≠ []) :
    (stubs t).filterMap Method.stub? ≠ [] := by
  obtain ⟨m, listed⟩ := List.exists_mem_of_ne_nil _ present
  obtain ⟨_, x, stub, _⟩ := parse_of_mem_stubs listed
  exact List.ne_nil_of_mem (List.mem_filterMap.mpr ⟨m, listed, stub⟩)

/-- The batch of a command works on the texts of the files, in memory. -/
def Setup.batch (s : Setup) (before : Texts) (d : Disk) : Session :=
  s.session before.primary (s.draft before.companion) d

theorem Completed.texts {buffer : Buffer} {offset : Nat} {rs : List Report} {done : Session}
    (h : Completed (s.batch before d) buffer offset rs done) (held : buffer.text = before.companion) :
    done.desk.texts =
      (⟨s, before, (stubs before.primary).filterMap Method.stub?, offset⟩ : Plan).after := by
  rw [Desk.texts, h.primary, h.companion, conversions_eq, signatures_eq, held]
  rfl

theorem Completed.reported {k : Session} {buffer : Buffer} {offset : Nat} {rs : List Report}
    {done : Session} (h : Completed k buffer offset rs done) (present : stubs k.desk.primary ≠ []) :
    rs.isEmpty = false ∧ rs.all Report.succeeded = true := by
  constructor
  · cases rs with
    | nil =>
      have names := h.names
      rw [List.map_nil, eq_comm, List.map_eq_nil_iff] at names
      exact absurd names present
    | cons r rs => rfl
  · exact List.all_eq_true.mpr h.succeeded

theorem generateAll_concluded (target : Target) (c : Console) (d : Disk) :
    Concluded (.generateAll target) target d c (generateAll target c d) := by
  apply Target.begin_concluded
  intro s before prepared read
  have batch : Batch (s.batch before d) (s.convertedAll before d).1 (s.convertedAll before d).2 :=
    runAll_batch (s.batch before d)
  by_cases present : stubs before.primary = []
  · obtain ⟨reports, _⟩ := batch.idle present
    have nothing : Command.declarations before.primary (.generateAll target) = [] := by
      simp only [Command.declarations, present]
      rfl
    simp only [Setup.convertAll, reports]
    refine .idle prepared read nothing rfl rfl ?_
    rw [Command.halt?_read prepared read, Command.obstacle?, if_pos nothing]
    rfl
  · cases slot : enumSlot before.companion s.settings.enumName.text with
    | error e =>
      obtain ⟨⟨r, f, reports, failure, _⟩, _⟩ := batch.stopped present rfl slot
      have failed : r.succeeded = false := by
        rw [Report.succeeded_eq, failure]
        rfl
      simp only [Setup.convertAll, reports, List.isEmpty_cons, List.all_cons, failed]
      refine Stop.concluded (.refused .incomplete) ?_ _
      have some : Command.declarations before.primary (.generateAll target) ≠ [] :=
        declarations_nonempty present
      rw [Command.halt?_read prepared read, Command.obstacle?, if_neg some, slot]
      rfl
    | ok offset =>
      have completed := batch.completed rfl slot
      obtain ⟨some, all⟩ := completed.reported present
      have texts := completed.texts rfl
      have planned : Planned (.generateAll target) target d
          ⟨s, before, (stubs before.primary).filterMap Method.stub?, offset⟩ :=
        ⟨prepared, read, rfl, declarations_nonempty present, slot⟩
      simp only [Setup.convertAll, some, all, texts]
      cases dry : target.dryRun with
      | true =>
        refine .shown planned dry rfl rfl ⟨_, rfl⟩ ?_
        simp [Setup.diffs_showDiffs, reportTable]
      | false =>
        simp only [Bool.not_true, Bool.false_eq_true, if_false]
        split
        · rename_i wrote
          exact .refused planned dry wrote rfl
        · rename_i wrote
          exact .written planned dry wrote rfl

theorem run_concluded (stamp : Nat → Stamp) (c : Console) (untraced : command.untraced? = some target)
    (d : Disk) : Concluded command target d c (command.run stamp c d) := by
  cases command with
  | generate files cursor trace =>
    cases trace with
    | none =>
      cases untraced
      exact generate_concluded stamp target cursor c d
    | some p => cases untraced
  | generateAll files =>
    cases untraced
    exact generateAll_concluded target c d
  | scan input => cases untraced

end

section
open Disk
variable {s : Setup} {d disk : Disk} {l m : Location} {bytes other : Bytes}
  {access access' : Access} {after : Texts}

/-- The companion is written and then the input; the first write that fails is the last. -/
theorem Setup.write_cases {result : Except FileError Unit}
    (input : FileAt d s.input l bytes access) (companion : FileAt d s.companion m other access')
    (wrote : s.write after d = (result, disk)) :
    (∃ e, result = .error e ∧
      FileWritten d s.companion m access' (encodeUtf8 after.companion) (.error e) disk) ∨
    access'.write = none ∧ d.storage m (encodeUtf8 after.companion) = none ∧
      FileWritten (d.overwrite m (encodeUtf8 after.companion)) s.input l access
        (encodeUtf8 after.primary) result disk := by
  unfold Setup.write at wrote
  split at wrote
  · rename_i e left first
    cases wrote
    exact .inl ⟨e, rfl, companion.written first⟩
  · rename_i middle first
    cases companion.written first with
    | ok writable takes =>
      obtain ⟨left, file⟩ := input.overwrite m (encodeUtf8 after.companion)
      exact .inr ⟨writable, takes, file.written wrote⟩

theorem Setup.write_done (input : FileAt d s.input l bytes access)
    (companion : FileAt d s.companion m other access') (wrote : s.write after d = (.ok (), disk)) :
    disk = (d.overwrite m (encodeUtf8 after.companion)).overwrite l (encodeUtf8 after.primary) := by
  rcases Setup.write_cases input companion wrote with ⟨e, failed, _⟩ | ⟨_, _, second⟩
  · cases failed
  · cases second with
    | ok => rfl

theorem Setup.write_ok (first : d.Writable s.companion) (second : d.Writable s.input)
    (after : Texts) : ∃ disk, s.write after d = (.ok (), disk) := by
  obtain ⟨m, _, saved⟩ := first.writeText after.companion
  obtain ⟨l, _, written⟩ := (second.overwrite m (encodeUtf8 after.companion)).writeText after.primary
  exact ⟨_, by simpa only [Setup.write, saved] using written⟩

theorem Setup.files {before : Texts} (read : s.read d = .ok before) :
    ∃ l m bytes other access access', FileAt d s.input l bytes access ∧
      FileAt d s.companion m other access' ∧ access.read = none ∧ access'.read = none := by
  obtain ⟨primary, companion⟩ := Setup.read_ok read
  obtain ⟨l, access, raw, input, open', _⟩ := fileAt_of_readText primary
  obtain ⟨m, access', raw', other, open'', _⟩ := fileAt_of_readText companion
  exact ⟨l, m, _, _, access, access', input, other, open', open''⟩

end

/-- The system refuses a write of a command, before it begins or in the middle of it. -/
def Refused (command : Command) (target : Target) (d : Disk) : Prop :=
  ∃ p e disk, Planned command target d p ∧ target.dryRun = false ∧
    p.setup.write p.after d = (.error e, disk)

section
variable {command : Command} {target : Target} {d : Disk} {c : Console} {o : Outcome} {p : Plan}

theorem Command.miss?_none {t : Text} (present : command.declarations t ≠ []) :
    command.miss? t = none := by
  cases command with
  | generate files cursor trace =>
    cases located : cursor.locate t with
    | error e => simp [Command.declarations, Cursor.declaration?, located] at present
    | ok place =>
      have meant : (cursor.declaration? t).isSome = true := by
        simpa [Command.declarations, Option.isSome_iff_ne_none] using present
      simp only [Command.miss?, located, meant, if_true]
  | generateAll files => rfl
  | scan input => rfl

theorem Command.halt?_slotless {s : Setup} {before : Texts} {e : SlotError}
    (prepared : target.setup d = .ok s) (read : s.read d = .ok before)
    (present : command.declarations before.primary ≠ [])
    (slot : enumSlot before.companion s.settings.enumName.text = .error e) :
    command.halt? target d = some (.exit 1) := by
  rw [Command.halt?_read prepared read, Command.obstacle?, Command.miss?_none present]
  simp only [if_neg present, slot]

theorem Planned.halt (planned : Planned command target d p) : command.halt? target d = none := by
  have present : command.declarations p.before.primary ≠ [] := by
    rw [← planned.converted]
    exact planned.nonempty
  rw [Command.halt?_read planned.setup planned.read, Command.obstacle?, Command.miss?_none present]
  simp only [if_neg present, planned.slot]

theorem Planned.present {s : Setup} {before : Texts} (planned : Planned command target d p)
    (prepared : target.setup d = .ok s) (read : s.read d = .ok before) :
    command.declarations before.primary ≠ [] := by
  obtain rfl := Except.ok.inj (prepared.symm.trans planned.setup)
  obtain rfl := Except.ok.inj (read.symm.trans planned.read)
  rw [← planned.converted]
  exact planned.nonempty

theorem Planned.unique {q : Plan} (first : Planned command target d p)
    (second : Planned command target d q) : p = q := by
  obtain ⟨s, before, xs, slot⟩ := p
  obtain ⟨s', before', xs', slot'⟩ := q
  obtain rfl : s = s' := Except.ok.inj (first.setup.symm.trans second.setup)
  obtain rfl : before = before' := Except.ok.inj (first.read.symm.trans second.read)
  obtain rfl : xs = xs' := first.converted.trans second.converted.symm
  obtain rfl : slot = slot' := Except.ok.inj (first.slot.symm.trans second.slot)
  rfl

/-- Without a refused write, how a command ends is known before it writes. -/
theorem Concluded.ending_eq (h : Concluded command target d c o)
    (accepted : ¬Refused command target d) :
    o.ending = (command.halt? target d).getD (.exit 0) := by
  cases h with
  | stopped _ _ halt => rw [halt, Option.getD_some]
  | idle _ _ _ ending _ halt => rw [halt, Option.getD_none, ending]
  | shown planned _ ending => rw [planned.halt, Option.getD_none, ending]
  | @refused p e planned real wrote => exact absurd ⟨p, e, _, planned, real, wrote⟩ accepted
  | written planned _ _ ending => rw [planned.halt, Option.getD_none, ending]

theorem Concluded.halted {ending : Ending} (h : Concluded command target d c o)
    (halt : command.halt? target d = some ending) : o.ending = ending ∧ o.disk = d := by
  cases h with
  | stopped _ disk halt' => exact ⟨Option.some.inj (halt'.symm.trans halt), disk⟩
  | idle _ _ _ _ _ halt' => cases halt.symm.trans halt'
  | shown planned => cases halt.symm.trans planned.halt
  | refused planned => cases halt.symm.trans planned.halt
  | written planned => cases halt.symm.trans planned.halt

theorem Concluded.disk_of_idle {s : Setup} {before : Texts} (h : Concluded command target d c o)
    (prepared : target.setup d = .ok s) (read : s.read d = .ok before)
    (nothing : command.declarations before.primary = []) : o.disk = d := by
  cases h with
  | stopped _ disk => exact disk
  | idle _ _ _ _ disk => exact disk
  | shown _ _ _ disk => exact disk
  | refused planned => exact absurd nothing (planned.present prepared read)
  | written planned => exact absurd nothing (planned.present prepared read)

/-- A command that has a plan carries it out. -/
theorem Concluded.wrote (h : Concluded command target d c o) (planned : Planned command target d p)
    (real : target.dryRun = false) (accepted : ¬Refused command target d) :
    p.setup.write p.after d = (.ok (), o.disk) := by
  cases h with
  | stopped _ _ halt => cases halt.symm.trans planned.halt
  | idle prepared read nothing => exact absurd nothing (planned.present prepared read)
  | shown _ dry => cases real.symm.trans dry
  | @refused q e planned' _ wrote => exact absurd ⟨q, e, _, planned', real, wrote⟩ accepted
  | written planned' _ wrote =>
    rw [planned.unique planned']
    exact wrote

end

section
open Disk
variable {command : Command} {target : Target} {d disk : Disk} {p : Plan}

end

def pairDisk (source companion : String) (access : Access) : Disk :=
  (Disk.empty.add ["x.rs"] (.file (encodeUtf8 source.toList) access) ⟨rfl, rfl⟩).add ["call.rs"]
    (.file (encodeUtf8 companion.toList) {}) ⟨rfl, rfl⟩

def pairTarget : Target := ⟨⟨.here, ["x.rs"]⟩, none, {}, false⟩

def pairSetup : Setup := ⟨⟨.here, ["x.rs"]⟩, ⟨.here, ["call.rs"]⟩, {}⟩

def oneStub : String := "fn a(&self) \x7b unimplemented!(\"x\"); \x7d\n"

def unstamped (_ : Nat) : Stamp := ⟨"", ""⟩

def Ending.code? : Ending → Option Nat
  | .exit code => some code
  | .broken _ => none

theorem Ending.eq_exit {e : Ending} {code : Nat} (h : e.code? = some code) : e = .exit code := by
  cases e with
  | exit n =>
    cases h
    rfl
  | broken b => cases h

theorem pair_prepared {d : Disk} {s : Setup} {before : Texts} (texts : Texts)
    (known : pairTarget.setup d = .ok pairSetup) (held : (pairSetup.read d).toOption = some texts)
    (prepared : pairTarget.setup d = .ok s) (read : s.read d = .ok before) :
    s = pairSetup ∧ before = texts := by
  obtain rfl := Except.ok.inj (prepared.symm.trans known)
  rw [read] at held
  exact ⟨rfl, Option.some.inj held⟩

-- The storage takes three bytes of the new input and no more.
example :
    let d := { pairDisk oneStub "pub enum Call \x7b\x7d" {} with
      storage := fun l _ => if l = ["x.rs"] then some ⟨3, .noSpace⟩ else none }
    let o := (Command.generateAll pairTarget).run unstamped {} d
    o.ending.code? = some 1 ∧ o.disk.read pairSetup.input = .ok (encodeUtf8 "fn ".toList) := by
  decide +kernel

end RecorderStubs
