import RecorderStubs.Proofs.Preparation

/-! How commands end. A command exits with zero or one, or it breaks off. It breaks off for a few
reasons only, all of which can be seen before it starts: a path that cannot be asked for, the shape
of the project file, a blank in place of a number, or a null character in a path. -/
namespace RecorderStubs

theorem StubAt.replaced {t a b z : Text} {place : Int} {x : Declaration}
    (stub : StubAt t place x a b z) (new : Text) :
    Replaced t x.placeholder new (a ++ (new ++ z)) ⟨a.length, a.length + new.length⟩ := by
  have replaced := replaceRegion_middle a b new z
  rw [← stub.text] at replaced
  rw [stub.span]
  exact replaceRegion_replaced replaced

/-- A path for a trace that holds a null character, and the path at which that comes out: the one
above, or the path itself once the directories above it are there. -/
inductive NullTrace (d : Disk) (p : Path) : Path → Prop where
  | above (null : p.parent.hasNull = true) : NullTrace d p p.parent
  | last (named : p.parent.hasNull = false) (null : p.hasNull = true)
      (made : (d.ensureDirectories p.parent).1 = .ok ()) : NullTrace d p p

section
variable {d d' : Disk} {p q : Path} {e : DiskError} {stamp : Nat → Stamp} {events : List Event}

theorem NullTrace.alike (h : NullTrace d p q) (alike : d.Alike d') : NullTrace d' p q := by
  cases h with
  | above null => exact .above null
  | last named null made => exact .last named null ((alike.ensureParts _ _).1.symm.trans made)

theorem NullTrace.writeTrace (h : NullTrace d p q) :
    (writeTrace stamp p events d).1 = .error ⟨.nullByte, some q⟩ := by
  cases h with
  | above null => simp only [RecorderStubs.writeTrace, Disk.ensureDirectories_null null]
  | last named null made =>
    unfold RecorderStubs.writeTrace
    split
    · rename_i unmade
      rw [unmade] at made
      cases made
    · simp only [Disk.write, Disk.truncate, Disk.locate_null null]

end

theorem saveTrace_null {d : Disk} {p q : Path} (h : NullTrace d p q) (stamp : Nat → Stamp)
    (events : List Event) (c : Console) (go : Console → Disk → Outcome) :
    (saveTrace stamp (some p) events c d go).ending = .broken (.path ⟨.nullByte, some q⟩) := by
  have failed : (writeTrace stamp p events d).1 = _ := h.writeTrace
  simp only [saveTrace]
  split
  · rename_i written
    rw [written] at failed
    cases failed
  · rename_i unwritten
    rw [unwritten] at failed
    cases failed
    rfl

def Command.target? : Command → Option Target
  | .generate target _ _ => some target
  | .generateAll target => some target
  | .scan _ => none

/-- What breaks a command off. -/
inductive Command.Unhandled (d : Disk) : Command → Breakdown → Prop where
  | target {command : Command} {target : Target} {b : Breakdown}
      (generates : command.target? = some target) (unhandled : target.Unhandled d b) :
      Unhandled d command b
  | offset {target : Target} {trace : Option Path} {s : Setup} {before : Texts}
      (prepared : target.setup d = .ok s) (read : s.read d = .ok before) :
      Unhandled d (.generate target (.offset none) trace) .blankOffset
  | column {target : Target} {trace : Option Path} {s : Setup} {before : Texts} {line : Number}
      {place : Nat} (prepared : target.setup d = .ok s) (read : s.read d = .ok before)
      (there : offsetOfLine before.primary (lineMeant line) none = .ok place) :
      Unhandled d (.generate target (.line line (some none)) trace) .blankColumn
  | trace {target : Target} {cursor : Cursor} {p q : Path} {s : Setup} {before : Texts}
      {place : Int} (prepared : target.setup d = .ok s) (read : s.read d = .ok before)
      (located : cursor.locate before.primary = .ok place)
      (inside : 0 ≤ place ∧ place ≤ before.primary.length) (null : NullTrace d p q) :
      Unhandled d (.generate target cursor (some p)) (.path ⟨.nullByte, some q⟩)
  | scan {input : Path} (null : input.hasNull = true) :
      Unhandled d (.scan input) (.path ⟨.nullByte, some input⟩)

section
variable {target : Target} {d : Disk} {s : Setup} {before : Texts} {c : Console} {b : Breakdown}

/-- Nothing but the companion is written before the trace, and that was there. -/
theorem Setup.converted_alike (read : s.read d = .ok before) (dryRun : Bool) (place : Int) :
    d.Alike (s.converted dryRun before place d).2.desk.disk := by
  let k := s.single dryRun before d
  change d.Alike (k.run place).2.desk.disk
  cases parsed : parse before.primary place with
  | error e =>
    rw [(run_unread (s := k) parsed).2]
    exact d.alike_refl
  | ok x =>
    obtain ⟨a, b, z, stub, _, _⟩ := exists_stubAt parsed
    obtain ⟨held, found⟩ := Setup.edited_read read dryRun
    cases slot : enumSlot before.companion s.settings.enumName.text with
    | error e =>
      rw [(run_nowhere (k := k) stub found slot).2]
      exact d.alike_refl
    | ok offset =>
      cases dryRun with
      | true =>
        rw [(run_saving (k := k) stub found slot rfl).2]
        exact d.alike_refl
      | false =>
        let t := withVariants before.companion offset [x.signature]
        rcases wrote : d.writeText s.companion .utf8 t with ⟨result, disk⟩
        obtain ⟨saved, last, saves, _⟩ := Setup.edited_save before wrote
        rw [(run_saving (k := k) stub found slot saves).2]
        obtain ⟨_, _, _, _, _, _, _, companion, _⟩ := Setup.files read
        cases companion.written wrote with
        | denied => exact d.alike_refl
        | short | ok => exact d.alike_overwrite _ _

theorem Target.begin_broken {go : Setup → Texts → Outcome} (h : target.Unhandled d b) :
    (target.begin c d go).ending = .broken b := by
  simp only [Target.begin, Target.setup_unhandled h]
  rfl

theorem Target.begin_eq {go : Setup → Texts → Outcome} (prepared : target.setup d = .ok s)
    (read : s.read d = .ok before) : target.begin c d go = go s before := by
  simp only [Target.begin, prepared, read]

theorem Command.Unhandled.run {command : Command} (h : command.Unhandled d b)
    (stamp : Nat → Stamp) (c : Console) : (command.run stamp c d).ending = .broken b := by
  cases h with
  | @target _ target _ generates unhandled =>
    cases command with
    | generate files cursor trace =>
      cases generates
      exact Target.begin_broken unhandled
    | generateAll files =>
      cases generates
      exact Target.begin_broken unhandled
    | scan input => cases generates
  | offset prepared read =>
    simp only [Command.run, RecorderStubs.generate, Target.begin_eq prepared read, Cursor.locate]
    rfl
  | column prepared read there =>
    simp only [Command.run, RecorderStubs.generate, Target.begin_eq prepared read, Cursor.locate,
      there]
    rfl
  | @trace target cursor p q s before place prepared read located inside null =>
    have within : ¬(place < 0 ∨ before.primary.length < place) := by omega
    have alike := Setup.converted_alike read target.dryRun place
    simp only [Command.run, RecorderStubs.generate, Target.begin_eq prepared read, located,
      if_neg within]
    exact saveTrace_null (null.alike alike) _ _ _ _
  | scan null =>
    simp only [Command.run, RecorderStubs.scan, Disk.readText, Disk.read, Disk.locate_null null]
    rfl

end

def tracedDisk : Disk := pairDisk oneStub "pub enum Call \x7b\x7d" {}

end RecorderStubs
