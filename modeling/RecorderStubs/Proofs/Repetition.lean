import RecorderStubs.Proofs.Preview
import RecorderStubs.Proofs.ProjectFile

/-! All stubs at once, or one after the other. Converting all stubs of a file writes both files once,
at the end; converting its first stub again and again reads and writes both files each time. Both
leave the same texts, and one fails if the other does. -/
namespace RecorderStubs

namespace Disk

section
variable (d : Disk) (l : Location) (new : Bytes)

theorem firstFile_overwrite (ps : List Path) :
    (d.overwrite l new).firstFile ps = d.firstFile ps := by
  induction ps with
  | nil => rfl
  | cons p ps ih => simp only [firstFile, isFile_overwrite, ih]

theorem findProject_overwrite (directory : Path) :
    (d.overwrite l new).findProject directory = d.findProject directory :=
  d.firstFile_overwrite l new _

end

/-- The project file that counts in a directory, if there is one, is not at a location. -/
def Aside (d : Disk) (directory : Path) (l : Location) : Prop :=
  ∀ p, d.findProject directory = .ok (some p) → d.locate p ≠ .ok l

variable {d : Disk} {directory : Path} {l : Location}

theorem Aside.projectBytes (h : d.Aside directory l) (new : Bytes) :
    (d.overwrite l new).projectBytes directory = d.projectBytes directory := by
  simp only [Disk.projectBytes, findProject_overwrite]
  cases found : d.findProject directory with
  | error e => rfl
  | ok project =>
    cases project with
    | none => rfl
    | some p => simp only [Except.map, Option.bind_some, read_overwrite_other (h p found)]

/-- A command is prepared as before the write of a file that is not its project file. -/
theorem Aside.setup {target : Target} (h : d.Aside target.input.parent l) (new : Bytes) :
    target.setup (d.overwrite l new) = target.setup d := by
  have limits : (d.overwrite l new).limits = d.limits := rfl
  simp only [Target.setup, Target.settings, Settings.load, projectSettings, requireFile,
    isFile_overwrite, h.projectBytes, limits]

theorem Aside.overwrite (h : d.Aside directory l) (m : Location) (new : Bytes) :
    (d.overwrite m new).Aside directory l := by
  intro p
  rw [findProject_overwrite, locate_overwrite]
  exact h p

/-- No write to a path breaks off. -/
def Takes (d : Disk) (p : Path) : Prop := ∀ l new, d.locate p = .ok l → d.storage l new = none

end Disk

theorem Setup.writable {s : Setup} {d disk : Disk} {before after : Texts}
    (read : s.read d = .ok before) (wrote : s.write after d = (.ok (), disk))
    (input : d.Takes s.input) (companion : d.Takes s.companion) :
    d.Writable s.input ∧ d.Writable s.companion := by
  obtain ⟨l, m, bytes, other, access, access', file, file', _, _⟩ := Setup.files read
  rcases Setup.write_cases file file' wrote with ⟨e, failed, _⟩ | ⟨writable', _, second⟩
  · cases failed
  · cases second with
    | ok writable =>
      exact ⟨⟨l, bytes, access, file, writable, fun new => input l new file.place⟩,
        m, other, access', file', writable', fun new => companion m new file'.place⟩

theorem return_not_mem_unifyNewlines (t : Text) : '\r' ∉ unifyNewlines t := by
  fun_induction unifyNewlines t with
  | case1 => exact List.not_mem_nil
  | case2 t ih => simp [ih]
  | case3 c t _ ih =>
    by_cases ret : c = '\r'
    · simp [ret, ih]
    · simp [ret, ih, Ne.symm ret]

theorem unifyNewlines_of_not_mem {t : Text} (free : '\r' ∉ t) : unifyNewlines t = t := by
  induction t with
  | nil => rfl
  | cons c t ih =>
    simp only [List.mem_cons, not_or] at free
    rw [unifyNewlines, ih free.2, if_neg (Ne.symm free.1)]
    intro rest same
    exact absurd same.symm free.1

theorem return_not_mem {p : Char → Bool} (other : p '\r' = false) {t : Text} (h : AllOf p t) :
    '\r' ∉ t := by
  intro member
  cases other.symm.trans (h '\r' member)

theorem ParametersText.types {ps : List Parameter} {t : Text} (h : ParametersText ps t) :
    ∀ p ∈ ps, p.type <:+: t := by
  induction h with
  | nil => simp
  | @cons p ps a b first _ ih =>
    obtain ⟨before, inside, after, _, _, _, _, _, rfl⟩ := first
    refine List.forall_mem_cons.mpr ⟨?_, fun q member => ?_⟩
    · exact ⟨[','] ++ before ++ p.name ++ [':'] ++ inside, after ++ b, by simp⟩
    · exact (ih q member).trans (List.suffix_append _ _).isInfix

theorem parse_types {t : Text} {place : Int} {x : Declaration} (parsed : parse t place = .ok x) :
    ∀ p ∈ x.signature.parameters, p.type <:+: t := by
  obtain ⟨before, placeholder, rest, stub, _⟩ := parse_eq_ok.mp parsed
  obtain ⟨header, parameters, opening, _, many, _, _, rfl, split⟩ := stub
  intro p member
  have inside : parameters <:+: t.drop (clamp t place) := by
    rw [split]
    exact ⟨header, opening ++ placeholder ++ rest, by simp⟩
  exact (many.types p member).trans (inside.trans (List.drop_suffix _ _).isInfix)

theorem return_not_mem_intercalate {parts : List Text} (h : ∀ part ∈ parts, '\r' ∉ part) :
    '\r' ∉ separator.intercalate parts := by
  refine return_not_mem (p := (· != '\r')) (by decide) (allOf_intercalate (by decide) ?_)
  intro part listed c member
  exact bne_iff_ne.mpr fun same => h part listed (same ▸ member)

theorem return_not_mem_variantText {s : Signature} (valid : s.Valid)
    (types : ∀ p ∈ s.parameters, '\r' ∉ p.type) : '\r' ∉ variantText s := by
  have fields : ∀ field ∈ s.parameters.map fieldText, '\r' ∉ field := by
    intro field listed
    obtain ⟨p, member, rfl⟩ := List.mem_map.mp listed
    have name := return_not_mem (by decide) (valid.parameters p member).1.2
    simp [fieldText, name, types p member]
  have name := return_not_mem (by decide) valid.name.2
  have inner := return_not_mem_intercalate fields
  simp [variantText, name, inner]

/-- Both texts without carriage returns, as they are read from files. -/
def Texts.Plain (texts : Texts) : Prop := '\r' ∉ texts.primary ∧ '\r' ∉ texts.companion

theorem Setup.read_plain {s : Setup} {d : Disk} {texts : Texts} (read : s.read d = .ok texts) :
    texts.Plain := by
  obtain ⟨primary, companion⟩ := Setup.read_ok read
  obtain ⟨_, _, _, _, _, first⟩ := Disk.fileAt_of_readText primary
  obtain ⟨_, _, _, _, _, second⟩ := Disk.fileAt_of_readText companion
  rw [Texts.Plain, first, second]
  exact ⟨return_not_mem_unifyNewlines _, return_not_mem_unifyNewlines _⟩

theorem Plan.after_plain {s : Setup} {before : Texts} {place : Int} {x : Declaration} {slot : Nat}
    (plain : before.Plain) (parsed : parse before.primary place = .ok x) :
    (⟨s, before, [x], slot⟩ : Plan).after.Plain := by
  obtain ⟨a, b, z, stub, valid, _⟩ := exists_stubAt parsed
  obtain ⟨primary, companion⟩ := plain
  have types : ∀ p ∈ x.signature.parameters, '\r' ∉ p.type := fun p member inside =>
    primary ((parse_types parsed p member).subset inside)
  have variant := return_not_mem_variantText valid types
  have call := return_not_mem (by decide) (callText_chars s.settings.macroName valid)
  constructor
  · rw [Plan.after, callEdits, List.map_singleton, substitute_stubAt stub]
    rw [stub.text] at primary
    simp only [List.mem_append, not_or] at primary ⊢
    exact ⟨primary.1, call, primary.2.2⟩
  · have upper : '\r' ∉ before.companion.take slot := fun h => companion (List.mem_of_mem_take h)
    have lower : '\r' ∉ before.companion.drop slot := fun h => companion (List.mem_of_mem_drop h)
    have newline : '\r' ∉ if (before.companion.take slot).getLast? = some '\n' then [] else ['\n'] := by
      split <;> decide
    simp [Plan.after, withVariants, upper, lower, newline, variant]

/-- A command that can be given again: both files are there, apart from each other and from the
project file that counts, and may be written. -/
structure Ready (target : Target) (s : Setup) (d : Disk) (texts : Texts) : Prop where
  prepared : target.setup d = .ok s
  read : s.read d = .ok texts
  apart : d.locate s.input ≠ d.locate s.companion
  aside : ∀ p, d.findProject target.input.parent = .ok (some p) →
    d.locate p ≠ d.locate s.input ∧ d.locate p ≠ d.locate s.companion
  input : d.Writable s.input
  companion : d.Writable s.companion

theorem Disk.readText_of_read {d : Disk} {p : Path} {t : Text}
    (bytes : d.read p = .ok (encodeUtf8 t)) (plain : '\r' ∉ t) : d.readText p .utf8 = .ok t := by
  have decoded : Encoding.utf8.decode (encodeUtf8 t) = .ok t := decodeUtf8From_encode 0 t
  simp only [Disk.readText, bytes, decoded, unifyNewlines_of_not_mem plain]

theorem Ready.written {target : Target} {s : Setup} {d disk : Disk} {before after : Texts}
    (ready : Ready target s d before) (plain : after.Plain)
    (wrote : s.write after d = (.ok (), disk)) : Ready target s disk after := by
  obtain ⟨first, second, _⟩ := Setup.written_read ready.read wrote
  have read : s.read disk = .ok after := by
    simp only [Setup.read, Disk.readText_of_read first plain.1,
      Disk.readText_of_read (second ready.apart) plain.2]
  obtain ⟨l, m, bytes, other, access, access', input, companion, _, _⟩ := Setup.files ready.read
  obtain rfl := Setup.write_done input companion wrote
  have aside : d.Aside target.input.parent l := fun p found =>
    input.place ▸ (ready.aside p found).1
  have aside' : d.Aside target.input.parent m := fun p found =>
    companion.place ▸ (ready.aside p found).2
  constructor
  · rw [(aside.overwrite m _).setup, aside'.setup, ready.prepared]
  · exact read
  · simp only [Disk.locate_overwrite]
    exact ready.apart
  · simp only [Disk.findProject_overwrite, Disk.locate_overwrite]
    exact ready.aside
  · exact (ready.input.overwrite m _).overwrite l _
  · exact (ready.companion.overwrite m _).overwrite l _

/-- The command that converts a stub by its offset. -/
def Target.callAt (target : Target) (m : Method) : Command :=
  .generate target (.offset (some m.offset)) none

section
variable {t x placeholder z : Text} {m : Method} {d : Declaration}

theorem parse_inside {offset : Nat} (parsed : parse t offset = .ok d) : offset ≤ t.length := by
  obtain ⟨a, b, c, stub, _⟩ := parse_eq_ok.mp parsed
  have quoted := List.length_pos_of_mem stub.placed.quoted
  have size := congrArg List.length stub.split
  rw [List.length_drop, List.length_append, List.length_append] at size
  unfold clamp at size
  omega

theorem FirstStub.declarations (first : FirstStub t m d x placeholder z) (target : Target) :
    (target.callAt m).declarations t = [d] := by
  have inside := parse_inside first.parsed
  simp [Target.callAt, Command.declarations, Cursor.declaration?, Cursor.locate, inside,
    first.parsed, Except.toOption]

end

section
variable {target : Target} {s : Setup} {d : Disk} {before : Texts} {m : Method} {x : Declaration}
  {a b z : Text} {offset : Nat}

theorem Ready.not_refused (ready : Ready target s d before) (command : Command) :
    ¬Refused command target d :=
  not_refused_of_writable ready.prepared ready.input ready.companion

/-- One call converts the first stub and leaves the command ready for the next. -/
theorem Ready.call (ready : Ready target s d before) (real : target.dryRun = false)
    (first : FirstStub before.primary m x a b z)
    (slot : enumSlot before.companion s.settings.enumName.text = .ok offset) (stamp : Nat → Stamp)
    (c : Console) :
    ((target.callAt m).run stamp c d).ending = .exit 0 ∧
      Ready target s ((target.callAt m).run stamp c d).disk
        (⟨s, before, [x], offset⟩ : Plan).after := by
  have planned : Planned (target.callAt m) target d ⟨s, before, [x], offset⟩ :=
    ⟨ready.prepared, ready.read, (first.declarations target).symm, by simp, slot⟩
  have concluded : Concluded (target.callAt m) target d c ((target.callAt m).run stamp c d) :=
    run_concluded stamp c rfl d
  have accepted := ready.not_refused (target.callAt m)
  constructor
  · rw [concluded.ending_eq accepted, planned.halt, Option.getD_none]
  · exact ready.written (Plan.after_plain (Setup.read_plain ready.read) first.parsed)
      (concluded.wrote planned real accepted)

/-- All stubs of a text, and the slot for their variants. -/
def Setup.wholePlan (s : Setup) (before : Texts) (offset : Nat) : Plan :=
  ⟨s, before, (stubs before.primary).filterMap Method.stub?, offset⟩

theorem Setup.wholePlan_after (s : Setup) (before : Texts) (offset : Nat) :
    (s.wholePlan before offset).after =
      ⟨substitute (conversions s.settings.macroName (stubs before.primary)) before.primary,
        withVariants before.companion offset (signatures (stubs before.primary))⟩ := by
  rw [conversions_eq, signatures_eq]
  rfl

/-- To convert the first stub and then all others is to convert all. -/
theorem wholePlan_first (first : FirstStub before.primary m x a b z)
    (slot : enumSlot before.companion s.settings.enumName.text = .ok offset) :
    let one := (⟨s, before, [x], offset⟩ : Plan).after
    ∃ next, enumSlot one.companion s.settings.enumName.text = .ok next ∧
      (s.wholePlan one next).after = (s.wholePlan before offset).after ∧
      (stubs one.primary).length + 1 = (stubs before.primary).length := by
  intro one
  have primary : one.primary = a ++ (callText s.settings.macroName.text x.signature ++ z) :=
    substitute_stubAt first.stubAt _
  have companion : one.companion = withVariants before.companion offset [x.signature] := rfl
  have left := first.left s.settings.macroName
  refine ⟨offset + (variantAt before.companion offset x.signature).length, ?_, ?_, ?_⟩
  · rw [companion]
    exact enumSlot_withVariants slot first.valid
  · rw [Setup.wholePlan_after, Setup.wholePlan_after, primary, companion,
      substitute_firstStub first s.settings.macroName, left, signatures_placed,
      withVariants_cons slot, ← signatures_firstStub first]
  · rw [primary, left, first.all]
    simp

end

/-- The first stub of the input is converted by its offset, again and again, until none is left or
a call fails. -/
inductive Repeated (target : Target) (stamp : Nat → Stamp) (c : Console) :
    Disk → Disk → Bool → Prop where
  | done {d : Disk} {t : Text} (read : d.readText target.input .utf8 = .ok t)
      (none : stubs t = []) : Repeated target stamp c d d false
  | failed {d : Disk} {t : Text} {m : Method} {rest : List Method}
      (read : d.readText target.input .utf8 = .ok t) (first : stubs t = m :: rest)
      (ending : ((target.callAt m).run stamp c d).ending = .exit 1) :
      Repeated target stamp c d ((target.callAt m).run stamp c d).disk true
  | next {d last : Disk} {t : Text} {m : Method} {rest : List Method} {failed : Bool}
      (read : d.readText target.input .utf8 = .ok t) (first : stubs t = m :: rest)
      (ending : ((target.callAt m).run stamp c d).ending = .exit 0)
      (more : Repeated target stamp c ((target.callAt m).run stamp c d).disk last failed) :
      Repeated target stamp c d last failed

section
variable {target : Target} {stamp : Nat → Stamp} {c : Console}

theorem Repeated.unique {d last last' : Disk} {failed failed' : Bool}
    (h : Repeated target stamp c d last failed) (h' : Repeated target stamp c d last' failed') :
    last' = last ∧ failed' = failed := by
  induction h with
  | done read none =>
    cases h' with
    | done => exact ⟨rfl, rfl⟩
    | failed read' first =>
      cases read.symm.trans read'
      cases none.symm.trans first
    | next read' first =>
      cases read.symm.trans read'
      cases none.symm.trans first
  | failed read first ending =>
    cases h' with
    | done read' none =>
      cases read.symm.trans read'
      cases none.symm.trans first
    | failed read' first' =>
      cases read.symm.trans read'
      cases first.symm.trans first'
      exact ⟨rfl, rfl⟩
    | next read' first' ending' =>
      cases read.symm.trans read'
      cases first.symm.trans first'
      cases ending.symm.trans ending'
  | next read first ending _ ih =>
    cases h' with
    | done read' none =>
      cases read.symm.trans read'
      cases none.symm.trans first
    | failed read' first' ending' =>
      cases read.symm.trans read'
      cases first.symm.trans first'
      cases ending.symm.trans ending'
    | next read' first' _ more =>
      cases read.symm.trans read'
      cases first.symm.trans first'
      exact ih more

theorem Target.readText_input {s : Setup} {d : Disk} {before : Texts}
    (prepared : target.setup d = .ok s) (read : s.read d = .ok before) :
    d.readText target.input .utf8 = .ok before.primary := by
  rw [← (Target.setup_ok prepared).1]
  exact (Setup.read_ok read).1

/-- With the slot in its place no call fails, and in the end all stubs have been converted. -/
theorem Ready.repeated {s : Setup} (real : target.dryRun = false) {n : Nat} {d : Disk}
    {before : Texts} {offset : Nat} (ready : Ready target s d before)
    (slot : enumSlot before.companion s.settings.enumName.text = .ok offset)
    (count : (stubs before.primary).length = n) (stamp : Nat → Stamp) (c : Console) :
    ∃ last, Repeated target stamp c d last false ∧
      Ready target s last (s.wholePlan before offset).after := by
  -- By the number of stubs: a call leaves one less, and the whole plan of the texts it leaves is
  -- the same.
  induction n generalizing d before offset with
  | zero =>
    have none := List.eq_nil_of_length_eq_zero count
    refine ⟨d, .done (Target.readText_input ready.prepared ready.read) none, ?_⟩
    rw [Setup.wholePlan_after, none]
    exact ready
  | succ n ih =>
    obtain ⟨m, rest, found⟩ := List.exists_cons_of_length_eq_add_one count
    obtain ⟨x, a, b, z, first⟩ := exists_firstStub found
    obtain ⟨ending, again⟩ := ready.call real first slot stamp c
    obtain ⟨next, moved, same, fewer⟩ := wholePlan_first (s := s) first slot
    obtain ⟨last, repeated, finished⟩ := ih again moved (by omega)
    rw [same] at finished
    have read := Target.readText_input ready.prepared ready.read
    exact ⟨last, .next read found ending repeated, finished⟩

structure SameAsCalls (target : Target) (s : Setup) (stamp : Nat → Stamp) (c : Console) (d : Disk)
    (o : Outcome) (last : Disk) (failed : Bool) (texts : Texts) : Prop where
  repeated : Repeated target stamp c d last failed
  calls : s.read last = .ok texts
  batch : s.read o.disk = .ok texts
  ending : o.ending = .exit (if failed then 1 else 0)

variable {s : Setup} {d : Disk} {before : Texts} {o : Outcome}

theorem Concluded.sameAsCalls_idle (h : Concluded (.generateAll target) target d c o)
    (prepared : target.setup d = .ok s) (read : s.read d = .ok before)
    (accepted : ¬Refused (.generateAll target) target d) (none : stubs before.primary = [])
    (stamp : Nat → Stamp) : SameAsCalls target s stamp c d o d false before := by
  have nothing : Command.declarations before.primary (.generateAll target) = [] := by
    simp only [Command.declarations, none]
    rfl
  refine ⟨.done (Target.readText_input prepared read) none, read, ?_, ?_⟩
  · rw [h.disk_of_idle prepared read nothing]
    exact read
  · rw [h.ending_eq accepted, Command.halt?_read prepared read, Command.obstacle?]
    simp only [Command.miss?, if_pos nothing]
    rfl

theorem Concluded.sameAsCalls_slotless {e : SlotError}
    (h : Concluded (.generateAll target) target d c o) (prepared : target.setup d = .ok s)
    (read : s.read d = .ok before) (present : stubs before.primary ≠ [])
    (slot : enumSlot before.companion s.settings.enumName.text = .error e) (stamp : Nat → Stamp) :
    SameAsCalls target s stamp c d o d true before := by
  obtain ⟨m, rest, found⟩ := List.exists_cons_of_ne_nil present
  obtain ⟨x, a, b, z, first⟩ := exists_firstStub found
  have one : (target.callAt m).declarations before.primary ≠ [] := by
    rw [first.declarations target]
    exact List.cons_ne_nil x []
  have called : Concluded (target.callAt m) target d c ((target.callAt m).run stamp c d) :=
    run_concluded stamp c rfl d
  obtain ⟨ending, disk⟩ := called.halted (Command.halt?_slotless prepared read one slot)
  have repeated := Repeated.failed (Target.readText_input prepared read) found ending
  rw [disk] at repeated
  obtain ⟨ending', disk'⟩ :=
    h.halted (Command.halt?_slotless prepared read (declarations_nonempty present) slot)
  refine ⟨repeated, read, ?_, ending'⟩
  rw [disk']
  exact read

theorem Concluded.sameAsCalls_located {offset : Nat}
    (h : Concluded (.generateAll target) target d c o) (real : target.dryRun = false)
    (prepared : target.setup d = .ok s) (read : s.read d = .ok before)
    (apart : d.locate s.input ≠ d.locate s.companion)
    (aside : ∀ p, d.findProject target.input.parent = .ok (some p) →
      d.locate p ≠ d.locate s.input ∧ d.locate p ≠ d.locate s.companion)
    (input : d.Takes s.input) (companion : d.Takes s.companion)
    (accepted : ¬Refused (.generateAll target) target d) (present : stubs before.primary ≠ [])
    (slot : enumSlot before.companion s.settings.enumName.text = .ok offset) (stamp : Nat → Stamp) :
    ∃ last, SameAsCalls target s stamp c d o last false (s.wholePlan before offset).after := by
  have planned : Planned (.generateAll target) target d (s.wholePlan before offset) :=
    ⟨prepared, read, rfl, declarations_nonempty present, slot⟩
  have wrote := h.wrote planned real accepted
  obtain ⟨writable, writable'⟩ := Setup.writable read wrote input companion
  have ready : Ready target s d before := ⟨prepared, read, apart, aside, writable, writable'⟩
  obtain ⟨last, repeated, finished⟩ := ready.repeated real slot rfl stamp c
  have done := ready.written (Setup.read_plain finished.read) wrote
  refine ⟨last, repeated, finished.read, done.read, ?_⟩
  rw [h.ending_eq accepted, planned.halt]
  rfl

end

/-- Where no write is refused or breaks off, converting all stubs leaves the texts that converting the
first stub again and again leaves; it fails if a call of that repetition fails. -/
theorem batch_is_repetition {target : Target} {s : Setup} {d : Disk} {before : Texts}
    (real : target.dryRun = false) (prepared : target.setup d = .ok s)
    (read : s.read d = .ok before) (apart : d.locate s.input ≠ d.locate s.companion)
    (aside : ∀ p, d.findProject target.input.parent = .ok (some p) →
      d.locate p ≠ d.locate s.input ∧ d.locate p ≠ d.locate s.companion)
    (input : d.Takes s.input) (companion : d.Takes s.companion)
    (accepted : ¬Refused (.generateAll target) target d) (stamp : Nat → Stamp) (c : Console) :
    let all := (Command.generateAll target).run stamp c d
    ∃ last failed texts, Repeated target stamp c d last failed ∧
      (∀ last' failed', Repeated target stamp c d last' failed' → last' = last ∧ failed' = failed) ∧
      s.read last = .ok texts ∧ s.read all.disk = .ok texts ∧
      all.ending = .exit (if failed then 1 else 0) := by
  intro all
  have concluded : Concluded (.generateAll target) target d c all := run_concluded stamp c rfl d
  have same : ∃ last failed texts, SameAsCalls target s stamp c d all last failed texts := by
    by_cases none : stubs before.primary = []
    · exact ⟨_, _, _, concluded.sameAsCalls_idle prepared read accepted none stamp⟩
    · cases slot : enumSlot before.companion s.settings.enumName.text with
      | error e => exact ⟨_, _, _, concluded.sameAsCalls_slotless prepared read none slot stamp⟩
      | ok offset =>
        obtain ⟨last, same⟩ := concluded.sameAsCalls_located real prepared read apart aside input
          companion accepted none slot stamp
        exact ⟨last, _, _, same⟩
  obtain ⟨last, failed, texts, same⟩ := same
  exact ⟨last, failed, texts, same.repeated, fun _ _ => same.repeated.unique, same.calls,
    same.batch, same.ending⟩

def projectRun : Disk × Outcome :=
  let d := (pairDisk (oneStub ++ oneStub) "pub enum Call \x7b\x7d" {}).add [projectFile]
    (.file (encodeUtf8 "[tool.stub_delegator]\nmacro_name = \"m\"\n".toList) {}) ⟨rfl, rfl⟩
  (d, (Command.generateAll pairTarget).run unstamped {} d)

def shortMacro : Identifier := ⟨['m'], by decide⟩

def projectSetup : Setup := { pairSetup with settings := { macroName := shortMacro } }

theorem projectRun_prepared : pairTarget.setup projectRun.1 = .ok projectSetup := by
  have known : (pairTarget.setup projectRun.1).toOption.map
      (fun s => (s.input, s.companion, s.settings)) =
        some (pairSetup.input, pairSetup.companion, projectSetup.settings) := by
    decide +kernel
  cases prepared : pairTarget.setup projectRun.1 with
  | error e =>
    rw [prepared] at known
    cases known
  | ok s =>
    obtain ⟨input, companion, settings⟩ := s
    rw [prepared] at known
    cases known
    rfl

theorem batch_is_repetition_project :
    projectRun.1.findProject pairTarget.input.parent = .ok (some (projectPath [])) ∧
    ∃ last texts, Repeated pairTarget unstamped {} projectRun.1 last false ∧
      projectSetup.read last = .ok texts ∧ projectSetup.read projectRun.2.disk = .ok texts ∧
      projectRun.2.ending = .exit 0 := by
  have place : projectRun.1.findProject pairTarget.input.parent =
      .ok (some (projectPath [])) := rfl
  have aside : ∀ p, projectRun.1.findProject pairTarget.input.parent = .ok (some p) →
      projectRun.1.locate p ≠ projectRun.1.locate projectSetup.input ∧
        projectRun.1.locate p ≠ projectRun.1.locate projectSetup.companion := by
    intro p counts
    cases place.symm.trans counts
    decide +kernel
  have readable : (projectSetup.read projectRun.1).isOk = true := by
    decide +kernel
  have succeeded : projectRun.2.ending = .exit 0 := Ending.eq_exit (by decide +kernel)
  cases read : projectSetup.read projectRun.1 with
  | error e =>
    rw [read] at readable
    cases readable
  | ok before =>
    have accepted : ¬Refused (.generateAll pairTarget) pairTarget projectRun.1 :=
      not_refused_of_writable projectRun_prepared ⟨_, _, _, ⟨rfl, rfl⟩, rfl, fun _ => rfl⟩
        ⟨_, _, _, ⟨rfl, rfl⟩, rfl, fun _ => rfl⟩
    obtain ⟨last, failed, texts, repeated, _, one, all, ending⟩ := batch_is_repetition rfl
      projectRun_prepared read (by decide +kernel) aside (fun _ _ _ => rfl) (fun _ _ _ => rfl)
      accepted unstamped {}
    cases failed with
    | true => cases succeeded.symm.trans ending
    | false => exact ⟨place, last, texts, repeated, one, all, succeeded⟩

end RecorderStubs
