import RecorderStubs.Command.Setup
import RecorderStubs.Journal.Json

/-! Converts the stub at a cursor. The companion is saved as soon as it is edited; the input is
written afterwards, and only if the conversion succeeded. -/
namespace RecorderStubs

def writeTrace (stamp : Nat → Stamp) (p : Path) (events : List Event) (d : Disk) :
    Except DiskError Unit × Disk :=
  match d.ensureDirectories p.parent with
  | (.error e, d) => (.error e, d)
  | (.ok (), d) => d.write p (encodeUtf8 (eventsJson stamp events))

/-- Writes the trace that was asked for and goes on, also when it could not be written. -/
def saveTrace (stamp : Nat → Stamp) (trace : Option Path) (events : List Event) (c : Console)
    (d : Disk) (go : Console → Disk → Outcome) : Outcome :=
  match trace with
  | none => go c d
  | some p =>
    match writeTrace stamp p events d with
    | (.ok (), d) => go (c.info s!"Trace saved to [path]{p.text}[/path]") d
    | (.error e, d) =>
      if e.cause = .nullByte then (Stop.broken (.path e)).outcome c d
      else go (c.error s!"Failed to write trace: {e.message}") d

def leftUnchanged (input : Path) : String :=
  s!"{input.text} was left unchanged on disk; the companion file may already be modified."

namespace Setup

/-- The session that converts the stub at an offset; a dry run leaves the companion file alone. -/
def converted (s : Setup) (dryRun : Bool) (before : Texts) (offset : Int) (d : Disk) :
    Report × Session :=
  let companion := if dryRun then s.draft before.companion else .file { path := s.companion }
  (s.session before.primary companion d).run offset

/-- What is left to do after a run: to say what failed, to show what changed, or to write the input
and say so. -/
def conclude (s : Setup) (dryRun : Bool) (before : Texts) (report : Report) (after : Texts)
    (c : Console) (d : Disk) : Outcome :=
  match report.result with
  | .error f =>
    let o := (Refusal.conversion f).outcome c d
    if report.stage.primaryModified then
      { o with console := o.console.warning (leftUnchanged s.input) }
    else o
  | .ok _ =>
    if dryRun then ⟨.exit 0, s.showDiffs before after c, d⟩
    else
      match d.writeText s.input .utf8 after.primary with
      | (.error e, d) => (Refusal.unsaved s.input e).outcome c d
      | (.ok (), d) =>
        let name := String.ofList (report.name.getD [])
        let said := s!"Generated [code]{name}[/code] in [path]{s.input.text}[/path]"
        ⟨.exit 0, c.success (said ++ s!" and [path]{s.companion.text}[/path]"), d⟩

def convertAt (s : Setup) (stamp : Nat → Stamp) (dryRun : Bool) (trace : Option Path)
    (before : Texts) (offset : Int) (c : Console) (d : Disk) : Outcome :=
  let (report, done) := s.converted dryRun before offset d
  saveTrace stamp trace report.events (c.notes done.notes) done.desk.disk
    (s.conclude dryRun before report done.desk.texts)

end Setup

def generate (stamp : Nat → Stamp) (t : Target) (cursor : Cursor) (trace : Option Path)
    (c : Console) (d : Disk) : Outcome :=
  t.begin c d fun s before =>
    match cursor.locate before.primary with
    | .error e => (Stop.ofCursor e).outcome c d
    | .ok offset =>
      let length := before.primary.length
      if offset < 0 ∨ length < offset then (Refusal.outside offset s.input length).outcome c d
      else s.convertAt stamp t.dryRun trace before offset c d

end RecorderStubs
