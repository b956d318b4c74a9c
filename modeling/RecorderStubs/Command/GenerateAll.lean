import RecorderStubs.Command.Setup

/-! Converts all stubs of a file. The edits are made on copies in memory, and the files are written,
the companion first, only when every stub was converted. -/
namespace RecorderStubs

def Report.row (r : Report) : List String :=
  [((r.name.map String.ofList).getD "?"), if r.succeeded then "✅ Generated" else "❌ Failed",
    "; ".intercalate r.errors]

def reportTable (rs : List Report) : Entry :=
  .table "Generation Report" ["Method", "Status", "Issues"] (rs.map Report.row)

namespace Setup

def write (s : Setup) (after : Texts) (d : Disk) : Except FileError Unit × Disk :=
  match d.writeText s.companion .utf8 after.companion with
  | (.error e, d) => (.error e, d)
  | (.ok (), d) => d.writeText s.input .utf8 after.primary

def convertedAll (s : Setup) (before : Texts) (d : Disk) : List Report × Session :=
  (s.session before.primary (s.draft before.companion) d).runAll

def convertAll (s : Setup) (dryRun : Bool) (before : Texts) (c : Console) (d : Disk) : Outcome :=
  let (reports, done) := s.convertedAll before d
  let c := c.notes done.notes
  if reports.isEmpty then ⟨.exit 0, c.warning s!"No stubs found in {s.input.text}", d⟩
  else
    let c := c.add (reportTable reports)
    let after := done.desk.texts
    if !reports.all Report.succeeded then Refusal.incomplete.outcome c d
    else if dryRun then ⟨.exit 0, s.showDiffs before after c, d⟩
    else
      match s.write after d with
      | (.error e, d) => (Refusal.unwritten e).outcome c d
      | (.ok (), d) =>
        let said := s!"Generated {reports.length} method(s) in [path]{s.input.text}[/path]"
        ⟨.exit 0, c.success said, d⟩

end Setup

def generateAll (t : Target) (c : Console) (d : Disk) : Outcome :=
  t.begin c d (fun s before => s.convertAll t.dryRun before c d)

end RecorderStubs
