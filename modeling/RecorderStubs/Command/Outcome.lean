import RecorderStubs.Command.Basic
import RecorderStubs.Console
import RecorderStubs.Failure
import RecorderStubs.Settings.Load

/-! How a command ends, what it said and what it left on the disk. A refusal is said and ends the
command with exit code one. Some faults are not handled at all and break the command off: settings
that are no table, nested too deeply or not to be searched for, a blank where a number is needed,
and paths that cannot be asked for. -/
namespace RecorderStubs

inductive Refusal where
  | noInput (input : Path)
  | settings (error : SettingsError)
  | noCompanion (companion : Path)
  | unreadable (error : FileError)
  | cursor (error : CursorError)
  | outside (offset : Int) (input : Path) (length : Nat)
  | conversion (failure : Failure)
  | unsaved (input : Path) (error : FileError)
  | incomplete
  | unwritten (error : FileError)
  | unscanned (input : Path) (error : FileError)

def Refusal.message : Refusal → String
  | noInput p => s!"Input not found: {p.text}"
  | settings e => s!"Invalid configuration: {e.message}"
  | noCompanion p => s!"Companion file not found: {p.text}"
  | unreadable e => s!"Could not read input: {e.message}"
  | cursor e => e.message
  | outside n p length => s!"Offset {n} is outside {p.text} ({length} characters)."
  | conversion f => s!"{f.kind.label}: {f.message}"
  | unsaved p e => s!"Companion updated but {p.text} could not be saved: {e.message}"
  | incomplete => "Nothing was written because at least one stub failed."
  | unwritten e => s!"Failed to write results: {e.message}"
  | unscanned p e => s!"Could not read {p.text}: {e.message}"

inductive Breakdown where
  | settings (error : SettingsError)
  | blankOffset
  | blankColumn
  | path (error : DiskError)

def Breakdown.message : Breakdown → String
  | settings e => e.message
  | blankOffset => "'<=' not supported between instances of 'int' and 'list'"
  | blankColumn => "'<' not supported between instances of 'list' and 'int'"
  | path e => e.message

inductive Stop where
  | refused (refusal : Refusal)
  | broken (breakdown : Breakdown)

namespace Stop

def ofSettings : SettingsError → Stop
  | .unsearched e => .broken (.path e)
  | .tooDeep => .broken (.settings .tooDeep)
  | .toolNotTable v => .broken (.settings (.toolNotTable v))
  | .sectionNotTable v => .broken (.settings (.sectionNotTable v))
  | e => .refused (.settings e)

def ofCursor : CursorFault → Stop
  | .range e => .refused (.cursor e)
  | .blankOffset => .broken .blankOffset
  | .blankColumn => .broken .blankColumn

/-- A file error, which is a refusal unless the path could not be asked for. -/
def ofFile (refusal : FileError → Refusal) : FileError → Stop
  | .disk ⟨.nullByte, p⟩ => .broken (.path ⟨.nullByte, p⟩)
  | e => .refused (refusal e)

end Stop

inductive Ending where
  | exit (code : Nat)
  | broken (breakdown : Breakdown)

structure Outcome where
  ending : Ending
  console : Console
  disk : Disk

def Stop.outcome (s : Stop) (c : Console) (d : Disk) : Outcome :=
  match s with
  | .refused r => ⟨.exit 1, c.error r.message, d⟩
  | .broken b => ⟨.broken b, c, d⟩

def Refusal.outcome (r : Refusal) (c : Console) (d : Disk) : Outcome := (Stop.refused r).outcome c d

end RecorderStubs
