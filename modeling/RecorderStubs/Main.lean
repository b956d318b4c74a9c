import RecorderStubs.Program

/-! The command line. The files that a command may touch are copied from the machine to a disk,
the program runs on it, and what changed is written back. -/
namespace RecorderStubs.Machine

def pathOf (l : Location) : String := "/" ++ "/".intercalate l

def succeeds (action : IO α) : IO Bool := do
  return (← action.toBaseIO).toOption.isSome

def denialUnless (allowed : Bool) : Option Denial := if allowed then none else some .permission

def nodeAt? (l : Location) : IO (Option Node) := do
  let name := pathOf l
  let .ok real ← (IO.FS.realPath name).toBaseIO | return none
  if ← real.isDir then return some (.directory {})
  let content ← (IO.FS.readBinFile name).toBaseIO
  let writable ← succeeds (IO.FS.Handle.mk name .append)
  let access : Access :=
    { read := denialUnless content.toOption.isSome, write := denialUnless writable }
  return some (.file ((content.toOption.map (·.toList)).getD []) access)

def copyPath (d : Disk) (p : Path) : IO Disk :=
  (List.range p.parts.length).foldlM (fun d n => do
    match d.locate ⟨p.root, p.parts.take (n + 1)⟩ with
    | .error _ => return d
    | .ok l =>
      match ← nodeAt? l with
      | none => return d
      | some node => return (d.create l node).toOption.getD d) d

def workplace : IO Disk := do
  let here := (← IO.currentDir).components.filter (fun name => name != "" && name != "/")
  let d ← copyPath .empty ⟨.slash, here⟩
  if placed : d.tree.isDirectory here then return d.workIn here placed else return d

def diskFor (command : Command) : IO Disk := do
  let d ← copyPath (← workplace) command.input
  let projects := (d.resolve command.input.parent).upwards.map projectPath
  let d ← projects.foldlM copyPath d
  (command.others d).foldlM copyPath d

def writeBack (before after : Disk) : IO Unit :=
  after.tree.nodes.forM fun (l, n) =>
    if before.tree.nodes.contains (l, n) then pure ()
    else
      match n with
      | .directory _ => IO.FS.createDirAll (pathOf l)
      | .file bytes _ => IO.FS.writeBinFile (pathOf l) ⟨bytes.toArray⟩

def plainText : Entry → String
  | .log level message => level.label ++ " " ++ message
  | .print text => text
  | .table title headers rows => "\n".intercalate (title :: (headers :: rows).map (" | ".intercalate ·))
  | .diff text => String.ofList text

def identifiers : Nat := 0x100000000000000000000000000000000

def newStamps : IO (Nat → Stamp) := do
  let first ← IO.rand 0 (identifiers - 1)
  let time ← IO.monoMsNow
  let name (n : Nat) := String.ofList (hexDigits 32 ((first + n) % identifiers))
  return fun n => ⟨name n, s!"{time}e-3"⟩

def usage : String :=
  "usage: " ++ CommandLine.programName ++ " [-h] [--version] [-v] command path [options]"

def finish (before : Disk) (o : Outcome) : IO UInt32 := do
  writeBack before o.disk
  o.console.entries.forM (fun e => IO.println (plainText e))
  match o.ending with
  | .exit code => return code.toUInt32
  | .broken e =>
    IO.eprintln e.message
    return 1

end RecorderStubs.Machine

open RecorderStubs in
def main (args : List String) : IO UInt32 := do
  let disk ←
    match CommandLine.read args with
    | .ok (.run _ command) => Machine.diskFor command
    | _ => pure .empty
  match respond (← Machine.newStamps) args disk with
  | .help =>
    IO.println Machine.usage
    return 0
  | .version text =>
    IO.print text
    return 0
  | .usage e =>
    IO.eprintln Machine.usage
    IO.eprintln e.line
    return 2
  | .outcome o => Machine.finish disk o
