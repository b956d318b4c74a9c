import RecorderStubs.Command.Generate
import RecorderStubs.Command.GenerateAll
import RecorderStubs.Command.Scan
import RecorderStubs.CommandLine.Invocation

/-! The program: a list of arguments and a disk give what is answered. -/
namespace RecorderStubs

def Command.run (stamp : Nat → Stamp) (c : Console) (d : Disk) : Command → Outcome
  | .generate target cursor trace => RecorderStubs.generate stamp target cursor trace c d
  | .generateAll target => RecorderStubs.generateAll target c d
  | .scan input => RecorderStubs.scan input c d

def Command.input : Command → Path
  | .generate target _ _ => target.input
  | .generateAll target => target.input
  | .scan input => input

def Command.others (d : Disk) : Command → List Path
  | .generate target _ trace => companionOf target ++ trace.toList
  | .generateAll target => companionOf target
  | .scan _ => []
where
  companionOf (target : Target) : List Path :=
    (target.settings d).toOption.toList.map target.companionPath

inductive Response where
  | help
  | version (text : String)
  | usage (error : CommandLine.UsageError)
  | outcome (outcome : Outcome)

open CommandLine in
def respond (stamp : Nat → Stamp) (args : List String) (d : Disk) : Response :=
  match CommandLine.read args with
  | .error e => .usage e
  | .ok .help => .help
  | .ok .version => .version s!"{programName} {programVersion}\n"
  | .ok (.run verbose command) => .outcome (command.run stamp { verbose := verbose } d)

end RecorderStubs
