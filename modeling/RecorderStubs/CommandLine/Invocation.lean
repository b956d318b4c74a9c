import RecorderStubs.Command.Basic
import RecorderStubs.CommandLine.Reading

/-! What the program was asked to do. Options take effect in the order in which they stand, so the
first call for help, and the first fault, decide. -/
namespace RecorderStubs.CommandLine

def programName : String := "stub-delegator"
def programVersion : String := "0.1.0"

def help : OptionSpec := ⟨["-h", "--help"], false⟩
def version : OptionSpec := ⟨["--version"], false⟩
def verbose : OptionSpec := ⟨["-v", "--verbose"], false⟩
def line : OptionSpec := ⟨["--line"], true⟩
def offset : OptionSpec := ⟨["--offset"], true⟩
def column : OptionSpec := ⟨["--column"], true⟩
def jsonTrace : OptionSpec := ⟨["--json-trace"], true⟩
def companion : OptionSpec := ⟨["--companion"], true⟩
def enumName : OptionSpec := ⟨["--enum"], true⟩
def macroName : OptionSpec := ⟨["--macro"], true⟩
def dryRun : OptionSpec := ⟨["--dry-run"], false⟩

def mainTable : Table := ⟨programName, [help, version, verbose], true⟩

inductive CommandName where
  | generate
  | generateAll
  | scan
deriving DecidableEq, Repr

namespace CommandName

def all : List CommandName := [generate, generateAll, scan]

def text : CommandName → String
  | generate => "generate"
  | generateAll => "generate-all"
  | scan => "scan"

def ofText? (s : String) : Option CommandName := all.find? (fun c => c.text == s)

def options : CommandName → List OptionSpec
  | generate => [help, line, offset, column, jsonTrace, companion, enumName, macroName, dryRun]
  | generateAll => [help, companion, enumName, macroName, dryRun]
  | scan => [help]

def table (c : CommandName) : Table := ⟨programName ++ " " ++ c.text, c.options, false⟩

end CommandName

inductive Invocation where
  | help
  | version
  | run (verbose : Bool) (command : Command)
deriving DecidableEq, Repr

structure UsageError where
  program : String
  message : String
deriving DecidableEq, Repr

def UsageError.line (e : UsageError) : String := e.program ++ ": error: " ++ e.message

/-- The options of a command as far as they have been read. A number may be given blank. -/
structure Options where
  path : Option String := none
  line : Option Number := none
  offset : Option Number := none
  column : Option Number := none
  trace : Option String := none
  companion : Option String := none
  names : RawSettings := {}
  dryRun : Bool := false

inductive Halt where
  | help
  | version
  | fault (message : String)

def readNumber (o : OptionSpec) : Option String → Except Halt Number
  | none => .ok none
  | some text =>
    match readInteger? text.toList with
    | some n => .ok (some n)
    | none => .error (.fault (argumentFault o ("invalid int value: " ++ quotedString text)))

/-- A name given blank is no string. -/
def rawName : Option String → RawValue
  | none => .other
  | some text => .string text

def conflict (o other : OptionSpec) : Halt :=
  .fault (argumentFault o ("not allowed with argument " ++ other.label))

def Options.take (o : Options) : Given → Except Halt Options
  | .words words => .ok { o with path := words.head? }
  | .flag spec => if spec = help then .error .help else .ok { o with dryRun := true }
  | .value spec text =>
    if spec = CommandLine.line then
      match readNumber spec text, o.offset with
      | .error e, _ => .error e
      | .ok _, some _ => .error (conflict spec CommandLine.offset)
      | .ok n, none => .ok { o with line := some n }
    else if spec = CommandLine.offset then
      match readNumber spec text, o.line with
      | .error e, _ => .error e
      | .ok _, some _ => .error (conflict spec CommandLine.line)
      | .ok n, none => .ok { o with offset := some n }
    else if spec = CommandLine.column then
      (readNumber spec text).map (fun n => { o with column := some n })
    else if spec = jsonTrace then .ok { o with trace := text }
    else if spec = CommandLine.companion then .ok { o with companion := text }
    else if spec = enumName then .ok { o with names := { o.names with enumName := some (rawName text) } }
    else .ok { o with names := { o.names with macroName := some (rawName text) } }

def Options.takeAll (o : Options) (given : List Given) : Except Halt Options :=
  given.foldlM Options.take o

def requiredFault (name : String) : Halt :=
  .fault ("the following arguments are required: " ++ name)

def Options.target (o : Options) (path : String) : Target :=
  ⟨.ofString path, o.companion.map Path.ofString, o.names, o.dryRun⟩

/-- A column needs a line, which is found out only after all else is in order. -/
inductive Request where
  | command (command : Command)
  | columnWithoutLine

def CommandName.request (name : CommandName) (o : Options) : Except Halt Request :=
  match o.path with
  | none => .error (requiredFault "path")
  | some path =>
    match name with
    | .scan => .ok (.command (.scan (.ofString path)))
    | .generateAll => .ok (.command (.generateAll (o.target path)))
    | .generate =>
      let trace := o.trace.map Path.ofString
      match o.line, o.offset, o.column with
      | some n, _, column => .ok (.command (.generate (o.target path) (.line n column) trace))
      | none, some n, none => .ok (.command (.generate (o.target path) (.offset n) trace))
      | none, some _, some _ => .ok .columnWithoutLine
      | none, none, _ =>
        .error (.fault s!"one of the arguments {line.label} {offset.label} is required")

/-- Reads the arguments of a command; what it does not know is left over. -/
def CommandName.read (name : CommandName) (args : List String) :
    Except Halt (Request × List String) :=
  let reading := name.table.read args
  match ({} : Options).takeAll reading.given, reading.fault with
  | .error h, _ => .error h
  | .ok _, some message => .error (.fault message)
  | .ok o, none => (name.request o).map (fun r => (r, reading.extras))

def invalidChoice (s : String) : String :=
  let known := ", ".intercalate (CommandName.all.map (fun c => quotedString c.text))
  "argument command: invalid choice: " ++ quotedString s ++ " (choose from " ++ known ++ ")"

def Halt.result (program : String) : Halt → Except UsageError Invocation
  | .help => .ok .help
  | .version => .ok .version
  | .fault message => .error ⟨program, message⟩

structure MainOptions where
  verbose : Bool := false
  request : Option (Request × List String) := none

def MainOptions.take (o : MainOptions) : Given → Except (String × Halt) MainOptions
  | .flag spec =>
    if spec = help then .error (programName, .help)
    else if spec = CommandLine.version then .error (programName, .version)
    else .ok { o with verbose := true }
  | .value _ _ => .ok o
  | .words words =>
    match CommandName.ofText? (words.headD "") with
    | none => .error (programName, .fault (invalidChoice (words.headD "")))
    | some name =>
      match name.read words.tail with
      | .error h => .error (name.table.program, h)
      | .ok r => .ok { o with request := some r }

def read (args : List String) : Except UsageError Invocation :=
  let reading := mainTable.read args
  let fault (message : String) : Except UsageError Invocation := .error ⟨programName, message⟩
  match reading.given.foldlM MainOptions.take {}, reading.fault with
  | .error (program, h), _ => h.result program
  | .ok _, some message => fault message
  | .ok o, none =>
    match o.request with
    | none => (requiredFault "command").result programName
    | some (request, left) =>
      match reading.extras ++ left, request with
      | [], .command c => .ok (.run o.verbose c)
      | [], .columnWithoutLine => fault "--column requires --line"
      | extras, _ => fault ("unrecognized arguments: " ++ " ".intercalate extras)

end RecorderStubs.CommandLine
