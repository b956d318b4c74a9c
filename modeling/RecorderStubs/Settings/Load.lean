import RecorderStubs.Disk.Basic
import RecorderStubs.Settings.Basic
import RecorderStubs.Toml.Reader

/-! Settings of a project: those given, then those in the nearest project file at or above a
directory, then the defaults. Only the nearest file counts, also when it says nothing or cannot be
read; where it cannot be asked whether one is there, there are no settings. -/
namespace RecorderStubs

def projectFile : String := "pyproject.toml"

inductive SettingsError where
  | nullInPath
  | unsearched (error : DiskError)
  | undecodable (error : DecodeError)
  | longInteger (digits : Nat)
  | tooDeep
  | toolNotTable (value : Toml.Value)
  | sectionNotTable (value : Toml.Value)
  | faults (faults : List Fault)

/-- What a value is called when a table was expected. -/
def Toml.Value.kind : Toml.Value → String
  | .string _ => "str"
  | .integer _ => "int"
  | .float _ => "float"
  | .boolean _ => "bool"
  | .moment .date _ => "datetime.date"
  | .moment .time _ => "datetime.time"
  | .moment .dateTime _ => "datetime.datetime"
  | .array _ => "list"
  | .table _ => "dict"

def longIntegerMessage (digits : Nat) : String :=
  s!"Exceeds the limit ({digitLimit} digits) for integer string conversion: value has {digits} digits"
    ++ "; use sys.set_int_max_str_digits() to increase the limit"

def SettingsError.message : SettingsError → String
  | .nullInPath => nullByteMessage
  | .unsearched e => e.message
  | .undecodable e => e.message
  | .longInteger digits => longIntegerMessage digits
  | .tooDeep => "maximum recursion depth exceeded"
  | .toolNotTable v => s!"'{v.kind}' object has no attribute 'get'"
  | .sectionNotTable v => s!"'{v.kind}' object has no attribute 'items'"
  | .faults fs => faultsHeadline fs

/-- The place of a path by name alone. -/
def Disk.resolve (d : Disk) (p : Path) : Location := p.parts.foldl Location.step (d.start p.root)

def projectPath (directory : Location) : Path := ⟨.slash, directory ++ [projectFile]⟩

def Disk.firstFile (d : Disk) : List Path → Except DiskError (Option Path)
  | [] => .ok none
  | p :: rest =>
    match d.isFile p with
    | .error e => .error e
    | .ok true => .ok (some p)
    | .ok false => d.firstFile rest

def Disk.findProject (d : Disk) (directory : Path) : Except DiskError (Option Path) :=
  d.firstFile ((d.resolve directory).upwards.map projectPath)

/-- What the nearest project file holds; one that cannot be read is given up. -/
def Disk.projectBytes (d : Disk) (directory : Path) : Except DiskError (Option Bytes) :=
  (d.findProject directory).map fun found => found.bind fun p => (d.read p).toOption

def rawOf : Toml.Value → RawValue
  | .string t => .string (String.ofList t)
  | _ => .other

def rawSettings (t : Toml.Table) : RawSettings :=
  let get (f : Field) := (t.lookup f.key.toList).map rawOf
  ⟨get .companionFile, get .enumName, get .macroName⟩

def settingsIn (document : Toml.Table) : Except SettingsError RawSettings :=
  match document.lookup "tool".toList with
  | none => .ok {}
  | some (.table tool) =>
    match tool.lookup "stub_delegator".toList with
    | none => .ok {}
    | some (.table entries) => .ok (rawSettings entries)
    | some v => .error (.sectionNotTable v)
  | some v => .error (.toolNotTable v)

/-- The settings of a project file; one that is not well formed has none. -/
def readProject (room : Nat) (bytes : Bytes) : Except SettingsError RawSettings :=
  match Encoding.utf8.decode bytes with
  | .error e => .error (.undecodable e)
  | .ok t =>
    match Toml.read room t with
    | .error .malformed => .ok {}
    | .error (.longInteger digits) => .error (.longInteger digits)
    | .error .tooDeep => .error .tooDeep
    | .ok document => settingsIn document

/-- What the project files say at and above a directory. -/
def Disk.projectSettings (d : Disk) (directory : Path) : Except SettingsError RawSettings :=
  if directory.hasNull then .error .nullInPath
  else
    match d.projectBytes directory with
    | .error e => .error (.unsearched e)
    | .ok none => .ok {}
    | .ok (some bytes) => readProject d.limits.nesting bytes

def Settings.load (d : Disk) (directory : Path) (given : RawSettings) :
    Except SettingsError Settings :=
  match d.projectSettings directory with
  | .error e => .error e
  | .ok raw =>
    match Settings.ofRaw (given.orElse raw) with
    | .ok s => .ok s
    | .error fs => .error (.faults fs)

end RecorderStubs
