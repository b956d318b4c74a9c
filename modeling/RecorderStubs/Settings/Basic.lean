import RecorderStubs.Disk.Path
import RecorderStubs.Text.Blank
import RecorderStubs.Text.Identifier

/-! Settings of a generator. Each comes as a raw value, which must be a string; the names must be
identifiers once the blanks around them are gone. All faults are reported, field by field. -/
namespace RecorderStubs

structure Identifier where
  text : Text
  valid : isIdentifier text = true
deriving DecidableEq, Repr

def Identifier.of? (t : Text) : Option Identifier :=
  if h : isIdentifier t = true then some ⟨t, h⟩ else none

def Identifier.usualEnum : Identifier := ⟨['C', 'a', 'l', 'l'], by decide⟩

def Identifier.usualMacro : Identifier := ⟨['s', 'i', 'm', 'p', 'l', 'e'], by decide⟩

structure Settings where
  companionFile : String := "call.rs"
  enumName : Identifier := .usualEnum
  macroName : Identifier := .usualMacro
deriving DecidableEq, Repr

def Settings.companionPath (s : Settings) (primary : Path) : Path :=
  primary.parent.join (.ofString s.companionFile)

inductive RawValue where
  | string (s : String)
  | other
deriving DecidableEq, Repr

structure RawSettings where
  companionFile : Option RawValue := none
  enumName : Option RawValue := none
  macroName : Option RawValue := none
deriving DecidableEq, Repr

/-- Field by field, the first unless it is missing. -/
def RawSettings.orElse (a b : RawSettings) : RawSettings :=
  ⟨a.companionFile.or b.companionFile, a.enumName.or b.enumName, a.macroName.or b.macroName⟩

inductive Field where
  | companionFile
  | enumName
  | macroName
deriving DecidableEq, Repr

def Field.key : Field → String
  | companionFile => "companion_file"
  | enumName => "enum_name"
  | macroName => "macro_name"

inductive FaultReason where
  | notString
  | notIdentifier (value : String)
deriving DecidableEq, Repr

structure Fault where
  field : Field
  reason : FaultReason
deriving DecidableEq, Repr

def FaultReason.label : FaultReason → String
  | notString => "string_type"
  | notIdentifier _ => "value_error"

def FaultReason.message : FaultReason → String
  | notString => "Input should be a valid string"
  | notIdentifier value => "Value error, '" ++ value ++ "' is not a valid identifier"

def faultsHeadline (faults : List Fault) : String :=
  let noun := if faults.length = 1 then "error" else "errors"
  s!"{faults.length} validation {noun} for GeneratorConfig"

def readFile (default : String) : Option RawValue → Except FaultReason String
  | none => .ok default
  | some (.string s) => .ok s
  | some .other => .error .notString

def readIdentifier (default : Identifier) : Option RawValue → Except FaultReason Identifier
  | none => .ok default
  | some (.string s) =>
    match Identifier.of? (trim s.toList) with
    | some i => .ok i
    | none => .error (.notIdentifier s)
  | some .other => .error .notString

def faultOf (field : Field) : Except FaultReason α → List Fault
  | .ok _ => []
  | .error reason => [⟨field, reason⟩]

def Settings.ofRaw (raw : RawSettings) : Except (List Fault) Settings :=
  let base : Settings := {}
  let file := readFile base.companionFile raw.companionFile
  let enum := readIdentifier base.enumName raw.enumName
  let call := readIdentifier base.macroName raw.macroName
  match file, enum, call with
  | .ok file, .ok enum, .ok call => .ok ⟨file, enum, call⟩
  | _, _, _ =>
    .error (faultOf .companionFile file ++ faultOf .enumName enum ++ faultOf .macroName call)

end RecorderStubs
