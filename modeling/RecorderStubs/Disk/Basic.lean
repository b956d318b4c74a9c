import RecorderStubs.Disk.Path
import RecorderStubs.Disk.Tree

/-! A disk as a value: its tree seen from a working directory, what the system allows, and how much
of a write is taken. A file is emptied when it is opened for writing, before its text is encoded and
before a byte is written, so a write that fails later leaves a first part of the bytes. -/
namespace RecorderStubs

inductive DiskCause where
  | notFound
  | denied (denial : Denial)
  | fileExists
  | notDirectory
  | isDirectory
  | nameTooLong
  | nullByte
deriving DecidableEq, Repr

namespace DiskCause

/-- The number and the text by which the system names a cause. A path with a null character is
refused before the system sees it. -/
def system? : DiskCause → Option (Nat × String)
  | notFound => some (2, "No such file or directory")
  | denied denial => some denial.system
  | fileExists => some (17, "File exists")
  | notDirectory => some (20, "Not a directory")
  | isDirectory => some (21, "Is a directory")
  | nameTooLong => some (36, "File name too long")
  | nullByte => none

/-- Whether all that follows is that nothing stands there. -/
def isAbsence : DiskCause → Bool
  | notFound => true
  | notDirectory => true
  | nullByte => true
  | _ => false

end DiskCause

def nullByteMessage : String := "embedded null byte"

/-- A failure, with the path that was asked for; there is none once a file is open. -/
structure DiskError where
  cause : DiskCause
  path : Option Path
deriving DecidableEq, Repr

def DiskError.message (e : DiskError) : String :=
  match e.cause.system? with
  | none => nullByteMessage
  | some (number, text) =>
    s!"[Errno {number}] {text}" ++
      match e.path with
      | none => ""
      | some p => ": " ++ quotedString p.text

inductive FileError where
  | disk (error : DiskError)
  | decode (error : DecodeError)
  | encode (error : EncodeError)
deriving DecidableEq, Repr

def FileError.message : FileError → String
  | .disk e => e.message
  | .decode e => e.message
  | .encode e => e.message

/-- How many bytes a name and a path may have, and how deep values may nest that are read. -/
structure Limits where
  name : Nat := 255
  path : Nat := 4095
  nesting : Nat := 986
deriving DecidableEq, Repr

structure ShortWrite where
  taken : Nat
  denial : Denial
deriving DecidableEq, Repr

/-- The working directory is there. The storage tells of each write whether it breaks off. -/
@[ext]
structure Disk where
  tree : Tree
  here : Location
  placed : tree.isDirectory here = true
  limits : Limits := {}
  storage : Location → Bytes → Option ShortWrite := fun _ _ => none

namespace Disk

def empty : Disk where
  tree := .root
  here := []
  placed := rfl

def node? (d : Disk) (l : Location) : Option Node := d.tree.node? l

/-- The disk seen from another directory. -/
def workIn (d : Disk) (l : Location) (placed : d.tree.isDirectory l = true) : Disk :=
  { d with here := l, placed }

def alter (d : Disk) (l : Location) (f : Node → Node)
    (kept : ∀ n, (f n).isDirectory = n.isDirectory) : Disk :=
  { d with
    tree := d.tree.alter l f kept
    placed := (Nodes.isDirectory_alter kept).trans d.placed }

def overwrite (d : Disk) (l : Location) (bytes : Bytes) : Disk :=
  d.alter l (.withBytes bytes) (Node.isDirectory_withBytes bytes)

def restrict (d : Disk) (l : Location) (access : Access) : Disk :=
  d.alter l (.withAccess access) (Node.isDirectory_withAccess access)

def add (d : Disk) (l : Location) (n : Node) (vacant : d.tree.Vacant l) : Disk :=
  { d with
    tree := d.tree.add l n vacant
    placed := Nodes.isDirectory_concat n d.placed }

def erase (d : Disk) (l : Location) (file : d.tree.isDirectory l = false) : Disk :=
  { d with
    tree := d.tree.erase l file
    placed := (Nodes.isDirectory_erase file).trans d.placed }

/-- Why nothing may be made in a directory or taken away from it. -/
def sealed? (d : Disk) (l : Location) : Option Denial := (d.node? l).bind (·.access.write)

def create (d : Disk) (l : Location) (n : Node) : Except DiskCause Disk :=
  if (d.node? l).isSome then .error .fileExists
  else if vacant : d.tree.Vacant l then
    match d.sealed? l.dropLast with
    | some denial => .error (.denied denial)
    | none => .ok (d.add l n vacant)
  else .error .notFound

def files (d : Disk) : List (String × Bytes) :=
  d.tree.nodes.filterMap fun
    | (l, .file bytes _) => (d.here.isPrefixOf? l).map (fun names => ("/".intercalate names, bytes))
    | _ => none

def start (d : Disk) : Root → Location
  | .here => d.here
  | _ => []

def enter (d : Disk) (l : Location) (part : String) : Except DiskCause Location :=
  match d.node? l with
  | none => .error .notFound
  | some (.file _ _) => .error .notDirectory
  | some (.directory access) =>
    match access.search with
    | some denial => .error (.denied denial)
    | none => if d.limits.name < part.utf8ByteSize then .error .nameTooLong else .ok (l.step part)

def locate (d : Disk) (p : Path) : Except DiskCause Location :=
  if p.hasNull then .error .nullByte
  else if d.limits.path < p.text.utf8ByteSize then .error .nameTooLong
  else p.parts.foldlM d.enter (d.start p.root)

def find? (d : Disk) (p : Path) : Option Node :=
  match d.locate p with
  | .ok l => d.node? l
  | .error _ => none

/-- Whether a file stands at a path. Where the walk is stopped by more than an absence, the question
fails. -/
def isFile (d : Disk) (p : Path) : Except DiskError Bool :=
  match d.locate p with
  | .error cause => if cause.isAbsence then .ok false else .error ⟨cause, some p⟩
  | .ok l => .ok ((d.node? l).any (!·.isDirectory))

def isDirectory (d : Disk) (p : Path) : Bool := (d.find? p).any Node.isDirectory

def read (d : Disk) (p : Path) : Except DiskError Bytes :=
  match d.locate p with
  | .error cause => .error ⟨cause, some p⟩
  | .ok l =>
    match d.node? l with
    | none => .error ⟨.notFound, some p⟩
    | some n =>
      match n.access.read, n with
      | some denial, _ => .error ⟨.denied denial, some p⟩
      | none, .directory _ => .error ⟨.isDirectory, some p⟩
      | none, .file bytes _ => .ok bytes

/-- Opens a file to write it anew: it is emptied, or made where none is. -/
def truncate (d : Disk) (p : Path) : Except DiskError (Location × Disk) :=
  match d.locate p with
  | .error cause => .error ⟨cause, some p⟩
  | .ok l =>
    match d.node? l with
    | some (.directory _) => .error ⟨.isDirectory, some p⟩
    | some (.file _ access) =>
      match access.write with
      | some denial => .error ⟨.denied denial, some p⟩
      | none => .ok (l, d.overwrite l [])
    | none =>
      match d.create l (.file [] {}) with
      | .error cause => .error ⟨cause, some p⟩
      | .ok d => .ok (l, d)

def fill (d : Disk) (l : Location) (bytes : Bytes) : Except DiskError Unit × Disk :=
  match d.storage l bytes with
  | none => (.ok (), d.overwrite l bytes)
  | some short => (.error ⟨.denied short.denial, none⟩, d.overwrite l (bytes.take short.taken))

def write (d : Disk) (p : Path) (bytes : Bytes) : Except DiskError Unit × Disk :=
  match d.truncate p with
  | .error e => (.error e, d)
  | .ok (l, opened) => opened.fill l bytes

def readText (d : Disk) (p : Path) (encoding : Encoding) : Except FileError Text :=
  match d.read p with
  | .error e => .error (.disk e)
  | .ok bytes =>
    match encoding.decode bytes with
    | .error e => .error (.decode e)
    | .ok t => .ok (unifyNewlines t)

def writeText [Coded α] (d : Disk) (p : Path) (encoding : Encoding) (t : List α) :
    Except FileError Unit × Disk :=
  match d.truncate p with
  | .error e => (.error (.disk e), d)
  | .ok (l, opened) =>
    match encoding.encode t with
    | .error e => (.error (.encode e), opened)
    | .ok bytes =>
      match opened.fill l bytes with
      | (.error e, d) => (.error (.disk e), d)
      | (.ok (), d) => (.ok (), d)

def makeDirectory (d : Disk) (p : Path) : Except DiskError Disk :=
  match d.locate p with
  | .error cause => .error ⟨cause, some p⟩
  | .ok l =>
    match d.create l (.directory {}) with
    | .error cause => .error ⟨cause, some p⟩
    | .ok d => .ok d

/-- As `makeDirectory`, but a directory may be there already. -/
def ensureDirectory (d : Disk) (p : Path) : Except DiskError Disk :=
  match d.makeDirectory p with
  | .ok d => .ok d
  | .error e => if e.cause ≠ .notFound && d.isDirectory p then .ok d else .error e

def ensured (d : Disk) (p : Path) : Except DiskError Unit × Disk :=
  match d.ensureDirectory p with
  | .ok d => (.ok (), d)
  | .error e => (.error e, d)

/-- Makes a directory and the missing ones above it; the parts come last first. Directories that
were made stay when a later one fails. -/
def ensureParts (d : Disk) (root : Root) : List String → Except DiskError Unit × Disk
  | [] => d.ensured ⟨root, []⟩
  | part :: above =>
    let p : Path := ⟨root, (part :: above).reverse⟩
    match d.ensureDirectory p with
    | .ok d => (.ok (), d)
    | .error e =>
      if e.cause = .notFound then
        match d.ensureParts root above with
        | (.ok (), d) => d.ensured p
        | (.error e, d) => (.error e, d)
      else (.error e, d)

def ensureDirectories (d : Disk) (p : Path) : Except DiskError Unit × Disk :=
  d.ensureParts p.root p.parts.reverse

def place (d : Disk) (p : Path) : Option Bytes → Except DiskError Unit × Disk
  | none => d.ensureDirectories p
  | some bytes =>
    match d.ensureDirectories p.parent with
    | (.error e, d) => (.error e, d)
    | (.ok (), d) => d.write p bytes

def remove (d : Disk) (p : Path) : Except DiskError Disk :=
  match d.locate p with
  | .error cause => .error ⟨cause, some p⟩
  | .ok l =>
    if (d.node? l).isNone then .error ⟨.notFound, some p⟩
    else
      match d.sealed? l.dropLast with
      | some denial => .error ⟨.denied denial, some p⟩
      | none =>
        if file : d.tree.isDirectory l = false then .ok (d.erase l file)
        else .error ⟨.isDirectory, some p⟩

end Disk

end RecorderStubs
