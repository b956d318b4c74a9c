import RecorderStubs.Disk.Basic

/-! Texts under edit. A buffer in memory only counts its saves. A buffer of a file reads the file
when its text is first needed and writes it back when saved; it is dirty from an edit to the next
save. Its text is made of characters, or of code points where lone surrogates may be edited in. -/
namespace RecorderStubs

structure Buffer where
  text : Text
  name : String := "<memory>"
  saves : Nat := 0
deriving DecidableEq, Repr

namespace Buffer

def replace (b : Buffer) (start stop : Int) (new : Text) : Except RegionError Buffer :=
  (replaceRegion b.text start stop new).map (fun t => { b with text := t })

def insert (b : Buffer) (offset : Int) (new : Text) : Except RegionError Buffer :=
  b.replace offset offset new

def save (b : Buffer) : Buffer := { b with saves := b.saves + 1 }

def describe (b : Buffer) : String :=
  "InMemoryBuffer(name=" ++ quotedString b.name ++ s!", length={b.text.length})"

end Buffer

structure DiskBuffer (α : Type) where
  path : Path
  encoding : Encoding := .utf8
  cached : Option (List α) := none
  dirty : Bool := false
deriving DecidableEq, Repr

inductive EditError where
  | file (error : FileError)
  | region (error : RegionError)
deriving DecidableEq, Repr

namespace DiskBuffer

def describe (b : DiskBuffer α) : String :=
  "FileBuffer(path=PosixPath(" ++ quotedString b.path.text ++ "))"

variable [Coded α]

def read (b : DiskBuffer α) (d : Disk) : Except FileError (List α) × DiskBuffer α :=
  match b.cached with
  | some t => (.ok t, b)
  | none =>
    match d.readText b.path b.encoding with
    | .ok t => (.ok (Coded.text t), { b with cached := some (Coded.text t) })
    | .error e => (.error e, b)

def store (b : DiskBuffer α) (t : List α) : DiskBuffer α :=
  { b with cached := some t, dirty := true }

def replace (b : DiskBuffer α) (d : Disk) (start stop : Int) (new : List α) :
    Except EditError Unit × DiskBuffer α :=
  match b.read d with
  | (.error e, b) => (.error (.file e), b)
  | (.ok t, b) =>
    match replaceRegion t start stop new with
    | .ok t => (.ok (), b.store t)
    | .error e => (.error (.region e), b)

def insert (b : DiskBuffer α) (d : Disk) (offset : Int) (new : List α) :
    Except EditError Unit × DiskBuffer α :=
  b.replace d offset offset new

def save (b : DiskBuffer α) (d : Disk) : Except FileError Unit × DiskBuffer α × Disk :=
  match b.read d with
  | (.error e, b) => (.error e, b, d)
  | (.ok t, b) =>
    match d.writeText b.path b.encoding t with
    | (.ok (), d) => (.ok (), { b with dirty := false }, d)
    | (.error e, d) => (.error e, b, d)

end DiskBuffer

end RecorderStubs
