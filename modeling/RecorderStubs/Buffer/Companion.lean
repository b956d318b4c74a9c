import RecorderStubs.Buffer.Basic

/-! The companion text, which is saved as soon as it is edited: a buffer in memory, whose storage
may refuse to save it, or the buffer of a file. -/
namespace RecorderStubs

inductive Companion where
  | memory (buffer : Buffer) (refusal : Option String)
  | file (buffer : DiskBuffer Char)
deriving DecidableEq, Repr

inductive SaveError where
  | refused (reason : String)
  | file (error : FileError)
deriving DecidableEq, Repr

def SaveError.message : SaveError → String
  | .refused reason => reason
  | .file e => e.message

namespace Companion

/-- The text in memory: of a file's buffer, what has been read or stored. -/
def held : Companion → Text
  | memory buffer _ => buffer.text
  | file buffer => buffer.cached.getD []

def read (c : Companion) (d : Disk) : Except FileError Text × Companion :=
  match c with
  | memory buffer _ => (.ok buffer.text, c)
  | file buffer =>
    let (text, buffer) := buffer.read d
    (text, file buffer)

def replace (c : Companion) (d : Disk) (start stop : Int) (new : Text) :
    Except EditError Unit × Companion :=
  match c with
  | memory buffer refusal =>
    match buffer.replace start stop new with
    | .ok buffer => (.ok (), memory buffer refusal)
    | .error e => (.error (.region e), c)
  | file buffer =>
    let (result, buffer) := buffer.replace d start stop new
    (result, file buffer)

def save (c : Companion) (d : Disk) : Except SaveError Unit × Companion × Disk :=
  match c with
  | memory buffer none => (.ok (), memory buffer.save none, d)
  | memory _ (some reason) => (.error (.refused reason), c, d)
  | file buffer =>
    match buffer.save d with
    | (.ok (), buffer, d) => (.ok (), file buffer, d)
    | (.error e, buffer, d) => (.error (.file e), file buffer, d)

end Companion

end RecorderStubs
