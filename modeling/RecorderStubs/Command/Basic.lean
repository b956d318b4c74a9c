import RecorderStubs.Settings.Basic
import RecorderStubs.Text.Position

/-! The commands: convert the stub at a cursor, convert all stubs of a file, list its methods. -/
namespace RecorderStubs

/-- A number that was given, or a blank in its place. -/
abbrev Number := Option Int

inductive Cursor where
  | line (line : Number) (column : Option Number)
  | offset (offset : Number)
deriving DecidableEq, Repr

inductive CursorFault where
  | range (error : CursorError)
  | blankOffset
  | blankColumn
deriving DecidableEq, Repr

/-- The line that is meant: a blank and zero stand for the first. -/
def lineMeant : Number → Int
  | none => 1
  | some n => if n = 0 then 1 else n

/-- The offset that a cursor means in a text. A blank column is found out once the line is known to
be there. -/
def Cursor.locate (t : Text) : Cursor → Except CursorFault Int
  | .offset (some n) => .ok n
  | .offset none => .error .blankOffset
  | .line n (some none) =>
    match offsetOfLine t (lineMeant n) none with
    | .error e => .error (.range e)
    | .ok _ => .error .blankColumn
  | .line n none => located (offsetOfLine t (lineMeant n) none)
  | .line n (some (some column)) => located (offsetOfLine t (lineMeant n) (some column))
where
  located : Except CursorError Nat → Except CursorFault Int
    | .error e => .error (.range e)
    | .ok n => .ok n

structure Target where
  input : Path
  companion : Option Path
  names : RawSettings
  dryRun : Bool
deriving DecidableEq, Repr

inductive Command where
  | generate (target : Target) (cursor : Cursor) (trace : Option Path)
  | generateAll (target : Target)
  | scan (input : Path)
deriving DecidableEq, Repr

end RecorderStubs
