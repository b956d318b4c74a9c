import RecorderStubs.Text.Basic
import RecorderStubs.Text.Blank

/-! Lines and columns, both counted from one. The line of an offset counts newlines only; the
lines that a cursor names end at every line break. -/
namespace RecorderStubs

structure Position where
  line : Nat
  column : Nat
deriving DecidableEq, Repr

def lineOf (t : Text) (offset : Int) : Nat := (textBefore t offset).count '\n' + 1

def positionOf (t : Text) (offset : Int) : Position :=
  ⟨lineOf t offset, ((textBefore t offset).reverse.takeWhile (· != '\n')).length + 1⟩

def lineBreaks : List Char :=
  ['\n', '\r', '\x0b', '\x0c', '\x1c', '\x1d', '\x1e', '\x85', '\u2028', '\u2029']

/-- The lines of a text, each with its line break; a carriage return and the newline after it are
one break. No empty line stands after the last break. -/
def splitLines : Text → List Text
  | [] => []
  | '\r' :: '\n' :: rest => ['\r', '\n'] :: splitLines rest
  | c :: rest =>
    if lineBreaks.contains c then [c] :: splitLines rest
    else
      match splitLines rest with
      | [] => [[c]]
      | l :: ls => (c :: l) :: ls

def lineContent (l : Text) : Text :=
  (l.reverse.dropWhile (fun c => c == '\n' || c == '\r')).reverse

inductive CursorError where
  | line (line : Int) (lines : Nat)
  | column (column line : Int) (length : Nat)
deriving DecidableEq, Repr

def CursorError.message : CursorError → String
  | .line l lines => s!"Line {l} is out of range (text has {lines} lines)."
  | .column c l length => s!"Column {c} is out of range for line {l} ({length} characters)."

/-- The offset of a line and column; without a column, of the first character of the line that is
not blank. An empty text has one empty line. -/
def offsetOfLine (t : Text) (line : Int) (column : Option Int) : Except CursorError Nat :=
  let lines := splitLines t
  if line < 1 ∨ (max lines.length 1 : Nat) < line then .error (.line line lines.length)
  else
    let index := (line - 1).toNat
    let start := (lines.take index).flatten.length
    let content := lineContent (lines.getD index [])
    match column with
    | none => .ok (start + (content.length - (trimStart content).length))
    | some column =>
      if column < 1 ∨ (content.length + 1 : Nat) < column then
        .error (.column column line content.length)
      else .ok (start + (column - 1).toNat)

end RecorderStubs
