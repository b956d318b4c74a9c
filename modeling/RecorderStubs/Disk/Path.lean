import RecorderStubs.Text.Basic

/-! Paths of files. Empty components and single dots vanish when a path is read; double dots stay,
since what they mean depends on the disk. -/
namespace RecorderStubs

/-- Where a path starts. Exactly two leading slashes make a root of their own. -/
inductive Root where
  | here
  | slash
  | doubleSlash
deriving DecidableEq, Repr

def Root.text : Root → String
  | here => ""
  | slash => "/"
  | doubleSlash => "//"

structure Path where
  root : Root
  parts : List String
deriving DecidableEq, Repr

namespace Path

def split : Text → List Text
  | [] => [[]]
  | c :: t =>
    if c = '/' then [] :: split t
    else
      match split t with
      | [] => [[c]]
      | part :: parts => (c :: part) :: parts

def rootOf : Text → Root
  | '/' :: '/' :: '/' :: _ => .slash
  | '/' :: '/' :: _ => .doubleSlash
  | '/' :: _ => .slash
  | _ => .here

def ofText (t : Text) : Path :=
  ⟨rootOf t, ((split t).filter (fun part => part != [] && part != ['.'])).map String.ofList⟩

def ofString (s : String) : Path := ofText s.toList

def text (p : Path) : String :=
  if p.root = .here && p.parts.isEmpty then "."
  else p.root.text ++ "/".intercalate p.parts

def name (p : Path) : String := p.parts.getLast?.getD ""

def parent (p : Path) : Path := ⟨p.root, p.parts.dropLast⟩

/-- A path relative to another; one with a root of its own stays as it is. -/
def join (p q : Path) : Path := if q.root = .here then ⟨p.root, p.parts ++ q.parts⟩ else q

def hasNull (p : Path) : Bool := p.parts.any (·.toList.contains '\x00')

end Path

end RecorderStubs
