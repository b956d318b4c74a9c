import RecorderStubs.Diff.Alignment
import RecorderStubs.Text.Position

/-! Unified diffs of two texts by lines, with three lines of context. Equal texts have an empty
diff. -/
namespace RecorderStubs.Diff

def contextLines : Nat := 3

structure Hunk where
  oldStart : Nat
  newStart : Nat
  segments : List (Segment Text)

def oldLines (ss : List (Segment Text)) : List Text := ss.flatMap Segment.old
def newLines (ss : List (Segment Text)) : List Text := ss.flatMap Segment.new

/-- Cuts a kept segment at the front down to the context, and counts what was cut. -/
def cutFront : List (Segment Text) → Nat × List (Segment Text)
  | .keep ls :: rest => (ls.length - contextLines, .keep (ls.drop (ls.length - contextLines)) :: rest)
  | ss => (0, ss)

def cutBack (ss : List (Segment Text)) : List (Segment Text) :=
  match ss.getLast? with
  | some (.keep ls) => ss.dropLast ++ [.keep (ls.take contextLines)]
  | _ => ss

def hasChange (ss : List (Segment Text)) : Bool :=
  ss.any fun
    | .keep _ => false
    | .change _ _ => true

/-- Hunks end where more lines are kept than two contexts hold. -/
def hunksFrom (oldStart newStart : Nat) (group : List (Segment Text)) :
    List (Segment Text) → List Hunk
  | [] => if hasChange group then [⟨oldStart, newStart, group⟩] else []
  | .change old new :: rest => hunksFrom oldStart newStart (group ++ [.change old new]) rest
  | .keep ls :: rest =>
    if 2 * contextLines < ls.length then
      let skipped := ls.length - contextLines
      ⟨oldStart, newStart, group ++ [.keep (ls.take contextLines)]⟩
        :: hunksFrom (oldStart + (oldLines group).length + skipped)
          (newStart + (newLines group).length + skipped) [.keep (ls.drop skipped)] rest
    else hunksFrom oldStart newStart (group ++ [.keep ls]) rest

def hunks (ss : List (Segment Text)) : List Hunk :=
  let (skipped, ss) := cutFront ss
  hunksFrom skipped skipped [] (cutBack ss)

/-- A range of lines: the first, counted from one, and their number unless it is one. An empty
range is named by the line before it. -/
def rangeText (start length : Nat) : String :=
  if length = 1 then s!"{start + 1}"
  else if length = 0 then s!"{start},0"
  else s!"{start + 1},{length}"

def Hunk.header (h : Hunk) : String :=
  "@@ -" ++ rangeText h.oldStart (oldLines h.segments).length ++ " +"
    ++ rangeText h.newStart (newLines h.segments).length ++ " @@\n"

def segmentLines : Segment Text → List Text
  | .keep ls => ls.map (' ' :: ·)
  | .change old new => old.map ('-' :: ·) ++ new.map ('+' :: ·)

def Hunk.lines (h : Hunk) : List Text := h.header.toList :: h.segments.flatMap segmentLines

def unifiedLines (before after : Text) (label : String) : List Text :=
  match hunks (align (splitLines before) (splitLines after)) with
  | [] => []
  | hs =>
    ("--- a/" ++ label ++ "\n").toList :: ("+++ b/" ++ label ++ "\n").toList
      :: hs.flatMap Hunk.lines

def unified (before after : Text) (label : String) : Text := (unifiedLines before after label).flatten

end RecorderStubs.Diff
