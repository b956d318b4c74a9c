import RecorderStubs.Diff.Unified
import RecorderStubs.Proofs.Alignment
import RecorderStubs.Proofs.Lexemes
import RecorderStubs.Proofs.Lines

/-! Diffs as patches. The lines of a diff are read back as hunks, from their text alone, and hunks
are applied where their headers say. A diff that is read and applied in this way leads from one text
to the other, and only equal texts have an empty one. -/
namespace RecorderStubs.Diff

structure LineRange where
  first : Nat
  length : Nat
deriving DecidableEq, Repr

namespace LineRange

/-- The range of so many lines behind so many others. It is named by its first line, counted from
one, or by the line before it if it has none. -/
def behind (start length : Nat) : LineRange := ⟨if length = 0 then start else start + 1, length⟩

/-- How many lines stand before a range. -/
def start (r : LineRange) : Nat := if r.length = 0 then r.first else r.first - 1

def stop (r : LineRange) : Nat := r.start + r.length

/-- A part stands in the whole where the range says, and has its length. -/
def Names (r : LineRange) (part whole : List Text) : Prop :=
  part.length = r.length ∧ ∃ a b, whole = a ++ (part ++ b) ∧
    r.first = if part = [] then a.length else a.length + 1

@[simp] theorem length_behind (start length : Nat) : (behind start length).length = length := rfl

@[simp] theorem start_behind (start length : Nat) : (behind start length).start = start := by
  by_cases empty : length = 0 <;> simp [behind, LineRange.start, empty]

@[simp] theorem stop_behind (start length : Nat) : (behind start length).stop = start + length := by
  rw [stop, start_behind, length_behind]

theorem names_behind (a part b : List Text) :
    (behind a.length part.length).Names part (a ++ (part ++ b)) := by
  refine ⟨rfl, a, b, rfl, ?_⟩
  simp [behind]

end LineRange

inductive LineEdit where
  | keep (line : Text)
  | delete (line : Text)
  | insert (line : Text)
deriving DecidableEq, Repr

namespace LineEdit

def old? : LineEdit → Option Text
  | keep l | delete l => some l
  | insert _ => none

def new? : LineEdit → Option Text
  | keep l | insert l => some l
  | delete _ => none

def read? : Text → Option LineEdit
  | ' ' :: l => some (keep l)
  | '-' :: l => some (delete l)
  | '+' :: l => some (insert l)
  | _ => none

end LineEdit

structure PatchHunk where
  old : LineRange
  new : LineRange
  edits : List LineEdit
deriving DecidableEq, Repr

namespace PatchHunk

def oldLines (h : PatchHunk) : List Text := h.edits.filterMap LineEdit.old?
def newLines (h : PatchHunk) : List Text := h.edits.filterMap LineEdit.new?

/-- The header agrees with the lines of the hunk, on both sides. -/
def Fits (h : PatchHunk) (before after : List Text) : Prop :=
  h.old.Names h.oldLines before ∧ h.new.Names h.newLines after

/-- One hunk ends before another starts, on both sides. -/
def Precedes (g h : PatchHunk) : Prop := g.old.stop ≤ h.old.start ∧ g.new.stop ≤ h.new.start

end PatchHunk

def number? (t : Text) : Option (Nat × Text) :=
  (run? Char.isDigit t).map fun (digits, rest) => (Nat.ofDigitChars 10 digits 0, rest)

def range? (t : Text) : Option (LineRange × Text) := do
  let (first, t) ← number? t
  match literal? [','] t with
  | none => return (⟨first, 1⟩, t)
  | some t =>
    let (length, t) ← number? t
    return (⟨first, length⟩, t)

def header? (t : Text) : Option (LineRange × LineRange) := do
  let (old, t) ← range? (← literal? ['@', '@', ' ', '-'] t)
  let (new, t) ← range? (← literal? [' ', '+'] t)
  if t = [' ', '@', '@', '\n'] then some (old, new) else none

/-- What is read of the lines from one on: the edits up to the next header, and the hunks from there
on. -/
def readFrom : List Text → Option (List LineEdit × List PatchHunk)
  | [] => some ([], [])
  | l :: ls => do
    let (edits, hunks) ← readFrom ls
    match LineEdit.read? l with
    | some e => return (e :: edits, hunks)
    | none =>
      let (old, new) ← header? l
      return ([], ⟨old, new, edits⟩ :: hunks)

def readHunks (ls : List Text) : Option (List PatchHunk) :=
  match readFrom ls with
  | some ([], hunks) => some hunks
  | _ => none

/-- Applies hunks to the lines that follow so many others. Each hunk must find its old lines right
where its header says. -/
def applyFrom (passed : Nat) (ls : List Text) : List PatchHunk → Option (List Text)
  | [] => some ls
  | h :: hs =>
    let gap := h.old.start - passed
    if passed ≤ h.old.start ∧ gap ≤ ls.length ∧ (ls.drop gap).take h.old.length = h.oldLines then
      (applyFrom h.old.stop (ls.drop (gap + h.old.length)) hs).map (ls.take gap ++ h.newLines ++ ·)
    else none

/-- Both lists are the same gaps, with the old lines of the hunks between them in one and the new
ones in the other; so many lines stand before them. -/
inductive Splices : Nat → Nat → List Text → List Text → List PatchHunk → Prop where
  | rest {i j : Nat} (ls : List Text) : Splices i j ls ls []
  | hunk {i j : Nat} {gap xs ys : List Text} {h : PatchHunk} {hs : List PatchHunk} :
      h.old = .behind (i + gap.length) h.oldLines.length →
      h.new = .behind (j + gap.length) h.newLines.length →
      Splices (i + gap.length + h.oldLines.length) (j + gap.length + h.newLines.length) xs ys hs →
      Splices i j (gap ++ (h.oldLines ++ xs)) (gap ++ (h.newLines ++ ys)) (h :: hs)

namespace Splices

variable {i j : Nat} {xs ys : List Text} {hs : List PatchHunk}

theorem applied (h : Splices i j xs ys hs) : applyFrom i xs hs = some ys := by
  induction h with
  | rest ls => rfl
  | @hunk i j gap xs ys h hs old new _ ih =>
    have skipped : h.old.start - i = gap.length := by
      rw [old, LineRange.start_behind]
      omega
    have found : h.old.length = h.oldLines.length := by rw [old, LineRange.length_behind]
    have passed : h.old.stop = i + gap.length + h.oldLines.length := by
      rw [old, LineRange.stop_behind]
    have rest : (gap ++ (h.oldLines ++ xs)).drop (gap.length + h.oldLines.length) = xs := by
      rw [← List.drop_drop, List.drop_left, List.drop_left]
    rw [applyFrom]
    simp only [skipped, found, passed, rest, List.take_left, List.drop_left, ih, Option.map_some]
    rw [if_pos, List.append_assoc]
    refine ⟨?_, ?_, trivial⟩
    · rw [old, LineRange.start_behind]
      omega
    · rw [List.length_append]
      omega

theorem behind (h : Splices i j xs ys hs) : ∀ g ∈ hs, i ≤ g.old.start ∧ j ≤ g.new.start := by
  induction h with
  | rest ls => nofun
  | hunk old new _ ih =>
    refine List.forall_mem_cons.mpr ⟨?_, fun g member => ?_⟩
    · rw [old, new, LineRange.start_behind, LineRange.start_behind]
      omega
    · have later := ih g member
      omega

theorem ordered (h : Splices i j xs ys hs) : hs.Pairwise PatchHunk.Precedes := by
  induction h with
  | rest ls => exact .nil
  | hunk old new rest ih =>
    refine List.pairwise_cons.mpr ⟨fun g member => ?_, ih⟩
    have later := rest.behind g member
    rw [PatchHunk.Precedes, old, new, LineRange.stop_behind, LineRange.stop_behind]
    exact later

theorem fits (h : Splices i j xs ys hs) {a b : List Text} (old : a.length = i)
    (new : b.length = j) : ∀ g ∈ hs, g.Fits (a ++ xs) (b ++ ys) := by
  induction h generalizing a b with
  | rest ls => nofun
  | @hunk i j gap xs ys g hs oldRange newRange _ ih =>
    refine List.forall_mem_cons.mpr ⟨⟨?_, ?_⟩, fun g' member => ?_⟩
    · rw [oldRange, ← old, ← List.length_append, ← List.append_assoc a]
      exact LineRange.names_behind (a ++ gap) g.oldLines xs
    · rw [newRange, ← new, ← List.length_append, ← List.append_assoc b]
      exact LineRange.names_behind (b ++ gap) g.newLines ys
    · have later := ih (a := a ++ (gap ++ g.oldLines)) (b := b ++ (gap ++ g.newLines))
        (by simp only [List.length_append]; omega) (by simp only [List.length_append]; omega)
        g' member
      simpa only [List.append_assoc] using later

end Splices

section
variable (s : Segment Text) (ss ss' : List (Segment Text))

@[simp] theorem oldLines_nil : oldLines [] = [] := rfl
@[simp] theorem newLines_nil : newLines [] = [] := rfl

@[simp] theorem oldLines_cons : oldLines (s :: ss) = s.old ++ oldLines ss := List.flatMap_cons

@[simp] theorem newLines_cons : newLines (s :: ss) = s.new ++ newLines ss := List.flatMap_cons

@[simp] theorem oldLines_append : oldLines (ss ++ ss') = oldLines ss ++ oldLines ss' :=
  List.flatMap_append

@[simp] theorem newLines_append : newLines (ss ++ ss') = newLines ss ++ newLines ss' :=
  List.flatMap_append

end

def segmentEdits : Segment Text → List LineEdit
  | .keep ls => ls.map .keep
  | .change old new => old.map .delete ++ new.map .insert

def Hunk.patch (h : Hunk) : PatchHunk where
  old := .behind h.oldStart (oldLines h.segments).length
  new := .behind h.newStart (newLines h.segments).length
  edits := h.segments.flatMap segmentEdits

theorem filterMap_segmentEdits (s : Segment Text) :
    (segmentEdits s).filterMap LineEdit.old? = s.old ∧
      (segmentEdits s).filterMap LineEdit.new? = s.new := by
  cases s with
  | keep ls =>
    simp only [segmentEdits, List.filterMap_map]
    exact ⟨List.filterMap_some, List.filterMap_some⟩
  | change old new =>
    simp only [segmentEdits, List.filterMap_append, List.filterMap_map]
    constructor
    · exact (congrArg₂ (· ++ ·) List.filterMap_some
        (List.filterMap_eq_nil_iff.mpr fun _ _ => rfl)).trans (List.append_nil old)
    · exact congrArg₂ (· ++ ·) (List.filterMap_eq_nil_iff.mpr fun _ _ => rfl) List.filterMap_some

theorem Hunk.filterMap_patch {side? : LineEdit → Option Text} {side : Segment Text → List Text}
    (same : ∀ s, (segmentEdits s).filterMap side? = side s) (h : Hunk) :
    h.patch.edits.filterMap side? = h.segments.flatMap side := by
  rw [patch, List.filterMap_flatMap]
  exact congrArg (h.segments.flatMap ·) (funext same)

@[simp] theorem Hunk.oldLines_patch (h : Hunk) : h.patch.oldLines = oldLines h.segments :=
  h.filterMap_patch fun s => (filterMap_segmentEdits s).1

@[simp] theorem Hunk.newLines_patch (h : Hunk) : h.patch.newLines = newLines h.segments :=
  h.filterMap_patch fun s => (filterMap_segmentEdits s).2

theorem Splices.model {i j : Nat} {gap xs ys : List Text} {h : Hunk} {hs : List PatchHunk}
    (old : i + gap.length = h.oldStart) (new : j + gap.length = h.newStart)
    (rest : Splices (h.oldStart + (oldLines h.segments).length)
      (h.newStart + (newLines h.segments).length) xs ys hs) :
    Splices i j (gap ++ (oldLines h.segments ++ xs)) (gap ++ (newLines h.segments ++ ys))
      (h.patch :: hs) := by
  rw [← h.oldLines_patch, ← h.newLines_patch]
  rw [← old, ← new, ← h.oldLines_patch, ← h.newLines_patch] at rest
  refine .hunk ?_ ?_ rest
  · rw [h.oldLines_patch, old]
    rfl
  · rw [h.newLines_patch, new]
    rfl

theorem lines_of_unchanged {ss : List (Segment Text)} (h : hasChange ss = false) :
    oldLines ss = newLines ss := by
  induction ss with
  | nil => rfl
  | cons s ss ih =>
    simp only [hasChange, List.any_cons, Bool.or_eq_false_iff] at h
    cases s with
    | keep ls => rw [oldLines_cons, newLines_cons, ih h.2]; rfl
    | change old new => cases h.1

/-- A long kept segment: the context of the hunk before it, a gap, the context of the next one. -/
theorem context_split {ls : List Text} (long : 2 * contextLines < ls.length) :
    ∃ gap, ls = ls.take contextLines ++ (gap ++ ls.drop (ls.length - contextLines)) ∧
      contextLines + gap.length = ls.length - contextLines := by
  refine ⟨(ls.take (ls.length - contextLines)).drop contextLines, ?_, ?_⟩
  · have front : (ls.take (ls.length - contextLines)).take contextLines = ls.take contextLines := by
      rw [List.take_take, Nat.min_eq_left (by omega)]
    rw [← List.append_assoc, ← front, List.take_append_drop, List.take_append_drop]
  · rw [List.length_drop, List.length_take]
    omega

/-- What is emitted leads on from where the last hunk ended, over a gap, to the lines of the group
and of the segments that are left. -/
theorem splices_hunksFrom {i j p q : Nat} (gap tail : List Text) (group ss : List (Segment Text))
    (old : i + gap.length = p) (new : j + gap.length = q) :
    Splices i j (gap ++ (oldLines group ++ (oldLines ss ++ tail)))
      (gap ++ (newLines group ++ (newLines ss ++ tail)))
      ((hunksFrom p q group ss).map Hunk.patch) := by
  fun_induction hunksFrom p q group ss generalizing i j gap with
  | case1 p q group changed => exact .model (h := ⟨p, q, group⟩) old new (.rest tail)
  | case2 p q group same =>
    rw [lines_of_unchanged (Bool.eq_false_iff.mpr same)]
    exact .rest _
  | case3 p q group xs ys rest ih => simpa [Segment.old, Segment.new] using ih gap old new
  | case4 p q group ls rest long skipped =>
    rename_i ih
    obtain ⟨middle, split, size⟩ := context_split long
    have shown : (ls.take contextLines).length = contextLines := by
      rw [List.length_take]
      omega
    have next := ih (i := p + (oldLines group).length + contextLines)
      (j := q + (newLines group).length + contextLines) middle (by omega) (by omega)
    have both := Splices.model (h := ⟨p, q, group ++ [.keep (ls.take contextLines)]⟩) old new
      (by simpa [Segment.old, Segment.new, shown, Nat.add_assoc] using next)
    have whole : ∀ u, ls.take contextLines ++ (middle ++ (ls.drop skipped ++ u)) = ls ++ u := by
      intro u
      rw [← List.append_assoc middle, ← List.append_assoc, ← split]
    simpa [Segment.old, Segment.new, whole, Nat.add_assoc] using both
  | case5 p q group ls rest _ ih => simpa [Segment.old, Segment.new] using ih gap old new

theorem cutFront_split (ss : List (Segment Text)) : ∃ front, front.length = (cutFront ss).1 ∧
    oldLines ss = front ++ oldLines (cutFront ss).2 ∧
      newLines ss = front ++ newLines (cutFront ss).2 := by
  unfold cutFront
  split
  · rename_i ls rest
    refine ⟨ls.take (ls.length - contextLines), ?_, ?_, ?_⟩
    · rw [List.length_take]
      exact Nat.min_eq_left (Nat.sub_le ..)
    · simp [Segment.old, ← List.append_assoc]
    · simp [Segment.new, ← List.append_assoc]
  · exact ⟨[], rfl, rfl, rfl⟩

theorem cutBack_split (ss : List (Segment Text)) : ∃ tail,
    oldLines ss = oldLines (cutBack ss) ++ tail ∧ newLines ss = newLines (cutBack ss) ++ tail := by
  unfold cutBack
  split
  · rename_i ls last
    have whole : ss = ss.dropLast ++ [.keep ls] := (List.dropLast_append_getLast? _ last).symm
    refine ⟨ls.drop contextLines, ?_, ?_⟩
    · nth_rewrite 1 [whole]
      simp [Segment.old]
    · nth_rewrite 1 [whole]
      simp [Segment.new]
  · exact ⟨[], by simp, by simp⟩

theorem splices_hunks (ss : List (Segment Text)) :
    Splices 0 0 (oldLines ss) (newLines ss) ((hunks ss).map Hunk.patch) := by
  obtain ⟨front, size, oldFront, newFront⟩ := cutFront_split ss
  obtain ⟨tail, oldBack, newBack⟩ := cutBack_split (cutFront ss).2
  rw [oldFront, newFront, oldBack, newBack]
  have start : 0 + front.length = (cutFront ss).1 := by omega
  exact splices_hunksFrom front tail [] _ start start

theorem hunks_align_self (ls : List Text) : hunks (align ls ls) = [] := by
  rw [align_self]
  split
  · rfl
  · have short : ¬ 2 * contextLines <
        ((ls.drop (ls.length - contextLines)).take contextLines).length := by
      rw [List.length_take]
      omega
    simp only [hunks, cutFront, cutBack, List.getLast?_singleton, List.dropLast_singleton,
      List.nil_append, hunksFrom, if_neg short]
    rfl

def LineEdit.line : LineEdit → Text
  | keep l => ' ' :: l
  | delete l => '-' :: l
  | insert l => '+' :: l

theorem LineEdit.read?_line (e : LineEdit) : read? e.line = some e := by
  cases e <;> rfl

theorem segmentLines_eq (s : Segment Text) :
    segmentLines s = (segmentEdits s).map LineEdit.line := by
  cases s with
  | keep ls => simp [segmentLines, segmentEdits, Function.comp_def, LineEdit.line]
  | change old new => simp [segmentLines, segmentEdits, Function.comp_def, LineEdit.line]

theorem number?_digits (n : Nat) {rest : Text} (stop : Stops Char.isDigit rest) :
    number? (Nat.toDigits 10 n ++ rest) = some (n, rest) := by
  simp only [number?, run?_append (digits_run n) stop, Option.map_some,
    Nat.ofDigitChars_ten_toDigits]

theorem range?_rangeText (start length : Nat) {c : Char} {rest : Text} (digit : c.isDigit = false)
    (comma : ',' ≠ c) : range? ((rangeText start length).toList ++ c :: rest) =
      some (.behind start length, c :: rest) := by
  have stop : Stops Char.isDigit (c :: rest) := stops_cons.mpr digit
  have single : ∀ n, range? (Nat.toDigits 10 n ++ c :: rest) = some (⟨n, 1⟩, c :: rest) := by
    intro n
    simp only [range?, number?_digits n stop, Option.bind_eq_bind, Option.bind_some,
      literal?_eq_none_of_head comma]
    rfl
  have pair : ∀ n m, range? (Nat.toDigits 10 n ++ ',' :: (Nat.toDigits 10 m ++ c :: rest)) =
      some (⟨n, m⟩, c :: rest) := by
    intro n m
    have behind : Stops Char.isDigit (',' :: (Nat.toDigits 10 m ++ c :: rest)) :=
      stops_cons.mpr (by decide)
    have rest' : literal? [','] (',' :: (Nat.toDigits 10 m ++ c :: rest)) =
        some (Nat.toDigits 10 m ++ c :: rest) := literal?_append [','] _
    simp only [range?, number?_digits n behind, Option.bind_eq_bind, Option.bind_some, rest',
      number?_digits m stop]
    rfl
  have written : ∀ n : Nat, (toString n).toList = Nat.toDigits 10 n := fun n => Nat.toList_repr
  have plain : ∀ s : String, toString s = s := fun _ => rfl
  unfold rangeText LineRange.behind
  split
  · rename_i one
    rw [one]
    simpa [written, plain] using single (start + 1)
  · split
    · rename_i none
      rw [none]
      simpa [written, plain] using pair start 0
    · simpa [written, plain] using pair (start + 1) length

theorem Hunk.header_eq (h : Hunk) : h.header.toList = ['@', '@', ' ', '-'] ++
    ((rangeText h.oldStart (oldLines h.segments).length).toList ++ ([' ', '+'] ++
      ((rangeText h.newStart (newLines h.segments).length).toList ++ [' ', '@', '@', '\n']))) := by
  simp [Hunk.header]

theorem header?_header (h : Hunk) : header? h.header.toList = some (h.patch.old, h.patch.new) := by
  have old : ∀ rest, range? ((rangeText h.oldStart (oldLines h.segments).length).toList ++
      ([' ', '+'] ++ rest)) = some (h.patch.old, [' ', '+'] ++ rest) := fun rest =>
    range?_rangeText _ _ (by decide) (by decide)
  have new : range? ((rangeText h.newStart (newLines h.segments).length).toList ++
      [' ', '@', '@', '\n']) = some (h.patch.new, [' ', '@', '@', '\n']) :=
    range?_rangeText _ _ (by decide) (by decide)
  simp only [h.header_eq, header?, literal?_append, old, new, Option.bind_eq_bind, Option.bind_some,
    if_true]

theorem readFrom_edits {ls : List Text} {edits : List LineEdit} {hs : List PatchHunk}
    (h : readFrom ls = some (edits, hs)) (before : List LineEdit) :
    readFrom (before.map LineEdit.line ++ ls) = some (before ++ edits, hs) := by
  induction before with
  | nil => exact h
  | cons e before ih =>
    simp only [List.map_cons, List.cons_append, readFrom, ih, Option.bind_eq_bind, Option.bind_some,
      LineEdit.read?_line]
    rfl

theorem readFrom_hunks (hs : List Hunk) :
    readFrom (hs.flatMap Hunk.lines) = some ([], hs.map Hunk.patch) := by
  induction hs with
  | nil => rfl
  | cons h hs ih =>
    have body : h.segments.flatMap segmentLines = h.patch.edits.map LineEdit.line := by
      rw [Hunk.patch, List.map_flatMap]
      exact congrArg (h.segments.flatMap ·) (funext segmentLines_eq)
    have mark : LineEdit.read? h.header.toList = none := by
      rw [h.header_eq]
      rfl
    rw [List.flatMap_cons, Hunk.lines, List.cons_append, body, readFrom, readFrom_edits ih]
    simp only [Option.bind_eq_bind, Option.bind_some, mark, header?_header, List.append_nil]
    rfl

theorem unifiedLines_eq (before after : Text) (label : String) :
    let hs := hunks (align (splitLines before) (splitLines after))
    unifiedLines before after label = if hs = [] then [] else
      ("--- a/" ++ label ++ "\n").toList :: ("+++ b/" ++ label ++ "\n").toList
        :: hs.flatMap Hunk.lines := by
  intro hs
  unfold unifiedLines
  split
  · rename_i none
    exact (if_pos none).symm
  · rename_i some
    exact (if_neg some).symm

/-- Equal texts have an empty diff. The diff of two others is two lines that name the file on both
sides, then hunks: they stand in order and apart, their headers agree with their lines, and when
they are applied to the lines of the first text, those of the second come out. -/
theorem unified_patches (before after : Text) (label : String) :
    unified before after label = (unifiedLines before after label).flatten ∧
      (unified before after label = [] ↔ before = after) ∧
      (before = after ∨ ∃ body hs,
        unifiedLines before after label =
          ("--- a/" ++ label ++ "\n").toList :: ("+++ b/" ++ label ++ "\n").toList :: body ∧
        readHunks body = some hs ∧
        hs.Pairwise PatchHunk.Precedes ∧
        (∀ h ∈ hs, h.Fits (splitLines before) (splitLines after)) ∧
        applyFrom 0 (splitLines before) hs = some (splitLines after)) := by
  have sides := aligns_align (splitLines before) (splitLines after)
  have spliced := splices_hunks (align (splitLines before) (splitLines after))
  rw [show oldLines _ = _ from sides.old, show newLines _ = _ from sides.new] at spliced
  have lines := unifiedLines_eq before after label
  dsimp only at lines
  by_cases none : hunks (align (splitLines before) (splitLines after)) = []
  · -- Without hunks nothing is changed.
    rw [none] at spliced
    have same : before = after := by
      have flat := congrArg List.flatten (Option.some.inj spliced.applied)
      rwa [splitLines_flatten, splitLines_flatten] at flat
    rw [if_pos none] at lines
    refine ⟨rfl, iff_of_true ?_ same, .inl same⟩
    rw [unified, lines]
    rfl
  · have other : before ≠ after := by
      rintro rfl
      exact none (hunks_align_self _)
    rw [if_neg none] at lines
    refine ⟨rfl, iff_of_false (fun empty => ?_) other, .inr ⟨_, _, lines, ?_, spliced.ordered,
      spliced.fits (a := []) (b := []) rfl rfl, spliced.applied⟩⟩
    · rw [unified, lines, List.flatten_cons, List.append_eq_nil_iff] at empty
      simp at empty
    · rw [readHunks, readFrom_hunks]

end RecorderStubs.Diff
