import RecorderStubs.Failure
import RecorderStubs.Text.Quoted

/-! The journal of a generator: the stages of its runs, the edits of the runs that succeeded, and
the failures. -/
namespace RecorderStubs

inductive Stage where
  | idle
  | headerMatched
  | bodyValidated
  | primaryEdited
  | companionLocated
  | companionEdited
  | persisted
  | aborted
deriving DecidableEq, Repr

namespace Stage

def all : List Stage :=
  [idle, headerMatched, bodyValidated, primaryEdited, companionLocated, companionEdited,
    persisted, aborted]

def label : Stage → String
  | idle => "idle"
  | headerMatched => "header_matched"
  | bodyValidated => "body_validated"
  | primaryEdited => "primary_edited"
  | companionLocated => "secondary_located"
  | companionEdited => "secondary_edited"
  | persisted => "persisted"
  | aborted => "aborted"

def ofLabel? (s : String) : Option Stage := all.find? (fun st => st.label == s)

def unknownMessage (s : String) : String := quotedString s ++ " is not a valid GenerationState"

def primaryModified : Stage → Bool
  | idle | headerMatched | bodyValidated | aborted => false
  | _ => true

end Stage

inductive Event where
  | stage (source target : Stage) (detail : String)
  | edit (target : String) (start stop : Int) (before after : Text)
  | failure (kind : FailureKind) (message : String) (stage : Stage)
deriving DecidableEq, Repr

inductive Detail where
  | text (t : Text)
  | number (n : Int)
deriving DecidableEq, Repr

namespace Event

def label : Event → String
  | stage _ _ _ => "state_change"
  | edit _ _ _ _ _ => "text_edit"
  | failure _ _ _ => "failure"

def description : Event → String
  | stage source target _ => source.label ++ " -> " ++ target.label
  | edit target _ _ _ _ => "Edited " ++ target
  | failure _ message _ => message

def details : Event → List (String × Detail)
  | stage source target detail =>
    [("from", .text source.label.toList), ("to", .text target.label.toList),
      ("detail", .text detail.toList)]
  | edit target start stop before after =>
    [("target", .text target.toList), ("start", .number start), ("end", .number stop),
      ("before", .text before), ("after", .text after)]
  | failure kind _ st => [("error", .text kind.label.toList), ("state", .text st.label.toList)]

end Event

structure Journal where
  events : List Event := []
  stage : Stage := .idle
deriving DecidableEq, Repr

namespace Journal

def log (j : Journal) (e : Event) : Journal := { j with events := j.events ++ [e] }

def enter (j : Journal) (s : Stage) (detail : String) : Journal :=
  { j.log (.stage j.stage s detail) with stage := s }

def edited (j : Journal) (target : String) (start stop : Int) (before after : Text) : Journal :=
  j.log (.edit target start stop before after)

def failed (j : Journal) (f : Failure) : Journal := j.log (.failure f.kind f.message j.stage)

def restart (j : Journal) : Journal := { j with stage := .idle }

/-- The events from an index on, counted from the end when negative; all without an index. -/
def eventsSince (j : Journal) (since : Option Int) : List Event :=
  j.events.drop (sliceBound j.events.length (since.getD 0))

section
variable (j : Journal)

@[simp] theorem enter_events (s : Stage) (detail : String) :
    (j.enter s detail).events = j.events ++ [.stage j.stage s detail] := rfl

@[simp] theorem enter_stage (s : Stage) (detail : String) : (j.enter s detail).stage = s := rfl

@[simp] theorem edited_events (target : String) (start stop : Int) (before after : Text) :
    (j.edited target start stop before after).events =
      j.events ++ [.edit target start stop before after] := rfl

@[simp] theorem edited_stage (target : String) (start stop : Int) (before after : Text) :
    (j.edited target start stop before after).stage = j.stage := rfl

@[simp] theorem failed_events (f : Failure) :
    (j.failed f).events = j.events ++ [.failure f.kind f.message j.stage] := rfl

@[simp] theorem failed_stage (f : Failure) : (j.failed f).stage = j.stage := rfl

@[simp] theorem restart_events : j.restart.events = j.events := rfl

@[simp] theorem restart_stage : j.restart.stage = .idle := rfl

end

theorem eventsSince_append {j : Journal} {old new : List Event} (h : j.events = old ++ new) :
    j.eventsSince (some old.length) = new := by
  have bound : sliceBound j.events.length (old.length : Int) = old.length := by
    rw [h, List.length_append, sliceBound, if_neg (by omega), Int.toNat_natCast]
    omega
  rw [eventsSince, Option.getD_some, bound, h, List.drop_left]

end Journal

end RecorderStubs
