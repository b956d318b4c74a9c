import RecorderStubs.Recording.Record
import RecorderStubs.Settings.Basic
import RecorderStubs.Source.Method

/-! A generator at work: its settings, its journal, the desk, and the notes it makes for whoever
watches closely. A run converts one stub; a batch converts stubs in source order until none is left
or one fails. -/
namespace RecorderStubs

structure Session where
  settings : Settings
  desk : Desk
  journal : Journal := {}
  notes : List String := []

/-- What a run reports. The name is known once the declaration has been read. -/
structure Report where
  name : Option Text
  stage : Stage
  result : Except Failure Recorded
  events : List Event

namespace Report

def succeeded (r : Report) : Bool := r.result.isOk

def failure? (r : Report) : Option Failure :=
  match r.result with
  | .ok _ => none
  | .error f => some f

def recorded? (r : Report) : Option Recorded := r.result.toOption

def errors (r : Report) : List String := r.failure?.toList.map Failure.message

end Report

def Journal.abort (j : Journal) (e : ParseError) (f : Failure) : Journal :=
  let j :=
    match e with
    | .noHeader _ => j
    | .unexpectedBody _ _ => j.enter .headerMatched ""
  (j.failed f).enter .aborted f.kind.label

def Journal.enterAll (j : Journal) (stages : List Stage) : Journal :=
  stages.foldl (fun j s => j.enter s "") j

@[simp] theorem Journal.enterAll_nil (j : Journal) : j.enterAll [] = j := rfl

@[simp] theorem Journal.enterAll_cons (j : Journal) (s : Stage) (stages : List Stage) :
    j.enterAll (s :: stages) = (j.enter s "").enterAll stages := rfl

namespace Session

def note (s : Session) (n : String) : Session := { s with notes := s.notes ++ [n] }

@[simp] theorem note_journal (s : Session) (n : String) : (s.note n).journal = s.journal := rfl

def report (s : Session) (first : Nat) (name : Option Text) (result : Except Failure Recorded) :
    Report :=
  ⟨name, s.journal.stage, result, s.journal.eventsSince (some first)⟩

def argumentCount (s : Signature) : String := s!"{s.parameters.length} argument(s)"

def convert (s : Session) (first : Nat) (d : Declaration) : Report × Session :=
  let name := String.ofList d.signature.name
  let journal :=
    (s.journal.enter .headerMatched name).enter .bodyValidated (argumentCount d.signature)
  let before := d.placeholder.cut s.desk.primary
  let r := record d s.settings.macroName.text s.settings.enumName.text s.desk
  let s := { s with desk := r.desk, journal := journal.enterAll r.stages }
  let s := s.note s!"Replaced placeholder of '{name}' at {d.placeholder.start}..{d.placeholder.stop}"
  match r.result with
  | .error e =>
    let f := e.toFailure
    let s := { s with journal := s.journal.failed f }
    let s := s.note (s!"Rewrite of '{name}' stopped in state {s.journal.stage.label}: " ++ f.message)
    (s.report first (some d.signature.name) (.error f), s)
  | .ok o =>
    let journal := s.journal.edited "primary" o.primaryRegion.start o.primaryRegion.stop before o.call
    let journal :=
      journal.edited "secondary" o.companionRegion.start o.companionRegion.stop [] o.variant
    let s := { s with journal := journal }
    let s := s.note (s!"Generated '{name}' with " ++ argumentCount d.signature)
    (s.report first (some d.signature.name) (.ok o), s)

def run (s : Session) (offset : Int) : Report × Session :=
  let first := s.journal.events.length
  let s := { s with journal := s.journal.restart }
  match parse s.desk.primary offset with
  | .error e =>
    let f := e.toFailure s.desk.primary
    let s := { s with journal := s.journal.abort e f }
    let s := s.note (s!"Parse failed at {offset}: " ++ f.message)
    (s.report first none (.error f), s)
  | .ok d => s.convert first d

def runFirst (s : Session) : (limit : Nat) → List Report × Session
  | 0 => ([], s)
  | limit + 1 =>
    match firstStub? s.desk.primary with
    | none => ([], s)
    | some offset =>
      let (r, s) := s.run offset
      if r.succeeded then
        let (rs, s) := s.runFirst limit
        (r :: rs, s)
      else ([r], s)

/-- Converts all stubs. Every conversion takes the quotes of a placeholder out of the primary text
and puts none in, so their number bounds the conversions. -/
def runAll (s : Session) : List Report × Session := s.runFirst (s.desk.primary.count '"')

end Session

end RecorderStubs
