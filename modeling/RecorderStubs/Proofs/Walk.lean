import RecorderStubs.Proofs.Batch

/-! The way of a run through its stages. Whatever ran before, and however both texts were edited in
between, a run ends in one of five ways. The events it logs tell which, stage by stage, and the edits
among them are those that the two texts went through. -/
namespace RecorderStubs

/-- A text with one of its parts exchanged, if that part stands at the offset. -/
def exchange? (start : Int) (before after t : Text) : Option Text :=
  if 0 ≤ start ∧ start ≤ t.length then
    (literal? before (t.drop start.toNat)).map (fun z => t.take start.toNat ++ (after ++ z))
  else none

theorem exchange?_middle (x before after z : Text) :
    exchange? x.length before after (x ++ (before ++ z)) = some (x ++ (after ++ z)) := by
  have inside : (0 : Int) ≤ x.length ∧ (x.length : Int) ≤ (x ++ (before ++ z)).length := by
    rw [List.length_append]
    omega
  rw [exchange?, if_pos inside, Int.toNat_natCast, List.drop_left, List.take_left,
    literal?_append]
  rfl

theorem Replaced.exchange {old inserted new : Text} {span region : Span}
    (h : Replaced old span inserted new region) :
    exchange? span.start (span.cut old) inserted old = some new := by
  obtain ⟨⟨ordered, inside⟩, rfl, slice, before, after⟩ := h
  have size : (old.take span.start).length = span.start := by
    rw [List.length_take]
    omega
  have result : new = old.take span.start ++ (inserted ++ old.drop span.stop) := by
    have parts := Span.split (Nat.le_add_right span.start inserted.length) new
    rwa [slice, before, after] at parts
  have exchanged := exchange?_middle (old.take span.start) (span.cut old) inserted
    (old.drop span.stop)
  rwa [size, ← Span.split ordered, ← result] at exchanged

/-- The stage that events lead to. Every stage must be entered from the one before it, and every
failure must name the stage it happened in. -/
def follow? : Stage → List Event → Option Stage
  | st, [] => some st
  | st, .stage source target _ :: es => if source = st then follow? target es else none
  | st, .failure _ _ named :: es => if named = st then follow? st es else none
  | st, .edit _ _ _ _ _ :: es => follow? st es

def readEvents (d : Declaration) : List Event :=
  [.stage .idle .headerMatched (String.ofList d.signature.name),
    .stage .headerMatched .bodyValidated (Session.argumentCount d.signature)]

section
variable (s : Session)

/-- The primary text once the placeholder has become the call. -/
def PutsCall (d : Declaration) (primary : Text) : Prop :=
  exchange? d.placeholder.start (d.placeholder.cut s.desk.primary)
    (callText s.settings.macroName.text d.signature) s.desk.primary = some primary

/-- The companion text once the variant stands in the slot, on a line of its own. -/
def PutsVariant (d : Declaration) (slot : Nat) (variant held : Text) : Prop :=
  ∃ t, (s.desk.companion.read s.desk.disk).1 = .ok t ∧
    enumSlot t s.settings.enumName.text = .ok slot ∧
    OwnLine t slot (variantText d.signature) variant ∧ exchange? slot [] variant t = some held

/-- The five ways of a run at an offset: the events it logs, the stage it ends in, its failure and
the desk it leaves. -/
inductive Walk (offset : Int) : List Event → Stage → Option Failure → Desk → Prop where
  | noHeader {f : Failure} {position : Int}
      (unread : parse s.desk.primary offset = .error (.noHeader position))
      (kind : f.kind = .header) :
      Walk offset
        [.failure .header f.message .idle, .stage .idle .aborted "NotAFunctionHeader"]
        .aborted (some f) s.desk
  | unexpectedBody {f : Failure} {name : Text} {position : Nat}
      (unread : parse s.desk.primary offset = .error (.unexpectedBody name position))
      (kind : f.kind = .body) :
      Walk offset
        [.stage .idle .headerMatched "", .failure .body f.message .headerMatched,
          .stage .headerMatched .aborted "UnexpectedBody"]
        .aborted (some f) s.desk
  | unlocated {f : Failure} {d : Declaration} {primary : Text}
      (read : parse s.desk.primary offset = .ok d) (call : PutsCall s d primary)
      (nowhere : ∀ t, (s.desk.companion.read s.desk.disk).1 = .ok t →
        ∃ cause, enumSlot t s.settings.enumName.text = .error cause)
      (kept : ((s.desk.companion.read s.desk.disk).2.read s.desk.disk).1 =
        (s.desk.companion.read s.desk.disk).1)
      (kind : f.kind = .enumTarget) :
      Walk offset
        (readEvents d ++ [.stage .bodyValidated .primaryEdited "",
          .failure .enumTarget f.message .primaryEdited])
        .primaryEdited (some f) ⟨primary, (s.desk.companion.read s.desk.disk).2, s.desk.disk⟩
  | unsaved {f : Failure} {d : Declaration} {desk : Desk} {variant : Text} {slot : Nat}
      {cause : SaveError}
      (read : parse s.desk.primary offset = .ok d) (call : PutsCall s d desk.primary)
      (put : PutsVariant s d slot variant desk.companion.held)
      (failed : (s.desk.companion.store desk.companion.held).save s.desk.disk =
        (.error cause, desk.companion, desk.disk))
      (kind : f.kind = .persistence) :
      Walk offset
        (readEvents d ++ [.stage .bodyValidated .primaryEdited "",
          .stage .primaryEdited .companionLocated "",
          .stage .companionLocated .companionEdited "",
          .failure .persistence f.message .companionEdited])
        .companionEdited (some f) desk
  | persisted {d : Declaration} {desk : Desk} {variant : Text} {slot : Nat}
      (read : parse s.desk.primary offset = .ok d) (call : PutsCall s d desk.primary)
      (put : PutsVariant s d slot variant desk.companion.held)
      (saved : (s.desk.companion.store desk.companion.held).save s.desk.disk =
        (.ok (), desk.companion, desk.disk)) :
      Walk offset
        (readEvents d ++ [.stage .bodyValidated .primaryEdited "",
          .stage .primaryEdited .companionLocated "",
          .stage .companionLocated .companionEdited "",
          .stage .companionEdited .persisted "",
          .edit "primary" d.placeholder.start
            ↑(d.placeholder.start + (callText s.settings.macroName.text d.signature).length)
            (d.placeholder.cut s.desk.primary) (callText s.settings.macroName.text d.signature),
          .edit "secondary" slot ↑(slot + variant.length) [] variant])
        .persisted none desk

end

section
variable {s : Session} {offset : Int} {d : Declaration} {primary : Text}

theorem PutsCall.eq {x placeholder z : Text} (h : PutsCall s d primary)
    (stub : StubAt s.desk.primary offset d x placeholder z) :
    primary = x ++ (callText s.settings.macroName.text d.signature ++ z) := by
  have cut : d.placeholder.cut s.desk.primary = placeholder := by
    rw [stub.text, stub.span, Span.cut, ← List.append_assoc, ← List.length_append, List.take_left,
      List.drop_left]
  have exchanged := exchange?_middle x placeholder
    (callText s.settings.macroName.text d.signature) z
  rw [PutsCall, cut, stub.span, stub.text] at h
  exact Option.some.inj (h.symm.trans exchanged)

theorem PutsCall.quotes (h : PutsCall s d primary) (read : parse s.desk.primary offset = .ok d) :
    primary.count '"' < s.desk.primary.count '"' := by
  obtain ⟨x, placeholder, z, stub, valid, placed⟩ := exists_stubAt read
  have none : (callText s.settings.macroName.text d.signature).count '"' = 0 :=
    List.count_eq_zero.mpr ((callText_quiet s.settings.macroName valid).not_mem (by decide))
  have some : 0 < placeholder.count '"' := List.count_pos_iff.mpr placed.quoted
  rw [h.eq stub, stub.text]
  simp only [List.count_append, none]
  omega

end

namespace Walk
variable {s : Session} {offset : Int} {events : List Event} {stage : Stage}
  {failure : Option Failure} {desk : Desk}

theorem follows (h : Walk s offset events stage failure desk) :
    follow? .idle events = some stage := by
  cases h <;> rfl

theorem kept (h : Walk s offset events stage failure desk)
    (untouched : stage.primaryModified = false) : desk = s.desk := by
  cases h with
  | noHeader => rfl
  | unexpectedBody => rfl
  | unlocated => cases untouched
  | unsaved => cases untouched
  | persisted => cases untouched

theorem quotes (h : Walk s offset events stage failure desk)
    (touched : stage.primaryModified = true) :
    desk.primary.count '"' < s.desk.primary.count '"' := by
  cases h with
  | noHeader => cases touched
  | unexpectedBody => cases touched
  | unlocated read call => exact call.quotes read
  | unsaved read call => exact call.quotes read
  | persisted read call => exact call.quotes read

theorem modified (h : Walk s offset events stage failure desk) :
    stage.primaryModified = true ↔ desk.primary ≠ s.desk.primary := by
  constructor
  · intro touched same
    have fewer := h.quotes touched
    rw [same] at fewer
    exact Nat.lt_irrefl _ fewer
  · intro changed
    apply Bool.of_not_eq_false
    intro untouched
    exact changed (congrArg Desk.primary (h.kept untouched))

end Walk

/-- A run that went one of the ways and logged it behind what was logged before. -/
structure Walked (s : Session) (offset : Int) (r : Report) (s' : Session) : Prop where
  walk : Walk s offset r.events r.stage r.failure? s'.desk
  chained : follow? .idle r.events = some r.stage
  modified : r.stage.primaryModified = true ↔ s'.desk.primary ≠ s.desk.primary
  logged : s'.journal.events = s.journal.events ++ r.events
  stage : s'.journal.stage = r.stage
  settings : s'.settings = s.settings

theorem walked_of_journal {s s' : Session} {offset : Int} {name : Option Text}
    {result : Except Failure Recorded} {new : List Event}
    (journal : s'.journal.events = s.journal.events ++ new) (settings : s'.settings = s.settings)
    (walk : Walk s offset new s'.journal.stage
      (s'.report s.journal.events.length name result).failure? s'.desk) :
    Walked s offset (s'.report s.journal.events.length name result) s' := by
  have events : (s'.report s.journal.events.length name result).events = new :=
    Journal.eventsSince_append journal
  refine ⟨?_, ?_, walk.modified, ?_, rfl, settings⟩
  · rw [events]
    exact walk
  · rw [events]
    exact walk.follows
  · rw [events]
    exact journal

theorem run_unread_walked {s : Session} {offset : Int} {e : ParseError}
    (unread : parse s.desk.primary offset = .error e) :
    Walked s offset (s.run offset).1 (s.run offset).2 := by
  simp only [Session.run, unread]
  cases e with
  | noHeader position =>
    refine walked_of_journal ?_ rfl (.noHeader unread rfl)
    simp [Journal.abort, ParseError.toFailure, FailureKind.label]
  | unexpectedBody name position =>
    refine walked_of_journal ?_ rfl (.unexpectedBody unread rfl)
    simp [Journal.abort, ParseError.toFailure, FailureKind.label]

theorem record_tells {s : Session} {offset : Int} {d : Declaration}
    (usual : s.desk.companion.Usual) (read : parse s.desk.primary offset = .ok d) :
    (d.placeholder.start ≤ d.placeholder.stop ∧ d.placeholder.stop ≤ s.desk.primary.length) ∧
    Tells d s.settings.macroName s.settings.enumName s.desk
      (record d s.settings.macroName.text s.settings.enumName.text s.desk) := by
  obtain ⟨x, placeholder, z, stub, _⟩ := exists_stubAt read
  have edited : Replaced s.desk.primary d.placeholder
      (callText s.settings.macroName.text d.signature)
      (x ++ (callText s.settings.macroName.text d.signature ++ z))
      ⟨x.length, x.length + (callText s.settings.macroName.text d.signature).length⟩ := by
    rw [stub.text, stub.span]
    exact replaceRegion_replaced (replaceRegion_middle ..)
  rw [record_stubAt stub rfl]
  exact ⟨edited.inside, recordVariant_tells usual edited⟩

theorem BothEdited.exchanges {s : Session} {d : Declaration} {o : Recorded} {primary held : Text}
    (h : BothEdited d s.settings.macroName s.settings.enumName s.desk o primary held) :
    PutsCall s d primary ∧ o.primaryRegion =
      ⟨d.placeholder.start,
        d.placeholder.start + (callText s.settings.macroName.text d.signature).length⟩ ∧
    ∃ slot, PutsVariant s d slot o.variant held ∧
      o.companionRegion = ⟨slot, slot + o.variant.length⟩ := by
  obtain ⟨called, primary, t, slot, text, located, put, line⟩ := h
  rw [called] at primary
  have empty : Span.cut ⟨slot, slot⟩ t = [] := by simp [Span.cut]
  have exchanged := put.exchange
  rw [empty] at exchanged
  exact ⟨primary.exchange, primary.place, slot, ⟨t, text, located, line, exchanged⟩, put.place⟩

theorem run_read_walked {s : Session} {offset : Int} {d : Declaration}
    (usual : s.desk.companion.Usual) (read : parse s.desk.primary offset = .ok d) :
    Walked s offset (s.run offset).1 (s.run offset).2 := by
  obtain ⟨inside, tells⟩ := record_tells usual read
  simp only [Session.run, read, Session.convert]
  generalize record d s.settings.macroName.text s.settings.enumName.text s.desk = recording
    at tells ⊢
  cases tells with
  | misfit outside => exact absurd inside outside
  | unlocated edited nowhere kept _ kind =>
    refine walked_of_journal ?_ rfl (.unlocated read edited.exchange nowhere kept kind)
    simp [readEvents, kind]
  | unsaved edited failed kind =>
    obtain ⟨call, _, slot, put, _⟩ := edited.exchanges
    refine walked_of_journal ?_ rfl (.unsaved read call put failed kind)
    simp [readEvents, kind]
  | persisted edited saved =>
    obtain ⟨call, place, slot, put, region⟩ := edited.exchanges
    refine walked_of_journal ?_ rfl (.persisted read call put saved)
    simp [readEvents, place, region, edited.call]

theorem run_walked {s : Session} (usual : s.desk.companion.Usual) (offset : Int) :
    Walked s offset (s.run offset).1 (s.run offset).2 := by
  cases read : parse s.desk.primary offset with
  | error e => exact run_unread_walked read
  | ok d => exact run_read_walked usual read

namespace Companion.Usual
variable {c : Companion}

theorem store (h : c.Usual) (t : Text) : (c.store t).Usual := by
  cases c with
  | memory buffer refusal => trivial
  | file buffer => exact h

theorem read (h : c.Usual) (d : Disk) : (c.read d).2.Usual := by
  cases c with
  | memory buffer refusal => trivial
  | file buffer =>
    simp only [Companion.read, DiskBuffer.read]
    split
    · exact h
    · split <;> exact h

theorem replace (h : c.Usual) (d : Disk) (start stop : Int) (new : Text) :
    (c.replace d start stop new).2.Usual := by
  cases c with
  | memory buffer refusal =>
    simp only [Companion.replace]
    split <;> trivial
  | file buffer =>
    have opened : Usual (.file (buffer.read d).2) := h.read d
    simp only [Companion.replace, DiskBuffer.replace]
    generalize buffer.read d = out at opened
    rcases out with ⟨e | t, buffer⟩
    · exact opened
    · simp only
      split
      · exact opened.store _
      · exact opened

theorem save (h : c.Usual) (d : Disk) : (c.save d).2.1.Usual := by
  cases c with
  | memory buffer refusal => cases refusal <;> trivial
  | file buffer =>
    have opened : Usual (.file (buffer.read d).2) := h.read d
    simp only [Companion.save, DiskBuffer.save]
    generalize buffer.read d = out at opened
    rcases out with ⟨e | t, buffer⟩
    · exact opened
    · rcases written : d.writeText buffer.path buffer.encoding t with ⟨e | ⟨⟨⟩⟩, disk⟩ <;>
        simp only [written] <;> exact opened

end Companion.Usual

theorem Walk.usual {s : Session} {offset : Int} {events : List Event} {stage : Stage}
    {failure : Option Failure} {desk : Desk} (h : Walk s offset events stage failure desk)
    (usual : s.desk.companion.Usual) : desk.companion.Usual := by
  cases h with
  | noHeader => exact usual
  | unexpectedBody => exact usual
  | unlocated => exact usual.read s.desk.disk
  | @unsaved _ _ desk _ _ _ _ _ _ failed =>
    have after := (usual.store desk.companion.held).save s.desk.disk
    rwa [failed] at after
  | persisted _ _ _ saved =>
    have after := (usual.store desk.companion.held).save s.desk.disk
    rwa [saved] at after

/-- Runs one after another, each of them walked. -/
inductive Course : Session → List Report → Session → Prop where
  | done {s : Session} : Course s [] s
  | next {s s' s'' : Session} {r : Report} {rs : List Report} {offset : Int} :
      s.run offset = (r, s') → Walked s offset r s' → Course s' rs s'' → Course s (r :: rs) s''

theorem Course.run {s : Session} (usual : s.desk.companion.Usual) (offset : Int) :
    Course s [(s.run offset).1] (s.run offset).2 :=
  .next rfl (run_walked usual offset) .done

theorem Batch.course {s s' : Session} {rs : List Report} (h : Batch s rs s')
    (usual : s.desk.companion.Usual) : Course s rs s' := by
  induction h with
  | done => exact .done
  | @stop s _ _ offset _ ran _ =>
    have walked := run_walked usual offset
    rw [ran] at walked
    exact .next ran walked .done
  | @next s _ _ _ _ offset _ ran _ _ ih =>
    have walked := run_walked usual offset
    rw [ran] at walked
    exact .next ran walked (ih (walked.walk.usual usual))

theorem Course.usual {s s' : Session} {rs : List Report} (h : Course s rs s')
    (usual : s.desk.companion.Usual) : s'.desk.companion.Usual := by
  induction h with
  | done => exact usual
  | next _ walked _ ih => exact ih (walked.walk.usual usual)

inductive Call where
  | run (offset : Int)
  | all
deriving DecidableEq, Repr

def Session.call (s : Session) : Call → List Report × Session
  | .run offset => ([(s.run offset).1], (s.run offset).2)
  | .all => s.runAll

/-- What can happen to a session: a call, or an edit of either text by hand. -/
inductive Action where
  | call (c : Call)
  | edit (start stop : Int) (new : Text)
  | editCompanion (start stop : Int) (new : Text)
deriving DecidableEq, Repr

/-- An edit outside the text changes nothing, though it may have the companion read. -/
def Session.act (s : Session) : Action → Session
  | .call c => (s.call c).2
  | .edit start stop new =>
    match replaceRegion s.desk.primary start stop new with
    | .ok t => { s with desk := { s.desk with primary := t } }
    | .error _ => s
  | .editCompanion start stop new =>
    let (_, companion) := s.desk.companion.replace s.desk.disk start stop new
    { s with desk := { s.desk with companion := companion } }

def Session.after (s : Session) (actions : List Action) : Session := actions.foldl Session.act s

theorem call_course {s : Session} (usual : s.desk.companion.Usual) (c : Call) :
    Course s (s.call c).1 (s.call c).2 := by
  cases c with
  | run offset => exact .run usual offset
  | all => exact (runAll_batch s).course usual

end RecorderStubs
