import RecorderStubs.Proofs.Walk

/-! The logged edits, made again on the texts of an earlier time. They lead to the texts of today
as long as every run that began to edit came to its end: a run logs its edits only when it is done,
so what a run changed that stopped half-way is missing from the journal. -/
namespace RecorderStubs

structure TextPair where
  primary : Text
  companion : Text
deriving DecidableEq, Repr

def Session.texts (s : Session) : TextPair := ⟨s.desk.primary, s.desk.companion.held⟩

/-- A logged edit, made again. Other events change no text. -/
def TextPair.redo? (ts : TextPair) : Event → Option TextPair
  | .edit target start _ before after =>
    if target = "primary" then
      (exchange? start before after ts.primary).map (fun t => { ts with primary := t })
    else if target = "secondary" then
      (exchange? start before after ts.companion).map (fun t => { ts with companion := t })
    else none
  | .stage _ _ _ => some ts
  | .failure _ _ _ => some ts

def TextPair.replay? (ts : TextPair) (events : List Event) : Option TextPair := events.foldlM TextPair.redo? ts

theorem TextPair.replay?_append {ts ts' : TextPair} {es fs : List Event}
    (h : ts.replay? es = some ts') : ts.replay? (es ++ fs) = ts'.replay? fs := by
  rw [replay?, List.foldlM_append]
  exact congrArg (fun o => o >>= fun ts => fs.foldlM redo? ts) h

def Report.halfDone (r : Report) : Bool := !r.succeeded && r.stage.primaryModified

theorem Report.halfDone_eq (r : Report) :
    r.halfDone = (r.failure?.isSome && r.stage.primaryModified) := by
  rw [halfDone, succeeded_eq, Option.not_isNone]

section
variable {s s' : Session} {offset : Int} {events : List Event} {stage : Stage} {desk : Desk}
  {r : Report} {buffer : Buffer} {refusal : Option String}

theorem Walk.redone (h : Walk s offset events stage none desk)
    (memory : s.desk.companion = .memory buffer refusal) :
    s.texts.replay? events = some ⟨desk.primary, desk.companion.held⟩ := by
  cases h with
  | persisted read call put saved =>
    obtain ⟨t, text, _, _, exchanged⟩ := put
    have held : s.desk.companion.held = t := by
      rw [memory] at text ⊢
      exact Except.ok.inj text
    rw [← held] at exchanged
    rw [PutsCall] at call
    simp [readEvents, TextPair.replay?, TextPair.redo?, Session.texts, call, exchanged]

theorem Walk.unlogged {f : Failure} (h : Walk s offset events stage (some f) desk) (ts : TextPair) :
    ts.replay? events = some ts := by
  cases h <;> rfl

theorem Walked.replay (h : Walked s offset r s')
    (memory : s.desk.companion = .memory buffer refusal) (whole : r.halfDone = false) :
    s.texts.replay? r.events = some s'.texts := by
  have walk := h.walk
  cases failure : r.failure? with
  | none =>
    rw [failure] at walk
    exact walk.redone memory
  | some f =>
    rw [failure] at walk
    rw [Report.halfDone_eq, failure] at whole
    have kept : s'.texts = s.texts := by
      rw [Session.texts, walk.kept whole]
      rfl
    rw [kept]
    exact walk.unlogged s.texts

end

section
variable (enumName : Identifier)

/-- A companion in memory that takes variants. -/
def Open (c : Companion) : Prop :=
  ∃ buffer slot, c = .memory buffer none ∧ enumSlot buffer.text enumName.text = .ok slot

/-- A companion in memory that cannot be saved or has no slot. -/
def Shut (c : Companion) : Prop :=
  ∃ buffer refusal, c = .memory buffer refusal ∧
    (refusal = none → ∃ e, enumSlot buffer.text enumName.text = .error e)

theorem open_or_shut (buffer : Buffer) (refusal : Option String) :
    Open enumName (.memory buffer refusal) ∨ Shut enumName (.memory buffer refusal) := by
  cases refusal with
  | some reason => exact .inr ⟨buffer, some reason, rfl, by simp⟩
  | none =>
    cases slot : enumSlot buffer.text enumName.text with
    | ok offset => exact .inl ⟨buffer, offset, rfl, slot⟩
    | error e => exact .inr ⟨buffer, none, rfl, fun _ => ⟨e, slot⟩⟩

end

section
variable {s : Session} {offset : Int} {events : List Event} {stage : Stage}
  {failure : Option Failure} {desk : Desk}

theorem PutsVariant.located {d : Declaration} {slot : Nat} {variant held : Text}
    (h : PutsVariant s d slot variant held) (valid : d.signature.Valid) :
    ∃ slot', enumSlot held s.settings.enumName.text = .ok slot' := by
  obtain ⟨t, _, located, line, exchanged⟩ := h
  have same : variant = variantAt t slot d.signature := by
    rw [variantAt_eq located, line.brought]
    split <;> rfl
  have size : (t.take slot).length = slot := by
    rw [List.length_take]
    exact Nat.min_eq_left (enumSlot_bounds located).2
  have inserted := exchange?_middle (t.take slot) [] variant (t.drop slot)
  rw [size, List.nil_append, List.take_append_drop, exchanged, same, ← List.append_assoc,
    ← withVariants_one located] at inserted
  rw [Option.some.inj inserted]
  exact ⟨_, enumSlot_withVariants located valid⟩

/-- A companion that takes variants goes on to take them, and no run stops half-way. -/
theorem Walk.open (h : Walk s offset events stage failure desk)
    (takes : Open s.settings.enumName s.desk.companion) :
    Open s.settings.enumName desk.companion ∧
      (failure.isSome = true → stage.primaryModified = false) := by
  obtain ⟨buffer, slot, memory, located⟩ := takes
  cases h with
  | noHeader => exact ⟨⟨buffer, slot, memory, located⟩, fun _ => rfl⟩
  | unexpectedBody => exact ⟨⟨buffer, slot, memory, located⟩, fun _ => rfl⟩
  | unlocated read call nowhere =>
    rw [memory] at nowhere
    obtain ⟨e, missing⟩ := nowhere buffer.text rfl
    cases located.symm.trans missing
  | unsaved read call put refused =>
    rw [memory] at refused
    cases refused
  | persisted read call put saved =>
    obtain ⟨_, _, _, _, valid, _⟩ := exists_stubAt read
    rw [memory] at saved
    have kept : desk.companion = .memory { buffer with
        text := desk.companion.held
        saves := buffer.saves + 1 } none := (congrArg (fun out => out.2.1) saved).symm
    obtain ⟨slot', again⟩ := put.located valid
    exact ⟨⟨_, slot', kept, again⟩, by simp⟩

theorem Walk.shut (h : Walk s offset events stage failure desk)
    (refuses : Shut s.settings.enumName s.desk.companion) :
    Shut s.settings.enumName desk.companion ∧ failure.isSome = true := by
  obtain ⟨buffer, refusal, memory, shut⟩ := refuses
  cases h with
  | noHeader => exact ⟨⟨buffer, refusal, memory, shut⟩, rfl⟩
  | unexpectedBody => exact ⟨⟨buffer, refusal, memory, shut⟩, rfl⟩
  | unlocated read call nowhere =>
    have same : (s.desk.companion.read s.desk.disk).2 = s.desk.companion := by
      rw [memory]
      rfl
    rw [same]
    exact ⟨⟨buffer, refusal, memory, shut⟩, rfl⟩
  | unsaved read call put refused =>
    rw [memory] at refused
    cases refusal with
    | none => cases refused
    | some reason =>
      have kept := (congrArg (fun out => out.2.1) refused).symm
      exact ⟨⟨_, some reason, kept, by simp⟩, rfl⟩
  | persisted read call put saved =>
    rw [memory] at saved
    cases refusal with
    | some reason => cases saved
    | none =>
      -- What is saved has its variant in a slot, and there is none.
      obtain ⟨e, missing⟩ := shut rfl
      obtain ⟨t, text, located, _⟩ := put
      rw [memory] at text
      cases text
      cases located.symm.trans missing

end

def loggedBy (rs : List Report) : List Event := (rs.map Report.events).flatten

section
variable {s s' : Session} {rs : List Report}

theorem Course.logged (h : Course s rs s') :
    s'.journal.events = s.journal.events ++ loggedBy rs := by
  induction h with
  | done => simp [loggedBy]
  | next _ walked _ ih => simp [ih, walked.logged, loggedBy]

theorem Course.append {s'' : Session} {rs' : List Report} (h : Course s rs s')
    (h' : Course s' rs' s'') : Course s (rs ++ rs') s'' := by
  induction h with
  | done => exact h'
  | next ran walked _ ih => exact .next ran walked (ih h')

theorem Course.open (h : Course s rs s') (takes : Open s.settings.enumName s.desk.companion) :
    (∀ r ∈ rs, r.halfDone = false) ∧ s.texts.replay? (loggedBy rs) = some s'.texts := by
  induction h with
  | done => exact ⟨by simp, rfl⟩
  | @next s s' s'' r rs offset ran walked rest ih =>
    obtain ⟨later, whole⟩ := walked.walk.open takes
    have own : r.halfDone = false := by
      rw [Report.halfDone_eq]
      exact Bool.and_eq_false_imp.mpr whole
    obtain ⟨buffer, slot, memory, _⟩ := takes
    rw [← walked.settings] at later
    obtain ⟨others, replayed⟩ := ih later
    refine ⟨List.forall_mem_cons.mpr ⟨own, others⟩, ?_⟩
    have first := walked.replay memory own
    exact (TextPair.replay?_append first).trans replayed

/-- Runs that log no edit, though every one that stops half-way changes the primary text. -/
structure Stalled (s : Session) (rs : List Report) (s' : Session) : Prop where
  unlogged : ∀ ts : TextPair, ts.replay? (loggedBy rs) = some ts
  fewest : s'.desk.primary.count '"' ≤ s.desk.primary.count '"'
  kept : (∀ r ∈ rs, r.halfDone = false) → s'.desk = s.desk
  fewer : ∀ r ∈ rs, r.halfDone = true → s'.desk.primary.count '"' < s.desk.primary.count '"'

theorem Course.shut (h : Course s rs s') (refuses : Shut s.settings.enumName s.desk.companion) :
    Stalled s rs s' := by
  -- No later run puts a quote back, so what a run has changed stays a change.
  induction h with
  | done => exact ⟨fun _ => rfl, Nat.le_refl _, fun _ => rfl, by simp⟩
  | @next s s' s'' r rs offset ran walked rest ih =>
    obtain ⟨later, failed⟩ := walked.walk.shut refuses
    rw [← walked.settings] at later
    obtain ⟨unlogged, fewest, kept, fewer⟩ := ih later
    have half : r.halfDone = r.stage.primaryModified := by
      rw [Report.halfDone_eq, failed, Bool.true_and]
    have bound : s'.desk.primary.count '"' ≤ s.desk.primary.count '"' := by
      cases touched : r.stage.primaryModified with
      | true => exact Nat.le_of_lt (walked.walk.quotes touched)
      | false => rw [walked.walk.kept touched]
    refine ⟨fun ts => ?_, Nat.le_trans fewest bound, fun whole => ?_, ?_⟩
    · obtain ⟨f, failure⟩ := Option.isSome_iff_exists.mp failed
      have walk := walked.walk
      rw [failure] at walk
      exact (TextPair.replay?_append (walk.unlogged ts)).trans (unlogged ts)
    · obtain ⟨own, others⟩ := List.forall_mem_cons.mp whole
      rw [half] at own
      exact (kept others).trans (walked.walk.kept own)
    · refine List.forall_mem_cons.mpr ⟨fun own => ?_, fun r member other => ?_⟩
      · rw [half] at own
        exact Nat.lt_of_le_of_lt fewest (walked.walk.quotes own)
      · exact Nat.lt_of_lt_of_le (fewer r member other) bound

end

def Session.calls (s : Session) : List Call → List Report × Session
  | [] => ([], s)
  | c :: cs =>
    let (rs, s) := s.call c
    let (rs', s) := s.calls cs
    (rs ++ rs', s)

theorem calls_course {s : Session} (usual : s.desk.companion.Usual) (cs : List Call) :
    Course s (s.calls cs).1 (s.calls cs).2 := by
  induction cs generalizing s with
  | nil => exact .done
  | cons c cs ih =>
    have first := call_course usual c
    exact first.append (ih (first.usual usual))

/-- What was logged during calls leads from the texts before them to those behind them as long as
no run stopped half-way. Where one did, no edit was logged at all, though the texts have changed. -/
theorem replay_of_calls (s : Session) {buffer : Buffer} {refusal : Option String}
    (memory : s.desk.companion = .memory buffer refusal) (cs : List Call) :
    ((∀ r ∈ (s.calls cs).1, r.halfDone = false) →
      s.texts.replay? ((s.calls cs).2.journal.eventsSince (some s.journal.events.length)) =
        some (s.calls cs).2.texts) ∧
    ((∃ r ∈ (s.calls cs).1, r.halfDone = true) →
      s.texts.replay? ((s.calls cs).2.journal.eventsSince (some s.journal.events.length)) =
        some s.texts ∧ (s.calls cs).2.desk.primary ≠ s.desk.primary) := by
  have usual : s.desk.companion.Usual := by
    rw [memory]
    trivial
  have course := calls_course usual cs
  rw [Journal.eventsSince_append course.logged]
  rcases open_or_shut s.settings.enumName buffer refusal with takes | refuses
  · rw [← memory] at takes
    obtain ⟨whole, replayed⟩ := course.open takes
    refine ⟨fun _ => replayed, ?_⟩
    rintro ⟨r, member, half⟩
    rw [whole r member] at half
    cases half
  · rw [← memory] at refuses
    have stalled := course.shut refuses
    refine ⟨fun whole => ?_, ?_⟩
    · rw [Session.texts, Session.texts, stalled.kept whole]
      exact stalled.unlogged _
    · rintro ⟨r, member, half⟩
      refine ⟨stalled.unlogged _, fun equal => ?_⟩
      have less := stalled.fewer r member half
      rw [equal] at less
      exact Nat.lt_irrefl _ less

def lostEdit : Session :=
  ⟨{}, ⟨"fn foo(&self) \x7b unimplemented!(\"x\"); \x7d".toList,
    .memory { text := "// no enum here\n".toList } none, .empty⟩, {}, []⟩

def loggedEdits : Session := ⟨{}, twoStubsDesk, {}, []⟩

theorem replay_of_calls_two :
    (∃ r ∈ (lostEdit.calls [.run 0, .all]).1, r.halfDone = true) ∧
    (lostEdit.calls [.run 0, .all]).2.desk.primary ≠ lostEdit.desk.primary ∧
    (∀ r ∈ (loggedEdits.calls [.run 3, .run 55, .all]).1, r.halfDone = false) ∧
    loggedEdits.texts.replay?
      ((loggedEdits.calls [.run 3, .run 55, .all]).2.journal.eventsSince (some 0)) =
        some (loggedEdits.calls [.run 3, .run 55, .all]).2.texts :=
  have half : ∃ r ∈ (lostEdit.calls [.run 0, .all]).1, r.halfDone = true := by decide +kernel
  have whole : ∀ r ∈ (loggedEdits.calls [.run 3, .run 55, .all]).1, r.halfDone = false := by
    decide +kernel
  ⟨half, ((replay_of_calls lostEdit rfl _).2 half).2, whole,
    (replay_of_calls loggedEdits rfl _).1 whole⟩

/-- The placeholder is gone, and no logged edit tells of it. -/
theorem replay_lacks_edit :
    lostEdit.texts.replay? ((lostEdit.calls [.run 0]).2.journal.eventsSince (some 0)) ≠
      some (lostEdit.calls [.run 0]).2.texts := by
  decide +kernel

end RecorderStubs
