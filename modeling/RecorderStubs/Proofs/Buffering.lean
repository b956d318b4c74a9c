import RecorderStubs.Buffer.Basic
import RecorderStubs.Proofs.Storage

/-! The buffer of a file over time. Its text is asked for, edited and saved, while other hands change
the disk. What the buffer holds can be told from what has been done and what has failed: the text is
that of the first reading with all edits since, and it is dirty if an edit came after the last
save. -/
namespace RecorderStubs

/-- What may happen. A direct step is any change of the disk by another hand; the file may be
written, deleted or locked. -/
inductive BufferStep (α : Type) where
  | text
  | replace (start stop : Int) (new : List α)
  | insert (offset : Int) (new : List α)
  | save
  | direct (change : Disk → Disk)

structure RegionEdit (α : Type) where
  start : Int
  stop : Int
  new : List α
deriving DecidableEq, Repr

def RegionEdit.apply (t : List α) (e : RegionEdit α) : Except RegionError (List α) :=
  replaceRegion t e.start e.stop e.new

namespace BufferStep

def edit? : BufferStep α → Option (RegionEdit α)
  | replace start stop new => some ⟨start, stop, new⟩
  | insert offset new => some ⟨offset, offset, new⟩
  | _ => none

def isSave : BufferStep α → Bool
  | save => true
  | _ => false

def isDirect : BufferStep α → Bool
  | direct _ => true
  | _ => false

end BufferStep

theorem isDirect_of_edit? {step : BufferStep α} {e : RegionEdit α} (h : step.edit? = some e) :
    step.isDirect = false := by
  cases step with
  | direct change => cases h
  | _ => rfl

structure BufferState (α : Type) where
  buffer : DiskBuffer α
  disk : Disk

def failure? {ε α : Type} : Except ε α → Option ε
  | .ok _ => none
  | .error e => some e

def DiskBuffer.hold (b : DiskBuffer α) (t : List α) : DiskBuffer α := { b with cached := some t }

/-- A step that has been taken: the disk as it was, and how the step failed if it did. -/
structure PastStep (α : Type) where
  step : BufferStep α
  disk : Disk
  failure : Option EditError

namespace PastStep

def edit? (x : PastStep α) : Option (RegionEdit α) :=
  if x.failure.isNone then x.step.edit? else none

def saved (x : PastStep α) : Bool := x.step.isSave && x.failure.isNone

end PastStep

structure History (α : Type) where
  past : List (PastStep α)
  state : BufferState α

/-- An edit has succeeded, and no save since. -/
def Unsaved (past : List (PastStep α)) : Prop :=
  ∃ before x after, past = before ++ x :: after ∧ x.edit?.isSome = true ∧
    ∀ y ∈ after, y.saved = false

theorem unsaved_concat (past : List (PastStep α)) (x : PastStep α) :
    Unsaved (past ++ [x]) ↔ x.edit?.isSome = true ∨ x.saved = false ∧ Unsaved past := by
  constructor
  · rintro ⟨before, y, after, split, edited, rest⟩
    rcases List.eq_nil_or_concat after with rfl | ⟨after, z, rfl⟩
    · obtain ⟨_, same⟩ := List.append_inj' split rfl
      cases same
      exact .inl edited
    · rw [List.concat_eq_append, ← List.cons_append, ← List.append_assoc] at split
      obtain ⟨rfl, same⟩ := List.append_inj' split rfl
      cases same
      refine .inr ⟨rest x (by simp), before, y, after, rfl, edited, fun z member => ?_⟩
      exact rest z (by simp [member])
  · rintro (edited | ⟨unsaved, before, y, after, rfl, edited, rest⟩)
    · exact ⟨past, x, [], rfl, edited, fun y none => absurd none List.not_mem_nil⟩
    · refine ⟨before, y, after ++ [x], by simp, edited, fun z member => ?_⟩
      rcases List.mem_append.mp member with earlier | last
      · exact rest z earlier
      · rw [List.mem_singleton.mp last]
        exact unsaved

/-- The edits that have succeeded, one after another, on a text. -/
def editedText (t : List α) (past : List (PastStep α)) : Except RegionError (List α) :=
  (past.filterMap PastStep.edit?).foldlM RegionEdit.apply t

theorem editedText_concat {t u : List α} (h : editedText t past = .ok u) (y : PastStep α) :
    editedText t (past ++ [y]) = editedText u [y] := by
  unfold editedText at h ⊢
  rw [List.filterMap_append, List.foldlM_append, h]
  rfl

variable {α : Type} [Coded α]

def BufferState.act (s : BufferState α) : BufferStep α → Option EditError × BufferState α
  | .text =>
    let (result, b) := s.buffer.read s.disk
    ((failure? result).map .file, ⟨b, s.disk⟩)
  | .replace start stop new =>
    let (result, b) := s.buffer.replace s.disk start stop new
    (failure? result, ⟨b, s.disk⟩)
  | .insert offset new =>
    let (result, b) := s.buffer.insert s.disk offset new
    (failure? result, ⟨b, s.disk⟩)
  | .save =>
    let (result, b, d) := s.buffer.save s.disk
    ((failure? result).map .file, ⟨b, d⟩)
  | .direct change => (none, ⟨s.buffer, change s.disk⟩)

/-- The text that a buffer has or gets from the disk. -/
def DiskBuffer.Reads (b : DiskBuffer α) (d : Disk) (t : List α) : Prop :=
  b.cached = some t ∨
    b.cached = none ∧ (d.readText b.path b.encoding).map Coded.text = .ok t

/-- What a step can do. Every step but a direct one needs the text first. -/
inductive Acted (s : BufferState α) : BufferStep α → Option EditError → BufferState α → Prop where
  | direct (change : Disk → Disk) : Acted s (.direct change) none ⟨s.buffer, change s.disk⟩
  | unread {step : BufferStep α} {e : FileError} : step.isDirect = false → s.buffer.cached = none →
      s.disk.readText s.buffer.path s.buffer.encoding = .error e →
      Acted s step (some (.file e)) s
  | looked {t : List α} : s.buffer.Reads s.disk t → Acted s .text none ⟨s.buffer.hold t, s.disk⟩
  | edited {step : BufferStep α} {edit : RegionEdit α} {t u : List α} : step.edit? = some edit →
      s.buffer.Reads s.disk t → edit.apply t = .ok u →
      Acted s step none ⟨s.buffer.store u, s.disk⟩
  | rejected {step : BufferStep α} {edit : RegionEdit α} {t : List α} {e : RegionError} :
      step.edit? = some edit → s.buffer.Reads s.disk t → edit.apply t = .error e →
      Acted s step (some (.region e)) ⟨s.buffer.hold t, s.disk⟩
  | saved {t : List α} {d : Disk} : s.buffer.Reads s.disk t →
      s.disk.writeText s.buffer.path s.buffer.encoding t = (.ok (), d) →
      Acted s .save none ⟨{ s.buffer.hold t with dirty := false }, d⟩
  | unsaved {t : List α} {e : FileError} {d : Disk} : s.buffer.Reads s.disk t →
      s.disk.writeText s.buffer.path s.buffer.encoding t = (.error e, d) →
      Acted s .save (some (.file e)) ⟨s.buffer.hold t, d⟩

section
variable {b : DiskBuffer α} {d : Disk} {t : List α}

theorem read_of_cached (held : b.cached = some t) (d : Disk) : b.read d = (.ok t, b) := by
  simp only [DiskBuffer.read, held]

theorem DiskBuffer.Reads.read (h : b.Reads d t) : b.read d = (.ok t, b.hold t) := by
  rcases h with held | ⟨none, read⟩
  · rw [read_of_cached held, DiskBuffer.hold, ← held]
  · cases found : d.readText b.path b.encoding with
    | error e =>
      rw [found] at read
      cases read
    | ok raw =>
      rw [found] at read
      cases read
      simp only [DiskBuffer.read, none, found]
      rfl

theorem DiskBuffer.Reads.unique {u : List α} (h : b.Reads d t) (h' : b.Reads d u) : t = u := by
  have same := h.read.symm.trans h'.read
  cases same
  rfl

theorem read_of_unread {e : FileError} (none : b.cached = none)
    (failed : d.readText b.path b.encoding = .error e) : b.read d = (.error e, b) := by
  simp only [DiskBuffer.read, none, failed]

theorem reads_or_not (b : DiskBuffer α) (d : Disk) : (∃ t, b.Reads d t) ∨
    ∃ e, b.cached = none ∧ d.readText b.path b.encoding = .error e := by
  cases held : b.cached with
  | some t => exact .inl ⟨t, .inl held⟩
  | none =>
    cases read : d.readText b.path b.encoding with
    | ok t => exact .inl ⟨Coded.text t, .inr ⟨held, by rw [read]; rfl⟩⟩
    | error e => exact .inr ⟨e, rfl, rfl⟩

theorem reads_of_read (h : (b.read d).1 = .ok t) : b.Reads d t := by
  rcases reads_or_not b d with ⟨u, reads⟩ | ⟨e, none, failed⟩
  · rw [reads.read] at h
    cases h
    exact reads
  · rw [read_of_unread none failed] at h
    cases h

theorem read_of_unheld (none : b.cached = none) (d : Disk) :
    (b.read d).1 = (d.readText b.path b.encoding).map Coded.text := by
  simp only [DiskBuffer.read, none]
  split <;> rename_i read <;> rw [read] <;> rfl

end

theorem act_text_read {s : BufferState α} {t : List α} (reads : s.buffer.Reads s.disk t) :
    s.act .text = (none, ⟨s.buffer.hold t, s.disk⟩) := by
  simp only [BufferState.act, reads.read]
  rfl

theorem act_text_unread {s : BufferState α} {e : FileError} (none : s.buffer.cached = none)
    (failed : s.disk.readText s.buffer.path s.buffer.encoding = .error e) :
    s.act .text = (some (.file e), s) := by
  simp only [BufferState.act, read_of_unread none failed]
  rfl

theorem replace_acted {s : BufferState α} {step : BufferStep α} (e : RegionEdit α)
    (edits : step.edit? = some e) (indirect : step.isDirect = false) :
    Acted s step (failure? (s.buffer.replace s.disk e.start e.stop e.new).1)
      ⟨(s.buffer.replace s.disk e.start e.stop e.new).2, s.disk⟩ := by
  rcases reads_or_not s.buffer s.disk with ⟨t, reads⟩ | ⟨e, held, failed⟩
  · simp only [DiskBuffer.replace, reads.read]
    cases replaced : replaceRegion t e.start e.stop e.new with
    | ok u => exact .edited edits reads replaced
    | error e => exact .rejected edits reads replaced
  · simp only [DiskBuffer.replace, read_of_unread held failed]
    exact .unread indirect held failed

theorem act_acted (s : BufferState α) (step : BufferStep α) :
    Acted s step (s.act step).1 (s.act step).2 := by
  cases step with
  | text =>
    rcases reads_or_not s.buffer s.disk with ⟨t, reads⟩ | ⟨e, held, failed⟩
    · rw [act_text_read reads]
      exact .looked reads
    · rw [act_text_unread held failed]
      exact .unread rfl held failed
  | replace start stop new => exact replace_acted ⟨start, stop, new⟩ rfl rfl
  | insert offset new => exact replace_acted ⟨offset, offset, new⟩ rfl rfl
  | save =>
    rcases reads_or_not s.buffer s.disk with ⟨t, reads⟩ | ⟨e, held, failed⟩
    · cases written : s.disk.writeText s.buffer.path s.buffer.encoding t with
      | mk result d =>
        simp only [BufferState.act, DiskBuffer.save, reads.read, DiskBuffer.hold, written]
        cases result with
        | ok _ => exact .saved reads written
        | error e => exact .unsaved reads written
    · simp only [BufferState.act, DiskBuffer.save, read_of_unread held failed]
      exact .unread rfl held failed
  | direct change => exact .direct change

/-- The text of the file at that time, if the step needed it. -/
def PastStep.reading? (p : Path) (encoding : Encoding) (x : PastStep α) : Option (List α) :=
  if x.step.isDirect then none else ((x.disk.readText p encoding).map Coded.text).toOption

namespace History

def fresh (p : Path) (encoding : Encoding) (d : Disk) : History α :=
  ⟨[], ⟨{ path := p, encoding := encoding }, d⟩⟩

def next (h : History α) (step : BufferStep α) : History α :=
  ⟨h.past ++ [⟨step, h.state.disk, (h.state.act step).1⟩], (h.state.act step).2⟩

def run (h : History α) (steps : List (BufferStep α)) : History α := steps.foldl next h

theorem run_keeps {kept : History α → Prop} (keeps : ∀ h step, kept h → kept (h.next step))
    {h : History α} (start : kept h) (steps : List (BufferStep α)) : kept (h.run steps) := by
  induction steps generalizing h with
  | nil => exact start
  | cons step steps ih => exact ih (keeps h step start)

end History

section
variable (p : Path) (encoding : Encoding)

/-- The steps from the first one on at which the file could be read. -/
def sinceReading (past : List (PastStep α)) : List (PastStep α) :=
  past.dropWhile (fun x => (x.reading? p encoding).isNone)

/-- What the past lets a buffer hold: nothing before the first reading, then the text of that
reading with the edits since. -/
inductive Holds (past : List (PastStep α)) : Option (List α) → Prop where
  | unread : sinceReading p encoding past = [] → Holds past none
  | read {x : PastStep α} {after : List (PastStep α)} {t u : List α} :
      sinceReading p encoding past = x :: after → x.reading? p encoding = some t →
      editedText t (x :: after) = .ok u → Holds past (some u)

end

section
variable {p : Path} {encoding : Encoding} {past : List (PastStep α)} {held : Option (List α)}

theorem sinceReading_concat_unread (none : sinceReading p encoding past = []) (y : PastStep α) :
    sinceReading p encoding (past ++ [y]) = sinceReading p encoding [y] := by
  unfold sinceReading at none ⊢
  rw [List.dropWhile_append, none]
  rfl

theorem sinceReading_concat_read {x : PastStep α} {after : List (PastStep α)}
    (since : sinceReading p encoding past = x :: after) (y : PastStep α) :
    sinceReading p encoding (past ++ [y]) = x :: (after ++ [y]) := by
  unfold sinceReading at since ⊢
  rw [List.dropWhile_append, since]
  rfl

theorem Holds.access (h : Holds p encoding past held) {y : PastStep α} {t u : List α}
    (reads : held = some t ∨ held = none ∧ y.reading? p encoding = some t)
    (edited : editedText t [y] = .ok u) : Holds p encoding (past ++ [y]) (some u) := by
  cases h with
  | unread none =>
    rcases reads with reads | ⟨_, reads⟩
    · cases reads
    · have since : sinceReading p encoding (past ++ [y]) = [y] := by
        rw [sinceReading_concat_unread none, sinceReading, List.dropWhile_cons, reads]
        rfl
      exact .read since reads edited
  | read since reading applied =>
    rcases reads with reads | ⟨reads, _⟩
    · cases reads
      refine .read (sinceReading_concat_read since y) reading ?_
      rw [← List.cons_append, editedText_concat applied, edited]
    · cases reads

theorem Holds.idle (h : Holds p encoding past held) {y : PastStep α}
    (unread : held = none → y.reading? p encoding = none) (unedited : y.edit? = none) :
    Holds p encoding (past ++ [y]) held := by
  cases h with
  | unread none =>
    refine .unread ?_
    rw [sinceReading_concat_unread none, sinceReading, List.dropWhile_cons, unread rfl]
    rfl
  | read since reading applied =>
    refine .read (sinceReading_concat_read since y) reading ?_
    rw [← List.cons_append, editedText_concat applied, editedText, List.filterMap_cons, unedited]
    rfl

end

structure Tracks (p : Path) (encoding : Encoding) (h : History α) : Prop where
  text : Holds p encoding h.past h.state.buffer.cached
  dirty : h.state.buffer.dirty = true ↔ Unsaved h.past
  path : h.state.buffer.path = p
  encoding : h.state.buffer.encoding = encoding

section
variable {p : Path} {encoding : Encoding} {h : History α}

/-- What a step reads is what the past shows to have been on the disk, if nothing is held yet. -/
theorem Tracks.reads (tracks : Tracks p encoding h) {t : List α}
    (reads : h.state.buffer.Reads h.state.disk t) {step : BufferStep α}
    (indirect : step.isDirect = false) (failure : Option EditError) :
    h.state.buffer.cached = some t ∨ h.state.buffer.cached = none ∧
      PastStep.reading? p encoding ⟨step, h.state.disk, failure⟩ = some t := by
  rcases reads with held | ⟨none, read⟩
  · exact .inl held
  · rw [tracks.path, tracks.encoding] at read
    refine .inr ⟨none, ?_⟩
    simp only [PastStep.reading?, indirect, read]
    rfl

theorem Tracks.looked (tracks : Tracks p encoding h) {t : List α}
    (reads : h.state.buffer.Reads h.state.disk t) {step : BufferStep α}
    (indirect : step.isDirect = false) {failure : Option EditError}
    (unedited : PastStep.edit? ⟨step, h.state.disk, failure⟩ = none) :
    Holds p encoding (h.past ++ [⟨step, h.state.disk, failure⟩]) (some t) := by
  refine tracks.text.access (tracks.reads reads indirect failure) ?_
  rw [editedText, List.filterMap_cons, unedited]
  rfl

theorem Tracks.unsaved (tracks : Tracks p encoding h) {x : PastStep α} (unedited : x.edit? = none)
    (unsaved : x.saved = false) :
    h.state.buffer.dirty = true ↔ Unsaved (h.past ++ [x]) := by
  rw [unsaved_concat, unedited, unsaved, tracks.dirty]
  simp

theorem Tracks.acted (tracks : Tracks p encoding h) {step : BufferStep α}
    {failure : Option EditError} {s : BufferState α} (acted : Acted h.state step failure s) :
    Tracks p encoding ⟨h.past ++ [⟨step, h.state.disk, failure⟩], s⟩ := by
  obtain ⟨path, coded⟩ := And.intro tracks.path tracks.encoding
  -- A step that failed is neither an edit nor a save.
  have unedited : ∀ e, PastStep.edit? ⟨step, h.state.disk, some e⟩ = none := fun _ => rfl
  have failed : ∀ e, h.state.buffer.dirty = true ↔
      Unsaved (h.past ++ [⟨step, h.state.disk, some e⟩]) :=
    fun e => tracks.unsaved (unedited e) (Bool.and_false _)
  cases acted with
  | direct change =>
    exact ⟨tracks.text.idle (fun _ => rfl) rfl, tracks.unsaved rfl rfl, path, coded⟩
  | unread indirect none read =>
    rw [path, coded] at read
    refine ⟨tracks.text.idle (fun _ => ?_) (unedited _), failed _, path, coded⟩
    simp only [PastStep.reading?, indirect, read]
    rfl
  | looked reads =>
    have text : Holds p encoding (h.past ++ [⟨.text, h.state.disk, none⟩]) (some _) :=
      tracks.looked reads rfl rfl
    exact ⟨text, tracks.unsaved rfl rfl, path, coded⟩
  | edited edits reads applied =>
    have edited : PastStep.edit? ⟨step, h.state.disk, none⟩ = some _ := edits
    refine ⟨?_, ?_, path, coded⟩
    · refine tracks.text.access (tracks.reads reads (isDirect_of_edit? edits) none) ?_
      rw [editedText, List.filterMap_cons, edited, List.filterMap_nil, List.foldlM_cons, applied]
      rfl
    · rw [unsaved_concat, edited]
      exact ⟨fun _ => .inl rfl, fun _ => rfl⟩
  | rejected edits reads _ =>
    exact ⟨tracks.looked reads (isDirect_of_edit? edits) (unedited _), failed _, path, coded⟩
  | saved reads _ =>
    have text : Holds p encoding (h.past ++ [⟨.save, h.state.disk, none⟩]) (some _) :=
      tracks.looked reads rfl rfl
    refine ⟨text, ?_, path, coded⟩
    rw [unsaved_concat]
    constructor
    · intro dirty
      cases dirty
    · rintro (edited | ⟨unsaved, _⟩)
      · cases edited
      · cases unsaved
  | unsaved reads _ =>
    exact ⟨tracks.looked reads rfl (unedited _), failed _, path, coded⟩

theorem tracks_fresh (p : Path) (encoding : Encoding) (d : Disk) :
    Tracks p encoding (History.fresh p encoding d : History α) := by
  refine ⟨.unread rfl, ?_, rfl, rfl⟩
  constructor
  · intro dirty
    cases dirty
  · rintro ⟨before, x, after, split, _⟩
    cases before <;> cases split

theorem tracks_run (p : Path) (encoding : Encoding) (d : Disk) (steps : List (BufferStep α)) :
    Tracks p encoding ((History.fresh p encoding d).run steps) := by
  apply History.run_keeps
  · intro h step tracks
    exact tracks.acted (act_acted h.state step)
  · exact tracks_fresh p encoding d

end

/-- The buffer and the disk agree with the past, and go on to do so. -/
structure Consistent (p : Path) (encoding : Encoding) (past : List (PastStep α))
    (s : BufferState α) : Prop where
  text : ∀ x after, sinceReading p encoding past = x :: after →
    ∃ bytes raw t, x.disk.read p = .ok bytes ∧ encoding.decode bytes = .ok raw ∧
      editedText (Coded.text (unifyNewlines raw)) (x :: after) = .ok t ∧
      ∀ d, s.buffer.read d = (.ok t, s.buffer)
  unread : sinceReading p encoding past = [] →
    ∀ d, (s.buffer.read d).1 = (d.readText p encoding).map Coded.text
  dirty : s.buffer.dirty = true ↔ Unsaved past
  kept : ∀ step : BufferStep α, step.isDirect = false → step.isSave = false →
    (s.act step).2.disk = s.disk
  saved : ∀ s', s.act .save = (none, s') → ∃ t bytes, (s.buffer.read s.disk).1 = .ok t ∧
    s'.buffer.read s'.disk = (.ok t, s'.buffer) ∧ encoding.encode t = .ok bytes ∧
    s.disk.Overwritten p bytes s'.disk
  accepted : ∀ (step : BufferStep α) (e : RegionEdit α) (t : List α), step.edit? = some e →
    (s.buffer.read s.disk).1 = .ok t →
    ((s.act step).1 = none ↔ 0 ≤ e.start ∧ e.start ≤ e.stop ∧ e.stop ≤ t.length)
  rejected : ∀ step : BufferStep α, step.edit?.isSome = true → (s.act step).1 ≠ none →
    (s.act step).2 = (s.act .text).2

section
variable {p : Path} {encoding : Encoding} {h : History α}

theorem Tracks.held (tracks : Tracks p encoding h) {x : PastStep α} {after : List (PastStep α)}
    (since : sinceReading p encoding h.past = x :: after) :
    ∃ bytes raw t, x.disk.read p = .ok bytes ∧ encoding.decode bytes = .ok raw ∧
      editedText (Coded.text (unifyNewlines raw)) (x :: after) = .ok t ∧
      h.state.buffer.cached = some t := by
  have text := tracks.text
  generalize h.state.buffer.cached = held at text
  cases text with
  | unread none =>
    rw [since] at none
    cases none
  | @read y later t u since' reading applied =>
    rw [since] at since'
    cases since'
    unfold PastStep.reading? at reading
    split at reading
    · cases reading
    · cases read : x.disk.readText p encoding with
      | error e =>
        rw [read] at reading
        cases reading
      | ok _ =>
        rw [read] at reading
        cases reading
        obtain ⟨bytes, raw, bytesRead, decoded, rfl⟩ := Disk.readText_eq_ok read
        exact ⟨bytes, raw, u, bytesRead, decoded, applied, rfl⟩

theorem Tracks.unheld (tracks : Tracks p encoding h) (none : sinceReading p encoding h.past = []) :
    h.state.buffer.cached = Option.none := by
  have text := tracks.text
  generalize h.state.buffer.cached = held at text
  cases text with
  | unread _ => rfl
  | read since _ _ =>
    rw [none] at since
    cases since

end

section
variable {s s' : BufferState α} {step : BufferStep α} {failure : Option EditError}

theorem Acted.disk_kept (acted : Acted s step failure s') (indirect : step.isDirect = false)
    (unsaved : step.isSave = false) : s'.disk = s.disk := by
  cases acted with
  | direct change => cases indirect
  | saved _ _ => cases unsaved
  | unsaved _ _ => cases unsaved
  | _ => rfl

theorem Acted.saved_text (acted : Acted s .save none s') : ∃ t bytes, s.buffer.Reads s.disk t ∧
    s'.buffer.cached = some t ∧ s.buffer.encoding.encode t = .ok bytes ∧
    s.disk.Overwritten s.buffer.path bytes s'.disk := by
  cases acted with
  | edited edits => cases edits
  | saved reads written =>
    cases Disk.writeText_written written with
    | ok encoded stored => exact ⟨_, _, reads, rfl, encoded, stored⟩

theorem Acted.accepted_iff (acted : Acted s step failure s') {e : RegionEdit α} {t : List α}
    (edits : step.edit? = some e) (reads : s.buffer.Reads s.disk t) :
    failure = none ↔ 0 ≤ e.start ∧ e.start ≤ e.stop ∧ e.stop ≤ t.length := by
  cases acted with
  | unread _ none failed =>
    have unread := reads.read.symm.trans (read_of_unread none failed)
    cases unread
  | edited edits' reads' applied =>
    cases edits.symm.trans edits'
    cases reads.unique reads'
    refine ⟨fun _ => ?_, fun _ => rfl⟩
    unfold RegionEdit.apply replaceRegion at applied
    split at applied
    · assumption
    · cases applied
  | rejected edits' reads' failed =>
    cases edits.symm.trans edits'
    cases reads.unique reads'
    constructor
    · intro accepted
      cases accepted
    · intro inside
      rw [RegionEdit.apply, replaceRegion, if_pos inside] at failed
      cases failed
  | _ => cases edits

theorem Acted.rejected_text (acted : Acted s step failure s') (edits : step.edit?.isSome = true)
    (failed : failure ≠ none) : s' = (s.act .text).2 := by
  cases acted with
  | unread _ none unread => rw [act_text_unread none unread]
  | rejected _ reads _ => rw [act_text_read reads]
  | unsaved _ _ => cases edits
  | _ => exact absurd rfl failed

end

/-- After every run of steps the buffer of a file is what its past makes of it. -/
theorem buffer_follows_past (p : Path) (encoding : Encoding) (d : Disk)
    (steps : List (BufferStep α)) :
    Consistent p encoding ((History.fresh p encoding d).run steps).past
      ((History.fresh p encoding d).run steps).state := by
  have tracks := tracks_run p encoding d steps
  generalize (History.fresh p encoding d).run steps = h at tracks
  have acts := act_acted h.state
  refine ⟨fun x after since => ?_, fun none disk => ?_, tracks.dirty,
    fun step => (acts step).disk_kept, fun s' saved => ?_, fun step e t edits read => ?_,
    fun step => (acts step).rejected_text⟩
  · obtain ⟨bytes, raw, t, read, decoded, edited, held⟩ := tracks.held since
    exact ⟨bytes, raw, t, read, decoded, edited, read_of_cached held⟩
  · rw [← tracks.path, ← tracks.encoding]
    exact read_of_unheld (tracks.unheld none) disk
  · have acted := acts .save
    rw [saved] at acted
    obtain ⟨t, bytes, reads, held, encoded, stored⟩ := acted.saved_text
    rw [tracks.encoding] at encoded
    rw [tracks.path] at stored
    exact ⟨t, bytes, by rw [reads.read], read_of_cached held _, encoded, stored⟩
  · exact (acts step).accepted_iff edits (reads_of_read read)

def singleFile (name : String) (bytes : Bytes) (vacant : Tree.root.Vacant [name]) : Disk :=
  Disk.empty.add [name] (.file bytes {}) vacant

-- The file is taken away after the first reading; the save brings it back with the edit.
example :
    let d := singleFile "a" [97, 13, 10] ⟨rfl, rfl⟩
    let h := (History.fresh ⟨.here, ["a"]⟩ .utf8 d).run
      [.text, .direct (fun _ => .empty), .insert 0 ['b'], .save]
    h.state.disk.read ⟨.here, ["a"]⟩ = .ok [98, 97, 10] ∧ h.state.buffer.dirty = false :=
  ⟨rfl, rfl⟩

end RecorderStubs
