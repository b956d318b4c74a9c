import RecorderStubs.Proofs.Buffering

/-! Saves that fail. The buffer stays as it was, up to the first reading of its text. So does the
disk if the text cannot be read or the file cannot be opened. Once the file is open it is empty: it
stays so if the text does not fit the encoding, which only an edit that has not been saved can bring
about, and it holds a first part of the bytes if the write breaks off. -/
namespace RecorderStubs

theorem holds_of_small {encoding : Encoding} {n : Nat} (small : n < 0xd800)
    (inside : n < encoding.limit) : encoding.holds n = true := by
  cases encoding with
  | utf8 => simp [Encoding.holds, small]
  | _ => simpa [Encoding.holds] using inside

theorem decodeBytesFrom_fits {encoding : Encoding} {offset : Nat} {bytes : Bytes} {t : Text}
    (h : decodeBytesFrom encoding offset bytes = .ok t) : encoding.Fits t := by
  induction bytes generalizing offset t with
  | nil =>
    cases h
    intro c none
    cases none
  | cons b bytes ih =>
    unfold decodeBytesFrom at h
    split at h
    · rename_i inside
      cases rest : decodeBytesFrom encoding (offset + 1) bytes with
      | error e =>
        rw [rest] at h
        cases h
      | ok u =>
        rw [rest] at h
        cases h
        intro c member
        rcases List.mem_cons.mp member with rfl | later
        · have small := b.toNat_lt
          have point : Coded.code (Char.ofNat b.toNat) = b.toNat := ofNat_point (.inl (by omega))
          rw [point]
          exact holds_of_small (by omega) inside
        · exact ih rest c later
    · cases h

theorem unifyNewlines_fits {encoding : Encoding} {t : Text} (h : encoding.Fits t) :
    encoding.Fits (unifyNewlines t) := by
  have newline : encoding.holds (Coded.code '\n') = true := by cases encoding <;> decide
  fun_induction unifyNewlines t with
  | case1 => exact h
  | case2 t ih =>
    intro c member
    rcases List.mem_cons.mp member with rfl | later
    · exact newline
    · exact ih (fun d inside => h d (by simp [inside])) c later
  | case3 d t _ ih =>
    intro c member
    rcases List.mem_cons.mp member with rfl | later
    · split
      · exact newline
      · exact h d (List.mem_cons_self ..)
    · exact ih (fun e inside => h e (List.mem_cons_of_mem _ inside)) c later

theorem readText_fits {d : Disk} {p : Path} {encoding : Encoding} {t : Text}
    (h : d.readText p encoding = .ok t) : encoding.Fits t := by
  obtain ⟨bytes, raw, _, decoded, rfl⟩ := Disk.readText_eq_ok h
  apply unifyNewlines_fits
  cases encoding with
  | utf8 => exact utf8_fits raw
  | latin1 => exact decodeBytesFrom_fits decoded
  | ascii => exact decodeBytesFrom_fits decoded

variable {α : Type} [Coded α]

theorem text_fits {encoding : Encoding} {t : Text} (h : encoding.Fits t) :
    encoding.Fits (Coded.text t : List α) := by
  intro a member
  obtain ⟨c, listed, rfl⟩ := List.mem_map.mp member
  rw [Coded.code_ofChar]
  exact h c listed

/-- What is held without unsaved edits can be written. -/
def DiskBuffer.CleanFits (b : DiskBuffer α) : Prop :=
  b.dirty = false → ∀ t, b.cached = some t → b.encoding.Fits t

section
variable {b : DiskBuffer α} {d : Disk} {t : List α}

theorem DiskBuffer.Reads.fits (reads : b.Reads d t) (unheld : b.cached = none) :
    b.encoding.Fits t := by
  rcases reads with held | ⟨_, read⟩
  · cases unheld.symm.trans held
  · cases found : d.readText b.path b.encoding with
    | error e =>
      rw [found] at read
      cases read
    | ok raw =>
      rw [found] at read
      cases read
      exact text_fits (readText_fits found)

theorem DiskBuffer.CleanFits.reads (fits : b.CleanFits) (clean : b.dirty = false)
    (reads : b.Reads d t) : b.encoding.Fits t := by
  cases held : b.cached with
  | none => exact reads.fits held
  | some u =>
    have same : t = u := reads.unique (.inl held)
    rw [same]
    exact fits clean u held

theorem DiskBuffer.CleanFits.hold (fits : b.CleanFits) (reads : b.Reads d t) :
    (b.hold t).CleanFits := by
  intro clean u held
  cases held
  exact fits.reads clean reads

theorem DiskBuffer.CleanFits.acted {s s' : BufferState α} {step : BufferStep α}
    {failure : Option EditError} (fits : s.buffer.CleanFits) (acted : Acted s step failure s') :
    s'.buffer.CleanFits := by
  cases acted with
  | direct change => exact fits
  | unread _ _ _ => exact fits
  | looked reads => exact fits.hold reads
  | edited _ _ _ =>
    intro clean
    cases clean
  | rejected _ reads _ => exact fits.hold reads
  | saved reads written =>
    intro _ u held
    cases held
    cases Disk.writeText_written written with
    | ok encoded _ => exact fits_of_encode encoded
  | unsaved reads _ => exact fits.hold reads

theorem cleanFits_run (p : Path) (encoding : Encoding) (d : Disk) (steps : List (BufferStep α)) :
    ((History.fresh p encoding d).run steps).state.buffer.CleanFits := by
  refine @History.run_keeps α _ (fun h => h.state.buffer.CleanFits) ?_ _ ?_ steps
  · intro h step fits
    exact fits.acted (act_acted h.state step)
  · intro _ t held
    cases held

theorem DiskBuffer.Reads.hold_cached {u : List α} (reads : b.Reads d t)
    (held : b.cached = some u) : (b.hold t).cached = some u := by
  have same : t = u := reads.unique (.inl held)
  rw [← same]
  rfl

theorem DiskBuffer.CleanFits.unfit (fits : b.CleanFits) (reads : b.Reads d t)
    (unfit : ¬ b.encoding.Fits t) : b.dirty = true ∧ b.cached = some t := by
  constructor
  · cases dirty : b.dirty with
    | true => rfl
    | false => exact absurd (fits.reads dirty reads) unfit
  · cases held : b.cached with
    | none => exact absurd (reads.fits held) unfit
    | some u => rw [reads.unique (.inl held)]

end

inductive SaveLeft (p : Path) (encoding : Encoding) (s : BufferState α) : EditError → Disk → Prop
    where
  | unread {e : EditError} (failed : (s.act .text).1 = some e) : SaveLeft p encoding s e s.disk
  | refused {e : DiskError} (closed : s.disk.truncate p = .error e) :
      SaveLeft p encoding s (.file (.disk e)) s.disk
  | emptied {e : EncodeError} {t : List α} {d' : Disk} (dirty : s.buffer.dirty = true)
      (held : s.buffer.cached = some t) (unfit : ¬ encoding.Fits t)
      (left : s.disk.Overwritten p [] d') : SaveLeft p encoding s (.file (.encode e)) d'
  | short {t : List α} {bytes : Bytes} {l : Location} {short : ShortWrite} {d' : Disk}
      (reads : s.buffer.Reads s.disk t) (encoded : encoding.encode t = .ok bytes)
      (place : s.disk.locate p = .ok l) (breaks : s.disk.storage l bytes = some short)
      (left : s.disk.Overwritten p (bytes.take short.taken) d') :
      SaveLeft p encoding s (.file (.disk ⟨.denied short.denial, none⟩)) d'

structure FailedSave (p : Path) (encoding : Encoding) (s : BufferState α) (e : EditError)
    (s' : BufferState α) : Prop where
  buffer : s'.buffer = (s.act .text).2.buffer
  dirty : s'.buffer.dirty = s.buffer.dirty
  text : ∀ t, s.buffer.cached = some t → s'.buffer.cached = some t
  disk : SaveLeft p encoding s e s'.disk

/-- A save that fails changes nothing of the buffer. The file is as it was, or it is empty, or it
holds the first bytes of the text; nothing else on the disk has changed. -/
theorem failed_save_keeps_or_cuts (p : Path) (encoding : Encoding) (d : Disk)
    (steps : List (BufferStep α)) {e : EditError} {s' : BufferState α}
    (failed : ((History.fresh p encoding d).run steps).state.act .save = (some e, s')) :
    FailedSave p encoding ((History.fresh p encoding d).run steps).state e s' := by
  have tracks := tracks_run p encoding d steps
  have fits := cleanFits_run p encoding d steps
  generalize (History.fresh p encoding d).run steps = h at *
  have acted := act_acted h.state .save
  rw [failed] at acted
  obtain rfl := tracks.path
  obtain rfl := tracks.encoding
  cases acted with
  | unread _ none read =>
    have looked := act_text_unread none read
    exact ⟨by rw [looked], rfl, fun t held => held, .unread (by rw [looked])⟩
  | rejected edits _ _ => cases edits
  | @unsaved t _ _ reads written =>
    have looked := act_text_read reads
    refine ⟨by rw [looked], rfl, fun u held => reads.hold_cached held, ?_⟩
    cases Disk.writeText_written written with
    | refused closed => exact .refused closed
    | emptied unencoded left =>
      -- What the file gave fits, so the rest was brought by an edit.
      have unfit := unfit_of_encode unencoded
      obtain ⟨dirty, held⟩ := fits.unfit reads unfit
      exact .emptied dirty held unfit left
    | short encoded place breaks left => exact .short reads encoded place breaks left

def accentedRun : History Char :=
  (History.fresh ⟨.here, ["call.rs"]⟩ .ascii (singleFile "call.rs" [97, 98] ⟨rfl, rfl⟩)).run
    [.insert 0 ['é']]

theorem failed_save_keeps_or_cuts_accent :
    ∃ s', accentedRun.state.act .save = (some (.file (.encode ⟨.ascii, 0xe9, 0, 1⟩)), s') ∧
      FailedSave ⟨.here, ["call.rs"]⟩ .ascii accentedRun.state
        (.file (.encode ⟨.ascii, 0xe9, 0, 1⟩)) s' :=
  ⟨_, rfl, failed_save_keeps_or_cuts _ _ _ _ rfl⟩

theorem failed_save_empties_file :
    accentedRun.state.disk.read ⟨.here, ["call.rs"]⟩ = .ok [97, 98] ∧
      (accentedRun.state.act .save).1 = some (.file (.encode ⟨.ascii, 0xe9, 0, 1⟩)) ∧
      (accentedRun.state.act .save).2.disk.read ⟨.here, ["call.rs"]⟩ = .ok [] :=
  ⟨rfl, rfl, rfl⟩

-- A lone surrogate has no bytes in UTF-8 either.
example :
    let d := singleFile "call.rs" [97, 98] ⟨rfl, rfl⟩
    let h : History CodePoint :=
      (History.fresh ⟨.here, ["call.rs"]⟩ .utf8 d).run [.insert 0 [0xd800]]
    (h.state.act .save).1 = some (.file (.encode ⟨.utf8, 0xd800, 0, 1⟩)) ∧
      (h.state.act .save).2.disk.read ⟨.here, ["call.rs"]⟩ = .ok [] :=
  ⟨rfl, rfl⟩

-- A disk with room for one byte more.
example :
    let d := { singleFile "call.rs" [97, 98] ⟨rfl, rfl⟩ with storage := fun _ _ => some ⟨1, .noSpace⟩ }
    let h : History Char := (History.fresh ⟨.here, ["call.rs"]⟩ .utf8 d).run [.insert 0 ['c']]
    (h.state.act .save).1 = some (.file (.disk ⟨.denied .noSpace, none⟩)) ∧
      (h.state.act .save).2.disk.read ⟨.here, ["call.rs"]⟩ = .ok [99] :=
  ⟨rfl, rfl⟩

end RecorderStubs
