import RecorderStubs.Proofs.Slot
import RecorderStubs.Proofs.Storage
import RecorderStubs.Recording.Record

/-! What recording a method leaves behind. The stages it passed tell which of the two texts it
changed, and every failure has the kind that belongs to the stage at which it stopped. -/
namespace RecorderStubs

theorem DiskCause.system_of_ne {cause : DiskCause} (h : cause ≠ .nullByte) :
    cause.system?.isSome = true := by
  cases cause with
  | nullByte => exact absurd rfl h
  | _ => rfl

namespace Disk

theorem enter_system {d : Disk} {l : Location} {part : String} {cause : DiskCause}
    (h : d.enter l part = .error cause) : cause ≠ .nullByte := by
  rintro rfl
  unfold enter at h
  split at h
  · cases h
  · cases h
  · split at h
    · cases h
    · split at h <;> cases h

theorem walk_system {d : Disk} {parts : List String} {l : Location} {cause : DiskCause}
    (h : parts.foldlM d.enter l = .error cause) : cause ≠ .nullByte := by
  induction parts generalizing l with
  | nil => cases h
  | cons part parts ih =>
    rw [List.foldlM_cons] at h
    cases entered : d.enter l part with
    | error e =>
      rw [entered] at h
      cases h
      exact enter_system entered
    | ok next =>
      rw [entered] at h
      exact ih h

theorem locate_system {d : Disk} {p : Path} {cause : DiskCause} (named : p.hasNull = false)
    (h : d.locate p = .error cause) : cause.system?.isSome = true := by
  refine DiskCause.system_of_ne ?_
  unfold locate at h
  rw [named, if_neg (by decide)] at h
  split at h
  · cases h
    decide
  · exact walk_system h

theorem create_system {d : Disk} {l : Location} {n : Node} {cause : DiskCause}
    (h : d.create l n = .error cause) : cause.system?.isSome = true := by
  unfold create at h
  split at h
  · cases h
    rfl
  · split at h
    · split at h <;> cases h
      rfl
    · cases h
      rfl

theorem read_system {d : Disk} {p : Path} {e : DiskError} (named : p.hasNull = false)
    (h : d.read p = .error e) : e.cause.system?.isSome = true := by
  unfold read at h
  split at h
  · rename_i located
    cases h
    exact locate_system named located
  · split at h
    · cases h
      rfl
    · split at h <;> cases h <;> rfl

theorem truncate_system {d : Disk} {p : Path} {e : DiskError} (named : p.hasNull = false)
    (h : d.truncate p = .error e) : e.cause.system?.isSome = true := by
  unfold truncate at h
  split at h
  · rename_i located
    cases h
    exact locate_system named located
  · split at h
    · cases h
      rfl
    · split at h <;> cases h
      rfl
    · split at h
      · rename_i refused
        cases h
        exact create_system refused
      · cases h

theorem readText_error {d : Disk} {p : Path} {encoding : Encoding} {e : FileError}
    (named : p.hasNull = false) (h : d.readText p encoding = .error e) :
    (e.isSystem || e.isDecoding) = true := by
  unfold readText at h
  split at h
  · rename_i failed
    cases h
    simp [FileError.isSystem, read_system named failed]
  · split at h <;> cases h
    rfl

/-- Every text of characters has bytes in UTF-8, so only the system lets a write fail. -/
theorem writeText_error {d d' : Disk} {p : Path} {t : Text} {e : FileError}
    (named : p.hasNull = false) (h : d.writeText p .utf8 t = (.error e, d')) :
    e.isSystem = true := by
  cases writeText_written h with
  | refused closed => exact truncate_system named closed
  | emptied unencoded _ => cases unencoded.symm.trans (encode_utf8 t)
  | short _ _ _ _ => rfl

end Disk

namespace Companion

/-- A companion in memory, or one of a UTF-8 file whose name the system accepts. -/
def Usual : Companion → Prop
  | memory _ _ => True
  | file buffer => buffer.encoding = .utf8 ∧ buffer.path.hasNull = false

def store (c : Companion) (t : Text) : Companion :=
  match c with
  | memory buffer refusal => memory { buffer with text := t } refusal
  | file buffer => file (buffer.store t)

/-- What a save leaves on a companion: the count of a buffer in memory, and on a file's buffer
whether it was edited since. -/
def saveMark : Companion → Nat × Bool
  | memory buffer _ => (buffer.saves, false)
  | file buffer => (0, buffer.dirty)

variable {c c' : Companion} {d d' : Disk} {t : Text}

theorem read_saveMark (c : Companion) (d : Disk) : (c.read d).2.saveMark = c.saveMark := by
  cases c with
  | memory buffer refusal => rfl
  | file buffer =>
    simp only [read, DiskBuffer.read]
    split
    · rfl
    · split <;> rfl

theorem read_ok (h : c.read d = (.ok t, c')) :
    c'.read d = (.ok t, c') ∧ ∀ u, c'.store u = c.store u := by
  cases c with
  | memory buffer refusal =>
    cases h
    exact ⟨rfl, fun _ => rfl⟩
  | file buffer =>
    simp only [read, DiskBuffer.read] at h
    split at h
    · rename_i known
      cases h
      exact ⟨by simp [read, DiskBuffer.read, known], fun _ => rfl⟩
    · split at h
      · cases h
        exact ⟨rfl, fun _ => rfl⟩
      · cases h

theorem read_error {e : FileError} (usual : c.Usual) (h : c.read d = (.error e, c')) :
    c' = c ∧ (e.isSystem || e.isDecoding) = true := by
  cases c with
  | memory buffer refusal => cases h
  | file buffer =>
    simp only [read, DiskBuffer.read] at h
    split at h
    · cases h
    · split at h
      · cases h
      · rename_i failed
        cases h
        exact ⟨rfl, Disk.readText_error usual.2 failed⟩

theorem replace_ok (h : c.read d = (.ok t, c)) {start stop : Int} {new u : Text}
    (replaced : replaceRegion t start stop new = .ok u) :
    c.replace d start stop new = (.ok (), c.store u) := by
  cases c with
  | memory buffer refusal =>
    cases h
    simp only [replace, Buffer.replace, replaced]
    rfl
  | file buffer =>
    have same : buffer.read d = (.ok t, buffer) := by
      obtain ⟨text, kept⟩ := Prod.mk.inj h
      exact Prod.ext text (Companion.file.inj kept)
    simp only [replace, DiskBuffer.replace, same, replaced]
    rfl

theorem save_ok (h : (c.store t).save d = (.ok (), c', d')) : c'.held = t := by
  cases c with
  | memory buffer refusal =>
    cases refusal with
    | none =>
      cases h
      rfl
    | some reason => cases h
  | file buffer =>
    simp only [store, save, DiskBuffer.save, DiskBuffer.read, DiskBuffer.store] at h
    split at h
    · rename_i written
      split at written <;> cases written
      cases h
      rfl
    · cases h

theorem save_error {e : SaveError} (usual : c.Usual)
    (h : (c.store t).save d = (.error e, c', d')) :
    c'.held = t ∧ (RecordError.unsaved e).toFailure.kind = .persistence := by
  cases c with
  | memory buffer refusal =>
    cases refusal with
    | none => cases h
    | some reason =>
      cases h
      exact ⟨rfl, rfl⟩
  | file buffer =>
    simp only [store, save, DiskBuffer.save, DiskBuffer.read, DiskBuffer.store] at h
    split at h
    · cases h
    · rename_i failed
      split at failed <;> cases failed
      rename_i refused
      cases h
      rw [usual.1] at refused
      have system := Disk.writeText_error usual.2 refused
      exact ⟨rfl, by simp [RecordError.toFailure, system]⟩

end Companion

/-- `new` is `old` with `inserted` in place of what stood in `span`; it now stands in `region`. -/
structure Replaced (old : Text) (span : Span) (inserted new : Text) (region : Span) : Prop where
  inside : span.start ≤ span.stop ∧ span.stop ≤ old.length
  place : region = ⟨span.start, span.start + inserted.length⟩
  slice : region.cut new = inserted
  before : new.take region.start = old.take span.start
  after : new.drop region.stop = old.drop span.stop

theorem replaceRegion_replaced {old new inserted : Text} {span : Span}
    (h : replaceRegion old span.start span.stop inserted = .ok new) :
    Replaced old span inserted new ⟨span.start, span.start + inserted.length⟩ := by
  unfold replaceRegion at h
  split at h
  · rename_i fits
    cases h
    have start : (old.take span.start).length = span.start := by
      rw [List.length_take]
      omega
    have stop : (old.take span.start ++ inserted).length = span.start + inserted.length := by
      rw [List.length_append, start]
    simp only [Int.toNat_natCast]
    refine ⟨by omega, rfl, ?_, ?_, ?_⟩
    · simp only [Span.cut, List.take_left' stop]
      exact List.drop_left' start
    · rw [List.append_assoc]
      exact List.take_left' start
    · exact List.drop_left' stop
  · cases h

theorem replaceRegion_insert {t : Text} {offset : Nat} (inside : offset ≤ t.length) (new : Text) :
    replaceRegion t offset offset new = .ok (t.take offset ++ new ++ t.drop offset) := by
  simp [replaceRegion, inside]

/-- `inserted` puts `line` at an offset of `t` as a line of its own: it stands behind a newline,
which is brought along where there is none. -/
structure OwnLine (t : Text) (offset : Nat) (line inserted : Text) : Prop where
  brought : inserted = if (t.take offset).getLast? = some '\n' then line else '\n' :: line
  behind : ∃ above, t.take offset ++ inserted = above ++ '\n' :: line
  ended : line.getLast? = some '\n'

theorem variantAt_ownLine {t : Text} {offset : Nat} (positive : 0 < offset)
    (inside : offset ≤ t.length) (s : Signature) :
    OwnLine t offset (variantText s) (variantAt t offset s) := by
  have nonempty : t.take offset ≠ [] := by
    refine List.ne_nil_of_length_pos ?_
    rw [List.length_take]
    omega
  obtain ⟨c, last⟩ : ∃ c, (t.take offset).getLast? = some c :=
    ⟨_, List.getLast?_eq_some_getLast nonempty⟩
  have brought : variantAt t offset s =
      if c = '\n' then variantText s else '\n' :: variantText s := by
    simp only [variantAt, last]
  refine ⟨?_, ?_, variantText_line s⟩
  · simp only [brought, last, Option.some.injEq]
  · by_cases newline : c = '\n'
    · obtain ⟨above, cut⟩ := List.getLast?_eq_some_iff.mp last
      refine ⟨above, ?_⟩
      rw [brought, if_pos newline, cut, newline]
      simp
    · exact ⟨t.take offset, by rw [brought, if_neg newline]⟩

section
variable (d : Declaration) (macroName enumName : Identifier) (desk : Desk)

structure BothEdited (o : Recorded) (primary held : Text) : Prop where
  call : o.call = callText macroName.text d.signature
  primary : Replaced desk.primary d.placeholder o.call primary o.primaryRegion
  companion : ∃ t offset, (desk.companion.read desk.disk).1 = .ok t ∧
    enumSlot t enumName.text = .ok offset ∧
    Replaced t ⟨offset, offset⟩ o.variant held o.companionRegion ∧
    OwnLine t offset (variantText d.signature) o.variant

/-- What the stages of a recording tell: how far both texts have come, and how it ended. -/
inductive Tells : Recording → Prop where
  | misfit {e : RecordError}
      (outside : ¬(d.placeholder.start ≤ d.placeholder.stop ∧
        d.placeholder.stop ≤ desk.primary.length))
      (kind : e.toFailure.kind = .value) :
      Tells ⟨desk, [], .error e⟩
  | unlocated {primary : Text} {region : Span} {e : RecordError}
      (edited : Replaced desk.primary d.placeholder (callText macroName.text d.signature) primary
        region)
      (nowhere : ∀ t, (desk.companion.read desk.disk).1 = .ok t →
        ∃ cause, enumSlot t enumName.text = .error cause)
      (kept : ((desk.companion.read desk.disk).2.read desk.disk).1 =
        (desk.companion.read desk.disk).1)
      (unsaved : (desk.companion.read desk.disk).2.saveMark = desk.companion.saveMark)
      (kind : e.toFailure.kind = .enumTarget) :
      Tells ⟨⟨primary, (desk.companion.read desk.disk).2, desk.disk⟩, [.primaryEdited], .error e⟩
  | unsaved {primary : Text} {o : Recorded} {companion : Companion} {disk : Disk}
      {cause : SaveError} {e : RecordError}
      (edited : BothEdited d macroName enumName desk o primary companion.held)
      (failed : (desk.companion.store companion.held).save desk.disk =
        (.error cause, companion, disk))
      (kind : e.toFailure.kind = .persistence) :
      Tells ⟨⟨primary, companion, disk⟩,
        [.primaryEdited, .companionLocated, .companionEdited], .error e⟩
  | persisted {primary : Text} {o : Recorded} {companion : Companion} {disk : Disk}
      (edited : BothEdited d macroName enumName desk o primary companion.held)
      (saved : (desk.companion.store companion.held).save desk.disk = (.ok (), companion, disk)) :
      Tells ⟨⟨primary, companion, disk⟩,
        [.primaryEdited, .companionLocated, .companionEdited, .persisted], .ok o⟩

end

section
variable {enumName : Identifier} {desk : Desk} {t : Text} {offset : Nat}
  {companion last : Companion} {disk : Disk} {s : Signature}

/-- Behind a slot that was found the variant goes in without fail; only saving it can fail. -/
theorem replace_slot (found : desk.companion.read desk.disk = (.ok t, companion))
    (slot : enumSlot t enumName.text = .ok offset) (new : Text) :
    companion.replace desk.disk offset offset new =
      (.ok (), desk.companion.store (t.take offset ++ new ++ t.drop offset)) := by
  obtain ⟨again, stored⟩ := Companion.read_ok found
  have put := replaceRegion_insert (enumSlot_bounds slot).2 new
  rw [Companion.replace_ok again put, stored]

theorem recordVariant_unsaved {e : SaveError}
    (found : desk.companion.read desk.disk = (.ok t, companion))
    (slot : enumSlot t enumName.text = .ok offset)
    (saves : (desk.companion.store
      (t.take offset ++ variantAt t offset s ++ t.drop offset)).save desk.disk =
        (.error e, last, disk))
    (primary : Text) (region : Span) (call : Text) :
    recordVariant primary region call s enumName.text desk =
      ⟨⟨primary, last, disk⟩, [.primaryEdited, .companionLocated, .companionEdited],
        .error (.unsaved e)⟩ := by
  simp only [recordVariant, found, slot, replace_slot found slot, saves]

theorem recordVariant_persisted (found : desk.companion.read desk.disk = (.ok t, companion))
    (slot : enumSlot t enumName.text = .ok offset)
    (saves : (desk.companion.store
      (t.take offset ++ variantAt t offset s ++ t.drop offset)).save desk.disk =
        (.ok (), last, disk))
    (primary : Text) (region : Span) (call : Text) :
    recordVariant primary region call s enumName.text desk =
      ⟨⟨primary, last, disk⟩,
        [.primaryEdited, .companionLocated, .companionEdited, .persisted],
        .ok ⟨call, variantAt t offset s, region,
          ⟨offset, offset + (variantAt t offset s).length⟩⟩⟩ := by
  simp only [recordVariant, found, slot, replace_slot found slot, saves]

end

section
variable {d : Declaration} {macroName enumName : Identifier} {desk : Desk} {primary : Text}
  {region : Span}

theorem recordVariant_tells_located {t : Text} {offset : Nat} {companion : Companion}
    (usual : desk.companion.Usual)
    (edited : Replaced desk.primary d.placeholder (callText macroName.text d.signature) primary
      region)
    (found : desk.companion.read desk.disk = (.ok t, companion))
    (slot : enumSlot t enumName.text = .ok offset) :
    Tells d macroName enumName desk (recordVariant primary region
      (callText macroName.text d.signature) d.signature enumName.text desk) := by
  obtain ⟨positive, inside⟩ := enumSlot_bounds slot
  have put := replaceRegion_insert inside (variantAt t offset d.signature)
  have both : BothEdited d macroName enumName desk
      ⟨callText macroName.text d.signature, variantAt t offset d.signature, region,
        ⟨offset, offset + (variantAt t offset d.signature).length⟩⟩ primary
      (t.take offset ++ variantAt t offset d.signature ++ t.drop offset) :=
    ⟨rfl, edited, t, offset, by rw [found], slot, replaceRegion_replaced put,
      variantAt_ownLine positive inside d.signature⟩
  rcases saves : (desk.companion.store
    (t.take offset ++ variantAt t offset d.signature ++ t.drop offset)).save desk.disk with
    ⟨e | ⟨⟨⟩⟩, last, disk⟩
  · rw [recordVariant_unsaved found slot saves]
    obtain ⟨held, kind⟩ := Companion.save_error usual saves
    rw [← held] at both saves
    exact .unsaved both saves kind
  · rw [recordVariant_persisted found slot saves]
    have held := Companion.save_ok saves
    rw [← held] at both saves
    exact .persisted both saves

theorem recordVariant_tells (usual : desk.companion.Usual)
    (edited : Replaced desk.primary d.placeholder (callText macroName.text d.signature) primary
      region) :
    Tells d macroName enumName desk (recordVariant primary region
      (callText macroName.text d.signature) d.signature enumName.text desk) := by
  rcases found : desk.companion.read desk.disk with ⟨e | t, companion⟩
  · obtain ⟨rfl, known⟩ := Companion.read_error usual found
    have kind : (RecordError.unreadable e).toFailure.kind = .enumTarget := by
      simp [RecordError.toFailure, known]
    simpa only [recordVariant, found] using
      Tells.unlocated edited (by simp [found]) (by simp only [found])
        (Companion.read_saveMark _ _) kind
  · obtain ⟨again, stored⟩ := Companion.read_ok found
    cases slot : enumSlot t enumName.text with
    | error cause =>
      have nowhere : ∀ u, (desk.companion.read desk.disk).1 = .ok u →
          ∃ cause, enumSlot u enumName.text = .error cause := by
        intro u text
        rw [found] at text
        cases text
        exact ⟨cause, slot⟩
      have kind : (RecordError.slot cause).toFailure.kind = .enumTarget := rfl
      simpa only [recordVariant, found, slot] using
        Tells.unlocated edited nowhere (by simp only [found, again])
          (Companion.read_saveMark _ _) kind
    | ok offset => exact recordVariant_tells_located usual edited found slot

end

end RecorderStubs
