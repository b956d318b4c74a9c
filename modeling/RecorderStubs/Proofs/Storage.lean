import RecorderStubs.Disk.Basic
import RecorderStubs.Proofs.Encoding

/-! Files on a disk. What is written to a file is read back, every other file keeps its bytes, and
all paths go on to lead where they led. A write that the system does not let in changes nothing; one
that breaks off leaves the first part of its bytes. -/
namespace RecorderStubs

namespace Disk

variable {d d' : Disk} {p q : Path} {l m : Location} {bytes other : Bytes}
  {access access' : Access}

theorem node?_overwrite (d : Disk) (l m : Location) (new : Bytes) :
    (d.overwrite l new).node? m =
      if m = l then (d.node? m).map (.withBytes new) else d.node? m :=
  Nodes.lookup_alter _

theorem node?_add {n : Node} (vacant : d.tree.Vacant l) (m : Location) :
    (d.add l n vacant).node? m = if m = l then some n else d.node? m := by
  have free : d.node? l = none := vacant.free
  have found : (d.add l n vacant).node? m =
      (d.node? m).or (if m = l then some n else none) := Nodes.lookup_concat n
  rw [found]
  split
  · rename_i same
    rw [same, free]
    rfl
  · exact Option.or_none

theorem overwrite_overwrite (d : Disk) (l : Location) (old new : Bytes) :
    (d.overwrite l old).overwrite l new = d.overwrite l new := by
  have nodes : ((d.overwrite l old).overwrite l new).tree = (d.overwrite l new).tree := by
    apply Tree.ext
    exact (Nodes.alter_alter _ _).trans (by rw [Node.withBytes_withBytes]; rfl)
  exact Disk.ext nodes rfl rfl rfl

theorem enter_overwrite (d : Disk) (l : Location) (new : Bytes) :
    (d.overwrite l new).enter = d.enter := by
  funext m part
  by_cases same : m = l
  · simp only [enter, node?_overwrite, if_pos same]
    rcases d.node? m with _ | ⟨old, access⟩ | ⟨access⟩ <;> rfl
  · simp only [enter, node?_overwrite, if_neg same]
    rfl

theorem locate_overwrite (d : Disk) (l : Location) (new : Bytes) (p : Path) :
    (d.overwrite l new).locate p = d.locate p := by
  simp only [locate, enter_overwrite]
  rfl

theorem isFile_overwrite (d : Disk) (l : Location) (new : Bytes) (p : Path) :
    (d.overwrite l new).isFile p = d.isFile p := by
  simp only [isFile, locate_overwrite, node?_overwrite]
  cases d.locate p with
  | error cause => rfl
  | ok m =>
    simp only
    split
    · rcases d.node? m with _ | ⟨old, access⟩ | ⟨access⟩ <;> rfl
    · rfl

/-- A path that leads to a file. -/
structure FileAt (d : Disk) (p : Path) (l : Location) (bytes : Bytes) (access : Access) : Prop where
  place : d.locate p = .ok l
  node : d.node? l = some (.file bytes access)

theorem fileAt_of_read (h : d.read p = .ok bytes) :
    ∃ l access, FileAt d p l bytes access ∧ access.read = none := by
  unfold read at h
  split at h
  · cases h
  · rename_i l place
    split at h
    · cases h
    · rename_i n node
      split at h
      · cases h
      · cases h
      · rename_i access readable
        cases h
        exact ⟨l, access, ⟨place, node⟩, readable⟩

theorem FileAt.read (h : FileAt d p l bytes access) (readable : access.read = none) :
    d.read p = .ok bytes := by
  simp only [Disk.read, h.place, h.node, Node.access, readable]

theorem FileAt.find? (h : FileAt d p l bytes access) : d.find? p = some (.file bytes access) := by
  simp only [Disk.find?, h.place, h.node]

theorem FileAt.place_ne (h : FileAt d p l bytes access) (h' : FileAt d q m other access')
    (apart : d.locate p ≠ d.locate q) : l ≠ m := by
  intro same
  apply apart
  rw [h.place, h'.place, same]

theorem FileAt.overwrite_self (h : FileAt d p l bytes access) (new : Bytes) :
    FileAt (d.overwrite l new) p l new access := by
  constructor
  · rw [locate_overwrite, h.place]
  · rw [node?_overwrite, if_pos rfl, h.node]
    rfl

theorem FileAt.overwrite_other (h : FileAt d p l bytes access) (apart : l ≠ m) (new : Bytes) :
    FileAt (d.overwrite m new) p l bytes access := by
  constructor
  · rw [locate_overwrite, h.place]
  · rw [node?_overwrite, if_neg apart, h.node]

theorem FileAt.overwrite (h : FileAt d p l bytes access) (m : Location) (new : Bytes) :
    ∃ left, FileAt (d.overwrite m new) p l left access := by
  by_cases same : l = m
  · rw [← same]
    exact ⟨new, h.overwrite_self new⟩
  · exact ⟨bytes, h.overwrite_other same new⟩

theorem read_overwrite_other (apart : d.locate p ≠ .ok m) (new : Bytes) :
    (d.overwrite m new).read p = d.read p := by
  simp only [Disk.read, locate_overwrite]
  cases place : d.locate p with
  | error cause => rfl
  | ok l =>
    have elsewhere : l ≠ m := by
      intro same
      rw [place, same] at apart
      exact apart rfl
    simp only [node?_overwrite, if_neg elsewhere]

def text? (d : Disk) (p : Path) : Option Text :=
  match d.read p with
  | .error _ => none
  | .ok bytes => (Encoding.utf8.decode bytes).toOption

theorem text?_of_read {t : Text} (h : d.read p = .ok (encodeUtf8 t)) : d.text? p = some t := by
  have decoded : Encoding.utf8.decode (encodeUtf8 t) = .ok t := decodeUtf8From_encode 0 t
  simp only [text?, h, decoded]
  rfl

theorem readText_eq_ok {t : Text} {encoding : Encoding} (h : d.readText p encoding = .ok t) :
    ∃ bytes raw, d.read p = .ok bytes ∧ encoding.decode bytes = .ok raw ∧
      t = unifyNewlines raw := by
  unfold readText at h
  split at h
  · cases h
  · rename_i bytes read
    split at h
    · cases h
    · rename_i raw decoded
      cases h
      exact ⟨bytes, raw, read, decoded, rfl⟩

theorem fileAt_of_readText {t : Text} (h : d.readText p .utf8 = .ok t) :
    ∃ l access raw, FileAt d p l (encodeUtf8 raw) access ∧ access.read = none ∧
      t = unifyNewlines raw := by
  obtain ⟨bytes, raw, read, decoded, unified⟩ := readText_eq_ok h
  obtain ⟨l, access, file, readable⟩ := fileAt_of_read read
  have same : encodeUtf8 raw = bytes := encodeUtf8_of_decode decoded
  rw [← same] at file
  exact ⟨l, access, raw, file, readable, unified⟩

theorem FileAt.truncate (h : FileAt d p l bytes access) (writable : access.write = none) :
    d.truncate p = .ok (l, d.overwrite l []) := by
  simp only [Disk.truncate, h.place, h.node, writable]

theorem FileAt.truncate_denied (h : FileAt d p l bytes access) {denial : Denial}
    (denied : access.write = some denial) :
    d.truncate p = .error ⟨.denied denial, some p⟩ := by
  simp only [Disk.truncate, h.place, h.node, denied]

theorem FileAt.writeText_denied (h : FileAt d p l bytes access) {denial : Denial}
    (denied : access.write = some denial) (t : Text) :
    d.writeText p .utf8 t = (.error (.disk ⟨.denied denial, some p⟩), d) := by
  simp only [Disk.writeText, h.truncate_denied denied]

theorem FileAt.writeText_short (h : FileAt d p l bytes access) (writable : access.write = none)
    {t : Text} {short : ShortWrite} (breaks : d.storage l (encodeUtf8 t) = some short) :
    d.writeText p .utf8 t = (.error (.disk ⟨.denied short.denial, none⟩),
      d.overwrite l ((encodeUtf8 t).take short.taken)) := by
  have breaks' : (d.overwrite l []).storage l (encodeUtf8 t) = some short := breaks
  simp only [Disk.writeText, h.truncate writable, encode_utf8, fill, breaks', overwrite_overwrite]

theorem FileAt.writeText_ok (h : FileAt d p l bytes access) (writable : access.write = none)
    {t : Text} (takes : d.storage l (encodeUtf8 t) = none) :
    d.writeText p .utf8 t = (.ok (), d.overwrite l (encodeUtf8 t)) := by
  have takes' : (d.overwrite l []).storage l (encodeUtf8 t) = none := takes
  simp only [Disk.writeText, h.truncate writable, encode_utf8, fill, takes', overwrite_overwrite]

/-- What writing a text to a file does: the file does not let it in, or takes it, or the write
breaks off. -/
inductive FileWritten (d : Disk) (p : Path) (l : Location) (access : Access) (bytes : Bytes) :
    Except FileError Unit → Disk → Prop where
  | denied {denial : Denial} (closed : access.write = some denial) :
      FileWritten d p l access bytes (.error (.disk ⟨.denied denial, some p⟩)) d
  | short {short : ShortWrite} (writable : access.write = none)
      (breaks : d.storage l bytes = some short) :
      FileWritten d p l access bytes (.error (.disk ⟨.denied short.denial, none⟩))
        (d.overwrite l (bytes.take short.taken))
  | ok (writable : access.write = none) (takes : d.storage l bytes = none) :
      FileWritten d p l access bytes (.ok ()) (d.overwrite l bytes)

theorem FileAt.written (h : FileAt d p l bytes access) {t : Text} {result : Except FileError Unit}
    (wrote : d.writeText p .utf8 t = (result, d')) :
    FileWritten d p l access (encodeUtf8 t) result d' := by
  cases closed : access.write with
  | some denial =>
    cases wrote.symm.trans (h.writeText_denied closed t)
    exact .denied closed
  | none =>
    cases taken : d.storage l (encodeUtf8 t) with
    | some short =>
      cases wrote.symm.trans (h.writeText_short closed taken)
      exact .short closed taken
    | none =>
      cases wrote.symm.trans (h.writeText_ok closed taken)
      exact .ok closed taken

/-- The system lets a file be written and takes all that is written. -/
def Writable (d : Disk) (p : Path) : Prop :=
  ∃ l bytes access, FileAt d p l bytes access ∧ access.write = none ∧
    ∀ new, d.storage l new = none

theorem Writable.writeText (h : d.Writable p) (t : Text) :
    ∃ l, d.locate p = .ok l ∧ d.writeText p .utf8 t = (.ok (), d.overwrite l (encodeUtf8 t)) := by
  obtain ⟨l, bytes, access, file, writable, takes⟩ := h
  exact ⟨l, file.place, file.writeText_ok writable (takes _)⟩

theorem Writable.overwrite (h : d.Writable p) (m : Location) (new : Bytes) :
    (d.overwrite m new).Writable p := by
  obtain ⟨l, bytes, access, file, writable, takes⟩ := h
  obtain ⟨left, file'⟩ := file.overwrite m new
  exact ⟨l, left, access, file', writable, takes⟩

theorem enter_add {n : Node} (vacant : d.tree.Vacant l) {part : String} {next : Location}
    (h : d.enter m part = .ok next) : (d.add l n vacant).enter m part = .ok next := by
  have free : d.node? l = none := vacant.free
  have other : m ≠ l := by
    rintro rfl
    simp only [enter, free] at h
    cases h
  rw [← h]
  simp only [enter, node?_add, if_neg other]
  rfl

theorem walk_add {n : Node} (vacant : d.tree.Vacant l) {parts : List String} {start : Location}
    (h : parts.foldlM d.enter start = .ok m) :
    parts.foldlM (d.add l n vacant).enter start = .ok m := by
  induction parts generalizing start with
  | nil => exact h
  | cons part parts ih =>
    rw [List.foldlM_cons] at h ⊢
    cases entered : d.enter start part with
    | error cause =>
      rw [entered] at h
      cases h
    | ok next =>
      rw [entered] at h
      rw [enter_add vacant entered]
      exact ih h

theorem locate_add {n : Node} (vacant : d.tree.Vacant l) (h : d.locate p = .ok m) :
    (d.add l n vacant).locate p = .ok m := by
  unfold locate at h ⊢
  split at h
  · cases h
  · rename_i named
    split at h
    · cases h
    · rename_i short
      have limits : (d.add l n vacant).limits = d.limits := rfl
      rw [if_neg named, limits, if_neg short]
      exact walk_add vacant h

theorem create_ok {n : Node} (h : d.create l n = .ok d') :
    ∃ vacant : d.tree.Vacant l, d.sealed? l.dropLast = none ∧ d' = d.add l n vacant := by
  unfold create at h
  split at h
  · cases h
  · split at h
    · rename_i vacant
      split at h
      · cases h
      · rename_i unsealed
        cases h
        exact ⟨vacant, unsealed, rfl⟩
    · cases h

/-- A file has been opened for writing: it is empty, and all else is as it was. -/
structure Opened (d : Disk) (p : Path) (l : Location) (d' : Disk) : Prop where
  place : d.locate p = .ok l
  file : ∃ access, FileAt d' p l [] access
  others : ∀ m, m ≠ l → d'.node? m = d.node? m
  storage : d'.storage = d.storage

theorem truncate_opened (h : d.truncate p = .ok (l, d')) : Opened d p l d' := by
  unfold truncate at h
  split at h
  · cases h
  · rename_i place
    split at h
    · cases h
    · rename_i node
      split at h
      · cases h
      · cases h
        have file : FileAt d p l _ _ := ⟨place, node⟩
        refine ⟨place, ⟨_, file.overwrite_self []⟩, fun m other => ?_, rfl⟩
        rw [node?_overwrite, if_neg other]
    · split at h
      · cases h
      · rename_i made
        cases h
        obtain ⟨vacant, _, rfl⟩ := create_ok made
        refine ⟨place, ⟨{}, locate_add vacant place, ?_⟩, fun m other => ?_, rfl⟩
        · rw [node?_add, if_pos rfl]
        · rw [node?_add, if_neg other]

structure Overwritten (d : Disk) (p : Path) (bytes : Bytes) (d' : Disk) : Prop where
  file : ∃ l access, d.locate p = .ok l ∧ FileAt d' p l bytes access
  others : ∀ l, d.locate p ≠ .ok l → d'.node? l = d.node? l

theorem Opened.emptied (h : Opened d p l d') : Overwritten d p [] d' := by
  obtain ⟨access, file⟩ := h.file
  refine ⟨⟨l, access, h.place, file⟩, fun m elsewhere => h.others m ?_⟩
  rintro rfl
  exact elsewhere h.place

theorem Opened.overwritten (h : Opened d p l d') (bytes : Bytes) :
    Overwritten d p bytes (d'.overwrite l bytes) := by
  obtain ⟨access, file⟩ := h.file
  refine ⟨⟨l, access, h.place, file.overwrite_self bytes⟩, fun m elsewhere => ?_⟩
  have other : m ≠ l := by
    rintro rfl
    exact elsewhere h.place
  rw [node?_overwrite, if_neg other, h.others m other]

/-- What writing a text can do. A file is emptied before it turns out that the text has no bytes in
the encoding, or that the storage does not take them all. -/
inductive TextWritten [Coded α] (d : Disk) (p : Path) (encoding : Encoding) (t : List α) :
    Except FileError Unit → Disk → Prop where
  | ok {bytes : Bytes} {d' : Disk} : encoding.encode t = .ok bytes → Overwritten d p bytes d' →
      TextWritten d p encoding t (.ok ()) d'
  | refused {e : DiskError} : d.truncate p = .error e →
      TextWritten d p encoding t (.error (.disk e)) d
  | emptied {e : EncodeError} {d' : Disk} : encoding.encode t = .error e → Overwritten d p [] d' →
      TextWritten d p encoding t (.error (.encode e)) d'
  | short {bytes : Bytes} {l : Location} {short : ShortWrite} {d' : Disk} :
      encoding.encode t = .ok bytes → d.locate p = .ok l → d.storage l bytes = some short →
      Overwritten d p (bytes.take short.taken) d' →
      TextWritten d p encoding t (.error (.disk ⟨.denied short.denial, none⟩)) d'

theorem writeText_written [Coded α] {encoding : Encoding} {t : List α}
    {result : Except FileError Unit} (h : d.writeText p encoding t = (result, d')) :
    TextWritten d p encoding t result d' := by
  unfold writeText at h
  split at h
  · rename_i refused
    cases h
    exact .refused refused
  · rename_i l opened emptied
    have opens := truncate_opened emptied
    split at h
    · rename_i unencoded
      cases h
      exact .emptied unencoded opens.emptied
    · rename_i bytes encoded
      unfold fill at h
      rw [opens.storage] at h
      cases taken : d.storage l bytes with
      | none =>
        rw [taken] at h
        cases h
        exact .ok encoded (opens.overwritten bytes)
      | some short =>
        rw [taken] at h
        cases h
        exact .short encoded opens.place taken (opens.overwritten _)

end Disk

end RecorderStubs
