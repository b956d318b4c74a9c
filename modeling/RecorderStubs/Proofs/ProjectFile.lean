import Mathlib.Data.List.Induction
import RecorderStubs.Proofs.Storage
import RecorderStubs.Settings.Load

/-! The project file that counts in a directory, and what it says. The search goes upwards and ends
at the first file, or where it cannot be asked whether there is one. A file that cannot be read or
is not well formed says nothing; but one with an integer of too many digits, or with values nested
too deeply, is given up in the middle. -/
namespace RecorderStubs

theorem Location.upwards_concat (l : Location) (name : String) :
    upwards (l ++ [name]) = (l ++ [name]) :: l.upwards := by
  simp [upwards, above]

namespace Disk

/-- The search upwards from a location comes to another. -/
structure Reaches (d : Disk) (l k : Location) : Prop where
  above : k <+: l
  nearer : ∀ j, j <+: l → k.length < j.length → d.isFile (projectPath j) = .ok false

def Nearest (d : Disk) (l k : Location) : Prop :=
  d.Reaches l k ∧ d.isFile (projectPath k) = .ok true

def Projectless (d : Disk) (l : Location) : Prop :=
  ∀ k, k <+: l → d.isFile (projectPath k) = .ok false

/-- The search comes to a location where it cannot be asked for a project file. -/
def Unsearchable (d : Disk) (l : Location) (e : DiskError) : Prop :=
  ∃ k, d.Reaches l k ∧ d.isFile (projectPath k) = .error e

section
variable {d : Disk} {l k : Location} {name : String} {e : DiskError}

theorem reaches_self (d : Disk) (l : Location) : d.Reaches l l :=
  ⟨List.prefix_rfl, fun _ inside longer => absurd inside.length_le (Nat.not_le.mpr longer)⟩

theorem Reaches.concat (h : d.Reaches l k)
    (absent : d.isFile (projectPath (l ++ [name])) = .ok false) : d.Reaches (l ++ [name]) k := by
  refine ⟨h.above.trans (List.prefix_append _ _), fun j inside longer => ?_⟩
  rcases List.prefix_concat_iff.mp inside with rfl | above
  · exact absent
  · exact h.nearer j above longer

theorem Reaches.eq_or_above (h : d.Reaches (l ++ [name]) k) :
    k = l ++ [name] ∨ d.isFile (projectPath (l ++ [name])) = .ok false ∧ d.Reaches l k := by
  rcases List.prefix_concat_iff.mp h.above with same | above
  · exact .inl same
  · have longer : k.length < (l ++ [name]).length := by
      have shorter := above.length_le
      rw [List.length_append, List.length_singleton]
      omega
    exact .inr ⟨h.nearer _ List.prefix_rfl longer, above,
      fun j inside => h.nearer j (inside.trans (List.prefix_append _ _))⟩

theorem Projectless.reaches_root (h : d.Projectless l) : d.Reaches l [] :=
  ⟨List.nil_prefix, fun j inside _ => h j inside⟩

/-- What comes of the search. -/
inductive Searched (d : Disk) (l : Location) : Except DiskError (Option Path) → Prop where
  | none (projectless : d.Projectless l) : Searched d l (.ok none)
  | found {k : Location} (nearest : d.Nearest l k) : Searched d l (.ok (some (projectPath k)))
  | failed {e : DiskError} (unsearchable : d.Unsearchable l e) : Searched d l (.error e)

theorem Searched.concat {x : Except DiskError (Option Path)} (h : Searched d l x)
    (absent : d.isFile (projectPath (l ++ [name])) = .ok false) : Searched d (l ++ [name]) x := by
  cases h with
  | none projectless =>
    refine .none fun k inside => ?_
    rcases List.prefix_concat_iff.mp inside with rfl | above
    · exact absent
    · exact projectless k above
  | found nearest => exact .found ⟨nearest.1.concat absent, nearest.2⟩
  | failed unsearchable =>
    obtain ⟨k, reaches, asked⟩ := unsearchable
    exact .failed ⟨k, reaches.concat absent, asked⟩

theorem firstFile_searched (d : Disk) (l : Location) :
    Searched d l (d.firstFile (l.upwards.map projectPath)) := by
  -- The last name is the first to be dropped, so the induction is from the root down.
  induction l using List.reverseRecOn with
  | nil =>
    cases asked : d.isFile (projectPath []) with
    | error e =>
      simp only [Location.upwards, Location.above, List.reverse_nil, List.map_cons, firstFile, asked]
      exact .failed ⟨[], reaches_self d [], asked⟩
    | ok there =>
      simp only [Location.upwards, Location.above, List.reverse_nil, List.map_cons, firstFile, asked]
      cases there with
      | true => exact .found ⟨reaches_self d [], asked⟩
      | false =>
        refine .none fun k inside => ?_
        rw [List.prefix_nil.mp inside]
        exact asked
  | append_singleton l name ih =>
    rw [Location.upwards_concat, List.map_cons, firstFile]
    cases asked : d.isFile (projectPath (l ++ [name])) with
    | error e => exact .failed ⟨_, reaches_self d _, asked⟩
    | ok there =>
      cases there with
      | true => exact .found ⟨reaches_self d _, asked⟩
      | false => exact ih.concat asked

/-- The search goes on at whatever location it reaches. -/
theorem Reaches.firstFile (h : d.Reaches l k) :
    d.firstFile (l.upwards.map projectPath) = d.firstFile (k.upwards.map projectPath) := by
  induction l using List.reverseRecOn with
  | nil => rw [List.prefix_nil.mp h.above]
  | append_singleton l name ih =>
    rcases h.eq_or_above with rfl | ⟨absent, above⟩
    · rfl
    · rw [Location.upwards_concat, List.map_cons, Disk.firstFile, absent]
      exact ih above

theorem firstFile_upwards (d : Disk) (l : Location) : ∃ rest,
    d.firstFile (l.upwards.map projectPath) = d.firstFile (projectPath l :: rest) := by
  induction l using List.reverseRecOn with
  | nil => exact ⟨[], rfl⟩
  | append_singleton l name _ =>
    rw [Location.upwards_concat]
    exact ⟨_, rfl⟩

theorem Nearest.firstFile (h : d.Nearest l k) :
    d.firstFile (l.upwards.map projectPath) = .ok (some (projectPath k)) := by
  obtain ⟨rest, same⟩ := d.firstFile_upwards k
  rw [h.1.firstFile, same, Disk.firstFile, h.2]

theorem Unsearchable.firstFile (h : d.Unsearchable l e) :
    d.firstFile (l.upwards.map projectPath) = .error e := by
  obtain ⟨k, reaches, asked⟩ := h
  obtain ⟨rest, same⟩ := d.firstFile_upwards k
  rw [reaches.firstFile, same, Disk.firstFile, asked]

theorem Projectless.firstFile (h : d.Projectless l) :
    d.firstFile (l.upwards.map projectPath) = .ok none := by
  rw [h.reaches_root.firstFile]
  simp only [Location.upwards, Location.above, List.reverse_nil, List.map_cons, List.map_nil,
    Disk.firstFile, h [] List.nil_prefix]

end

end Disk

inductive OwnTable (document : Toml.Table) : Toml.Table → Prop where
  | noTool (none : document.lookup "tool".toList = none) : OwnTable document []
  | noSection {tool : Toml.Table} (above : document.lookup "tool".toList = some (.table tool))
      (none : tool.lookup "stub_delegator".toList = none) : OwnTable document []
  | own {tool entries : Toml.Table} (above : document.lookup "tool".toList = some (.table tool))
      (here : tool.lookup "stub_delegator".toList = some (.table entries)) :
      OwnTable document entries

/-- A text whose tables of settings are tables, if it can be read. -/
def Usable (room : Nat) (bytes : Bytes) : Prop :=
  ∃ t, Encoding.utf8.decode bytes = .ok t ∧
    ∀ document, Toml.read room t = .ok document → ∃ entries, OwnTable document entries

/-- The nearest project file can be read, and holds so much. -/
def Disk.ProjectHolds (d : Disk) (directory : Path) (bytes : Bytes) : Prop :=
  ∃ k, d.Nearest (d.resolve directory) k ∧ d.read (projectPath k) = .ok bytes

/-- The entries that count in a directory: those of the nearest project file, none if there is no
such file, it cannot be read or it is not well formed. -/
inductive Contributes (d : Disk) (directory : Path) : Toml.Table → Prop where
  | absent (projectless : d.Projectless (d.resolve directory)) : Contributes d directory []
  | unreadable {k : Location} {e : DiskError} (nearest : d.Nearest (d.resolve directory) k)
      (unreadable : d.read (projectPath k) = .error e) : Contributes d directory []
  | malformed {bytes : Bytes} {t : Text} (project : d.ProjectHolds directory bytes)
      (text : Encoding.utf8.decode bytes = .ok t)
      (read : Toml.read d.limits.nesting t = .error .malformed) : Contributes d directory []
  | read {bytes : Bytes} {t : Text} {document entries : Toml.Table}
      (project : d.ProjectHolds directory bytes) (text : Encoding.utf8.decode bytes = .ok t)
      (read : Toml.read d.limits.nesting t = .ok document) (own : OwnTable document entries) :
      Contributes d directory entries

/-- There is no search for a project file, it breaks off, or the nearest file is given up in the
middle. -/
inductive Unread (d : Disk) (directory : Path) : SettingsError → Prop where
  | null (null : directory.hasNull = true) : Unread d directory .nullInPath
  | unsearched {e : DiskError} (unsearchable : d.Unsearchable (d.resolve directory) e) :
      Unread d directory (.unsearched e)
  | long {bytes : Bytes} {t : Text} {digits : Nat} (project : d.ProjectHolds directory bytes)
      (text : Encoding.utf8.decode bytes = .ok t)
      (read : Toml.read d.limits.nesting t = .error (.longInteger digits)) :
      Unread d directory (.longInteger digits)
  | deep {bytes : Bytes} {t : Text} (project : d.ProjectHolds directory bytes)
      (text : Encoding.utf8.decode bytes = .ok t)
      (read : Toml.read d.limits.nesting t = .error .tooDeep) : Unread d directory .tooDeep

theorem OwnTable.settingsIn {document entries : Toml.Table} (h : OwnTable document entries) :
    settingsIn document = .ok (rawSettings entries) := by
  cases h with
  | noTool none =>
    rw [RecorderStubs.settingsIn, none]
    rfl
  | noSection above none =>
    simp only [RecorderStubs.settingsIn, above, none]
    rfl
  | own above here => simp only [RecorderStubs.settingsIn, above, here]

theorem usable_of_readProject {room : Nat} {bytes : Bytes} {raw : RawSettings}
    (h : readProject room bytes = .ok raw) : Usable room bytes := by
  unfold readProject at h
  split at h
  · cases h
  · rename_i t text
    refine ⟨t, text, fun document read => ?_⟩
    simp only [read, settingsIn] at h
    split at h
    · rename_i none
      exact ⟨[], .noTool none⟩
    · rename_i tool above
      split at h
      · rename_i none
        exact ⟨[], .noSection above none⟩
      · rename_i entries here
        exact ⟨entries, .own above here⟩
      · cases h
    · cases h

section
variable {d : Disk} {directory : Path} {bytes : Bytes}

theorem Disk.Nearest.projectBytes {k : Location} (h : d.Nearest (d.resolve directory) k) :
    d.projectBytes directory = .ok (d.read (projectPath k)).toOption := by
  rw [Disk.projectBytes, findProject, h.firstFile]
  rfl

theorem Disk.project_cases (d : Disk) (directory : Path) :
    Contributes d directory [] ∨ (∃ e, d.Unsearchable (d.resolve directory) e) ∨
      ∃ bytes, d.ProjectHolds directory bytes := by
  have searched := d.firstFile_searched (d.resolve directory)
  generalize d.firstFile ((d.resolve directory).upwards.map projectPath) = found at searched
  cases searched with
  | none projectless => exact .inl (.absent projectless)
  | failed unsearchable => exact .inr (.inl ⟨_, unsearchable⟩)
  | @found k nearest =>
    cases held : d.read (projectPath k) with
    | error e => exact .inl (.unreadable nearest held)
    | ok bytes => exact .inr (.inr ⟨bytes, k, nearest, held⟩)

theorem contributes_or_unread
    (usable : ∀ bytes, d.ProjectHolds directory bytes → Usable d.limits.nesting bytes) :
    (∃ entries, Contributes d directory entries) ∨ ∃ e, Unread d directory e := by
  rcases d.project_cases directory with contributes | ⟨e, unsearchable⟩ | ⟨bytes, project⟩
  · exact .inl ⟨[], contributes⟩
  · exact .inr ⟨_, .unsearched unsearchable⟩
  · obtain ⟨t, text, tables⟩ := usable bytes project
    cases read : Toml.read d.limits.nesting t with
    | error e =>
      cases e with
      | malformed => exact .inl ⟨[], .malformed project text read⟩
      | longInteger digits => exact .inr ⟨_, .long project text read⟩
      | tooDeep => exact .inr ⟨_, .deep project text read⟩
    | ok document =>
      obtain ⟨entries, own⟩ := tables document read
      exact .inl ⟨entries, .read project text read own⟩

section
variable (named : directory.hasNull = false)
include named

theorem Disk.projectSettings_of_holds (h : d.ProjectHolds directory bytes) :
    d.projectSettings directory = readProject d.limits.nesting bytes := by
  obtain ⟨k, nearest, holds⟩ := h
  rw [projectSettings, named, if_neg (by decide), nearest.projectBytes, holds]
  rfl

theorem Disk.projectSettings_unsearchable {e : DiskError}
    (h : d.Unsearchable (d.resolve directory) e) :
    d.projectSettings directory = .error (.unsearched e) := by
  rw [projectSettings, named, if_neg (by decide), projectBytes, findProject, h.firstFile]
  rfl

theorem Contributes.projectSettings {entries : Toml.Table} (h : Contributes d directory entries) :
    d.projectSettings directory = .ok (rawSettings entries) := by
  cases h with
  | absent projectless =>
    rw [Disk.projectSettings, named, if_neg (by decide), Disk.projectBytes, Disk.findProject,
      projectless.firstFile]
    rfl
  | unreadable nearest unreadable =>
    rw [Disk.projectSettings, named, if_neg (by decide), nearest.projectBytes, unreadable]
    rfl
  | malformed project text read =>
    simp only [Disk.projectSettings_of_holds named project, readProject, text, read]
    rfl
  | read project text read own =>
    simp only [Disk.projectSettings_of_holds named project, readProject, text, read,
      own.settingsIn]

theorem Unread.projectSettings {e : SettingsError} (h : Unread d directory e) :
    d.projectSettings directory = .error e := by
  cases h with
  | null null => cases named.symm.trans null
  | unsearched unsearchable => exact Disk.projectSettings_unsearchable named unsearchable
  | long project text read | deep project text read =>
    simp only [Disk.projectSettings_of_holds named project, readProject, text, read]

end

end

namespace Toml

def ones (n : Nat) : Text := List.replicate n '1'

theorem dropReturns_of_not_mem {t : Text} (free : '\r' ∉ t) : dropReturns t = t := by
  induction t with
  | nil => rfl
  | cons c t ih =>
    simp only [List.mem_cons, not_or] at free
    rw [dropReturns, ih free.2]
    exact fun rest same _ => free.1 same.symm

theorem number?_ones (n : Nat) : number? (ones (n + 1)) = some (.integer (ones (n + 1)), []) := by
  have digits : ∀ n, digitsRest isDigit (ones n) = [] := by
    intro n
    induction n with
    | zero => rfl
    | succ n ih =>
      rw [ones, List.replicate_succ, digitsRest, if_pos (by decide)]
      · exact ih
      · intro c t same
        cases same
  have whole : wholePart? (ones (n + 1)) = some [] := congrArg some (digits n)
  have other : basedInteger? (ones (n + 1)) = none := rfl
  simp [number?, other, whole, fraction?, exponent?, offsetIn]

/-- The first four ones would make a year, and the first two an hour, but neither goes on. -/
theorem plainValue?_ones (n : Nat) :
    plainValue? (ones (n + 5)) = some (.integer (ones (n + 5)), []) := by
  have moment : moment? (ones (n + 5)) = none := rfl
  rw [plainValue?, moment, number?_ones]
  rfl

theorem simpleValue_ones {n : Nat} (long : digitLimit < n + 5) :
    simpleValue (ones (n + 5)) = .error (.longInteger (n + 5)) := by
  have boolean : boolean? (ones (n + 5)) = none := rfl
  have count : decimalDigits (ones (n + 5)) = n + 5 := by
    have all : (ones (n + 5)).countP isDigit = n + 5 := by
      rw [ones, List.countP_replicate, if_pos (by decide)]
    exact all
  have refused : checked (.integer (ones (n + 5))) = .error (.longInteger (n + 5)) := by
    rw [checked, count, if_pos long]
  change (orMalformed ((boolean? (ones (n + 5))).or (plainValue? (ones (n + 5))))).bind _ = _
  rw [boolean, plainValue?_ones]
  change (checked (.integer (ones (n + 5)))).bind _ = _
  rw [refused]
  rfl

theorem pair_ones {n : Nat} (long : digitLimit < n + 5) (room : Nat) (d : Document) :
    pair room d ('x' :: '=' :: ones (n + 5)) = .error (.longInteger (n + 5)) := by
  have value : ∀ limit room, value (limit + 1) room (ones (n + 5)) =
      .error (.longInteger (n + 5)) := fun _ _ => simpleValue_ones long
  change (Toml.value (2 * (ones (n + 5)).length + 1 + 1) room (ones (n + 5))).bind _ = _
  rw [value]
  rfl

theorem read_ones {n : Nat} (long : digitLimit < n) (room : Nat) :
    read room ('x' :: '=' :: ones n) = .error (.longInteger n) := by
  obtain ⟨k, rfl⟩ : ∃ k, n = k + 5 := ⟨n - 5, by unfold digitLimit at long; omega⟩
  have free : '\r' ∉ 'x' :: '=' :: ones (k + 5) := by simp [ones]
  rw [read, dropReturns_of_not_mem free]
  change ((pair room {} ('x' :: '=' :: ones (k + 5))).bind _).map Document.root = _
  rw [pair_ones long]
  rfl

end Toml

end RecorderStubs
