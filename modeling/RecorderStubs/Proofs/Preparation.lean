import RecorderStubs.Proofs.Commit
import RecorderStubs.Proofs.Directories
import RecorderStubs.Proofs.ProjectFile

/-! How a generating command gets ready. It finds its files and its settings, or it says why not;
only a path that cannot be asked for, a search for a project file that fails and a project file of
the wrong shape break it off. Once it is ready, its texts are read or refused. -/
namespace RecorderStubs

/-- The faults of a project file that no command handles: it is nested too deeply, or some other
value stands where a table is expected. -/
inductive IllFormed (room : Nat) (bytes : Bytes) : SettingsError → Prop where
  | deep {t : Text} (text : Encoding.utf8.decode bytes = .ok t)
      (deep : Toml.read room t = .error .tooDeep) : IllFormed room bytes .tooDeep
  | tool {t : Text} {document : Toml.Table} {v : Toml.Value}
      (text : Encoding.utf8.decode bytes = .ok t) (read : Toml.read room t = .ok document)
      (entry : document.lookup "tool".toList = some v) (other : ∀ entries, v ≠ .table entries) :
      IllFormed room bytes (.toolNotTable v)
  | own {t : Text} {document tool : Toml.Table} {v : Toml.Value}
      (text : Encoding.utf8.decode bytes = .ok t) (read : Toml.read room t = .ok document)
      (above : document.lookup "tool".toList = some (.table tool))
      (entry : tool.lookup "stub_delegator".toList = some v)
      (other : ∀ entries, v ≠ .table entries) : IllFormed room bytes (.sectionNotTable v)

section
variable {room : Nat} {bytes : Bytes} {e : SettingsError} {b : Breakdown} {document : Toml.Table}

theorem IllFormed.readProject (h : IllFormed room bytes e) : readProject room bytes = .error e := by
  cases h with
  | deep text deep => simp only [RecorderStubs.readProject, text, deep]
  | tool text read entry other =>
    simp only [RecorderStubs.readProject, text, read, settingsIn, entry]
  | own text read above entry other =>
    simp only [RecorderStubs.readProject, text, read, settingsIn, above, entry]

theorem IllFormed.broken (h : IllFormed room bytes e) : Stop.ofSettings e = .broken (.settings e) := by
  cases h with
  | deep => rfl
  | tool => rfl
  | own => rfl

end

namespace Disk

/-- Whether a file stands at a path is a question that fails: the walk is stopped, and not because
nothing is there. -/
def Unasked (d : Disk) (p : Path) (e : DiskError) : Prop :=
  ∃ cause, d.locate p = .error cause ∧ cause.isAbsence = false ∧ e = ⟨cause, some p⟩

variable {d : Disk} {p : Path}

theorem named_of_isFile (h : d.isFile p = .ok true) : p.hasNull = false := by
  by_contra null
  rw [isFile, locate_null (by simpa using null)] at h
  cases h

theorem isFile_error_iff {e : DiskError} : d.isFile p = .error e ↔ d.Unasked p e := by
  constructor
  · intro h
    unfold isFile at h
    split at h
    · rename_i cause stopped
      split at h
      · cases h
      · rename_i present
        cases h
        exact ⟨cause, stopped, by simpa using present, rfl⟩
    · cases h
  · rintro ⟨cause, stopped, present, rfl⟩
    rw [isFile, stopped]
    simp only [present, Bool.false_eq_true, if_false]

end Disk

theorem requireFile_broken_iff {d : Disk} {p : Path} {missing : Refusal} {b : Breakdown} :
    requireFile d p missing = .error (.broken b) ↔ ∃ e, d.Unasked p e ∧ b = .path e := by
  constructor
  · intro h
    unfold requireFile at h
    split at h
    · rename_i e asked
      cases h
      exact ⟨e, Disk.isFile_error_iff.mp asked, rfl⟩
    · cases h
    · cases h
  · rintro ⟨e, unasked, rfl⟩
    simp only [requireFile, Disk.isFile_error_iff.mpr unasked]

/-- What keeps a generating command from getting ready, and is not handled. -/
inductive Target.Unhandled (t : Target) (d : Disk) : Breakdown → Prop where
  | input {e : DiskError} (unasked : d.Unasked t.input e) : t.Unhandled d (.path e)
  | search {e : DiskError} (there : d.isFile t.input = .ok true)
      (unsearchable : d.Unsearchable (d.resolve t.input.parent) e) : t.Unhandled d (.path e)
  | project {bytes : Bytes} {e : SettingsError} (there : d.isFile t.input = .ok true)
      (project : d.ProjectHolds t.input.parent bytes)
      (illFormed : IllFormed d.limits.nesting bytes e) : t.Unhandled d (.settings e)
  | companion {s : Settings} {e : DiskError} (there : d.isFile t.input = .ok true)
      (settings : t.settings d = .ok s) (unasked : d.Unasked (t.companionPath s) e) :
      t.Unhandled d (.path e)

namespace Target

variable {t : Target} {d : Disk} {e : SettingsError} {b : Breakdown}

theorem settings_error (h : d.projectSettings t.input.parent = .error e) :
    t.settings d = .error e := by
  rw [settings, Settings.load, h]

theorem setup_unhandled (h : t.Unhandled d b) : t.setup d = .error (.broken b) := by
  cases h with
  | input unasked =>
    have input : requireFile d t.input (.noInput t.input) = _ :=
      requireFile_broken_iff.mpr ⟨_, unasked, rfl⟩
    simp only [setup, input]
  | search there unsearchable =>
    have named := Path.parent_named (Disk.named_of_isFile there)
    have unsettled := settings_error (Disk.projectSettings_unsearchable named unsearchable)
    simp only [setup, requireFile, there, unsettled]
    rfl
  | project there project illFormed =>
    have named := Path.parent_named (Disk.named_of_isFile there)
    have unsettled := settings_error
      ((Disk.projectSettings_of_holds named project).trans illFormed.readProject)
    simp only [setup, requireFile, there, unsettled, illFormed.broken]
  | @companion s _ there settings unasked =>
    have companion : requireFile d (t.companionPath s) (.noCompanion (t.companionPath s)) = _ :=
      requireFile_broken_iff.mpr ⟨_, unasked, rfl⟩
    have input : requireFile d t.input (.noInput t.input) = .ok () := by
      simp only [requireFile, there]
    simp only [setup, input, settings, companion]

end Target

end RecorderStubs
