import RecorderStubs.Proofs.Call
import RecorderStubs.Proofs.Encoding
import RecorderStubs.Proofs.ProjectFile

/-! How settings are resolved. Each field is taken from what was given, else from the nearest
project file, else from the defaults, whatever the other fields are; and all fields that are not
acceptable are named. Only where the search for a project file breaks off, or the nearest one is
given up in the middle, there are no settings at all. -/
namespace RecorderStubs

theorem mapError_faults (x : Except (List Fault) Settings) :
    (match x with
    | .ok s => .ok s
    | .error fs => .error (.faults fs)) = x.mapError SettingsError.faults := by
  cases x <;> rfl

theorem Settings.load_eq (d : Disk) (directory : Path) (given : RawSettings) :
    Settings.load d directory given = (d.projectSettings directory).bind fun raw =>
      (Settings.ofRaw (given.orElse raw)).mapError .faults := by
  rw [Settings.load]
  cases d.projectSettings directory with
  | error e => rfl
  | ok raw => exact mapError_faults (Settings.ofRaw (given.orElse raw))

def RawSettings.get (raw : RawSettings) : Field → Option RawValue
  | .companionFile => raw.companionFile
  | .enumName => raw.enumName
  | .macroName => raw.macroName

/-- The settings as they would be given. -/
def Settings.raw (s : Settings) : RawSettings where
  companionFile := some (.string s.companionFile)
  enumName := some (.string (String.ofList s.enumName.text))
  macroName := some (.string (String.ofList s.macroName.text))

def Settings.get (s : Settings) : Field → Text
  | .companionFile => s.companionFile.toList
  | .enumName => s.enumName.text
  | .macroName => s.macroName.text

namespace Field

def all : List Field := [companionFile, enumName, macroName]

def default : Field → Text
  | companionFile => "call.rs".toList
  | enumName => "Call".toList
  | macroName => "simple".toList

/-- Whether a value may be given: a string, and for the names an identifier with blanks around it.
A value that is missing always may. -/
def accepts (f : Field) : Option RawValue → Bool
  | none => true
  | some .other => false
  | some (.string s) => f = companionFile || isIdentifier (trim s.toList)

def stored (f : Field) : Option RawValue → Text
  | some (.string s) => if f = companionFile then s.toList else trim s.toList
  | _ => f.default

/-- The value of a field is stored, or it is refused. -/
inductive Taken {α : Type} (f : Field) (value : Option RawValue) (text : α → Text) :
    Except FaultReason α → Prop where
  | ok {a : α} (accepted : f.accepts value = true) (same : text a = f.stored value) :
      Taken f value text (.ok a)
  | error {reason : FaultReason} (refused : f.accepts value = false) :
      Taken f value text (.error reason)

theorem Taken.faults {α : Type} {f : Field} {value : Field → Option RawValue} {text : α → Text}
    {x : Except FaultReason α} (h : f.Taken (value f) text x) :
    (faultOf f x).map Fault.field = [f].filter (fun f => !f.accepts (value f)) := by
  cases h with
  | ok accepted same => simp [faultOf, accepted]
  | error refused => simp [faultOf, refused]

end Field

theorem readFile_taken (value : Option RawValue) :
    Field.companionFile.Taken value String.toList (readFile "call.rs" value) := by
  cases value with
  | none => exact .ok rfl rfl
  | some v =>
    cases v with
    | string s => exact .ok rfl rfl
    | other => exact .error rfl

theorem readIdentifier_taken {f : Field} (name : f ≠ .companionFile) {usual : Identifier}
    (same : usual.text = f.default) (value : Option RawValue) :
    f.Taken value Identifier.text (readIdentifier usual value) := by
  cases value with
  | none => exact .ok rfl same
  | some v =>
    cases v with
    | other => exact .error rfl
    | string s =>
      by_cases valid : isIdentifier (trim s.toList) = true
      · have made : Identifier.of? (trim s.toList) = some ⟨trim s.toList, valid⟩ := dif_pos valid
        rw [readIdentifier, made]
        exact .ok (by simp [Field.accepts, valid]) (by simp [Field.stored, name])
      · have none : Identifier.of? (trim s.toList) = none := dif_neg valid
        rw [readIdentifier, none]
        exact .error (by simpa [Field.accepts, name] using valid)

theorem trim_identifier (i : Identifier) : trim i.text = i.text := by
  have front : ∀ {t}, RunOf isIdentifierChar t → t.dropWhile isBlank = t := fun run =>
    dropWhile_of_stops (stops_of_all (fun _ => solid_of_identifierChar) run.2)
  rw [trim, trimStart, front i.run, trimEnd, front i.run.reverse, List.reverse_reverse]

theorem Settings.ofRaw_raw (s : Settings) : Settings.ofRaw s.raw = .ok s := by
  have name : ∀ usual i : Identifier,
      readIdentifier usual (some (.string (String.ofList i.text))) = .ok i := by
    intro usual i
    have made : Identifier.of? i.text = some i := dif_pos i.valid
    simp only [readIdentifier, String.toList_ofList, trim_identifier, made]
  simp only [ofRaw, raw, readFile, name]

/-- What comes of the values of the fields: settings that hold them, or all fields whose values are
refused. -/
inductive Resolved (value : Field → Option RawValue) : Except SettingsError Settings → Prop where
  | settings {s : Settings} (accepted : ∀ f : Field, f.accepts (value f) = true)
      (stored : ∀ f : Field, s.get f = f.stored (value f)) (again : Settings.ofRaw s.raw = .ok s) :
      Resolved value (.ok s)
  | faults {fs : List Fault} (refused : ∃ f : Field, f.accepts (value f) = false)
      (located : fs.map Fault.field = Field.all.filter (fun f => !f.accepts (value f))) :
      Resolved value (.error (.faults fs))

theorem Settings.ofRaw_resolved (raw : RawSettings) :
    Resolved raw.get ((Settings.ofRaw raw).mapError .faults) := by
  have file : Field.companionFile.Taken (raw.get .companionFile) String.toList
      (readFile "call.rs" raw.companionFile) := readFile_taken _
  have enum : Field.enumName.Taken (raw.get .enumName) Identifier.text
      (readIdentifier .usualEnum raw.enumName) := readIdentifier_taken (by decide) rfl _
  have call : Field.macroName.Taken (raw.get .macroName) Identifier.text
      (readIdentifier .usualMacro raw.macroName) := readIdentifier_taken (by decide) rfl _
  have located := congrArg₂ (· ++ ·) (congrArg₂ (· ++ ·) file.faults enum.faults) call.faults
  simp only [← List.map_append, ← List.filter_append] at located
  unfold ofRaw
  dsimp only
  generalize readFile _ raw.companionFile = x at file located ⊢
  generalize readIdentifier _ raw.enumName = y at enum located ⊢
  generalize readIdentifier _ raw.macroName = z at call located ⊢
  -- Whichever field is refused, the faults are those of all three.
  cases file with
  | error refused => exact .faults ⟨_, refused⟩ located
  | ok fileAccepted fileStored =>
    cases enum with
    | error refused => exact .faults ⟨_, refused⟩ located
    | ok enumAccepted enumStored =>
      cases call with
      | error refused => exact .faults ⟨_, refused⟩ located
      | ok callAccepted callStored =>
        refine .settings (fun f => ?_) (fun f => ?_) (ofRaw_raw _)
        · cases f <;> assumption
        · cases f <;> assumption

theorem RawSettings.get_orElse (a b : RawSettings) (f : Field) :
    (a.orElse b).get f = (a.get f).or (b.get f) := by
  cases f <;> rfl

theorem rawSettings_get (entries : Toml.Table) (f : Field) :
    (rawSettings entries).get f = (entries.lookup f.key.toList).map rawOf := by
  cases f <;> rfl

/-- Where the nearest project file can be used, each field is what was given, else what that file
says, else the default, and all refused fields are named; unless the search breaks off or the file
is given up in the middle, and then there are no settings. -/
theorem settings_resolved {d : Disk} {directory : Path} (given : RawSettings)
    (usable : ∀ bytes, d.ProjectHolds directory bytes → Usable d.limits.nesting bytes) :
    (∃ entries, Contributes d directory entries ∧
      Resolved (fun f => (given.get f).or ((entries.lookup f.key.toList).map rawOf))
        (Settings.load d directory given)) ∨
    ∃ e, Unread d directory e ∧ Settings.load d directory given = .error e := by
  rw [Settings.load_eq]
  cases named : directory.hasNull with
  | true =>
    refine .inr ⟨_, .null named, ?_⟩
    rw [Disk.projectSettings, if_pos named]
    rfl
  | false =>
    rcases contributes_or_unread usable with ⟨entries, contributes⟩ | ⟨e, unread⟩
    · refine .inl ⟨entries, contributes, ?_⟩
      rw [contributes.projectSettings named]
      have resolved := Settings.ofRaw_resolved (given.orElse (rawSettings entries))
      simp only [funext (RawSettings.get_orElse given (rawSettings entries)), rawSettings_get]
        at resolved
      exact resolved
    · refine .inr ⟨e, unread, ?_⟩
      rw [unread.projectSettings named]
      rfl

def nestedProjects : Disk :=
  ((Disk.empty.add [projectFile]
    (.file (encodeUtf8 "[tool.stub_delegator]\nmacro_name = \"far\"\n".toList) {}) ⟨rfl, rfl⟩).add
    ["a"] (.directory {}) ⟨rfl, rfl⟩).add ["a", projectFile]
    (.file (encodeUtf8 "[tool.stub_delegator]\nenum_name = \" Kind \"\nmacro_name = 3\n".toList) {})
    ⟨rfl, rfl⟩

def givenMacro : RawSettings := { macroName := some (.string "m\t") }

theorem settings_resolved_nested :
    (∀ bytes, nestedProjects.ProjectHolds (.ofString "a/b") bytes →
      Usable nestedProjects.limits.nesting bytes) ∧
    ∃ entries, Contributes nestedProjects (.ofString "a/b") entries ∧
      Resolved (fun f => (givenMacro.get f).or ((entries.lookup f.key.toList).map rawOf))
        (Settings.load nestedProjects (.ofString "a/b") givenMacro) := by
  have loaded : (Settings.load nestedProjects (.ofString "a/b") givenMacro).isOk = true := by
    decide +kernel
  have usable : ∀ bytes, nestedProjects.ProjectHolds (.ofString "a/b") bytes →
      Usable nestedProjects.limits.nesting bytes := by
    intro bytes project
    rw [Settings.load_eq, Disk.projectSettings_of_holds (by decide +kernel) project] at loaded
    cases read : readProject nestedProjects.limits.nesting bytes with
    | error e =>
      rw [read] at loaded
      cases loaded
    | ok raw => exact usable_of_readProject read
  refine ⟨usable, ?_⟩
  rcases settings_resolved givenMacro usable with found | ⟨e, _, failed⟩
  · exact found
  · rw [failed] at loaded
    cases loaded

-- A directory that may not be searched ends the search; a file that may not be read only ends it.
example :
    let sealed := nestedProjects.restrict ["a"] { search := some .permission }
    let hidden := nestedProjects.restrict ["a", projectFile] { read := some .permission }
    (sealed.projectSettings (.ofString "a")).isOk = false ∧
      (hidden.projectSettings (.ofString "a")).toOption = some {} := by
  decide +kernel

def onesText : Text := 'x' :: '=' :: Toml.ones 4301

def onesDisk : Disk :=
  Disk.empty.add [projectFile] (.file (encodeUtf8 onesText) {}) ⟨rfl, rfl⟩

/-- The nearest project file cannot be read, and no settings come out instead of the defaults. -/
theorem long_integer_not_skipped :
    onesDisk.ProjectHolds ⟨.here, []⟩ (encodeUtf8 onesText) ∧
      Usable onesDisk.limits.nesting (encodeUtf8 onesText) ∧
      Settings.load onesDisk ⟨.here, []⟩ {} = .error (.longInteger 4301) := by
  have read : Toml.read onesDisk.limits.nesting onesText = .error (.longInteger 4301) :=
    Toml.read_ones (by decide) _
  have text : Encoding.utf8.decode (encodeUtf8 onesText) = .ok onesText := decodeUtf8From_encode 0 _
  have file : onesDisk.FileAt (projectPath []) [projectFile] (encodeUtf8 onesText) {} :=
    ⟨rfl, rfl⟩
  have project : onesDisk.ProjectHolds ⟨.here, []⟩ (encodeUtf8 onesText) :=
    ⟨[], ⟨onesDisk.reaches_self [], rfl⟩, file.read rfl⟩
  refine ⟨project, ⟨onesText, text, fun document found => ?_⟩, ?_⟩
  · rw [read] at found
    cases found
  · have unread : Unread onesDisk ⟨.here, []⟩ (.longInteger 4301) := .long project text read
    rw [Settings.load_eq, unread.projectSettings rfl]
    rfl

end RecorderStubs
