import RecorderStubs.Command.Basic
import RecorderStubs.Command.Outcome
import RecorderStubs.Diff.Unified
import RecorderStubs.Generation.Session

/-! What the generating commands share: the two files and the settings, the two texts before and
after, and the diffs that a dry run shows in place of writing. -/
namespace RecorderStubs

structure Setup where
  input : Path
  companion : Path
  settings : Settings

def Target.settings (t : Target) (d : Disk) : Except SettingsError Settings :=
  Settings.load d t.input.parent t.names

def Target.companionPath (t : Target) (s : Settings) : Path :=
  t.companion.getD (s.companionPath t.input)

def requireFile (d : Disk) (p : Path) (missing : Refusal) : Except Stop Unit :=
  match d.isFile p with
  | .error e => .error (.broken (.path e))
  | .ok false => .error (.refused missing)
  | .ok true => .ok ()

def Target.setup (t : Target) (d : Disk) : Except Stop Setup :=
  match requireFile d t.input (.noInput t.input) with
  | .error e => .error e
  | .ok () =>
    match t.settings d with
    | .error e => .error (.ofSettings e)
    | .ok s =>
      match requireFile d (t.companionPath s) (.noCompanion (t.companionPath s)) with
      | .error e => .error e
      | .ok () => .ok ⟨t.input, t.companionPath s, s⟩

structure Texts where
  primary : Text
  companion : Text
deriving DecidableEq, Repr

def Desk.texts (k : Desk) : Texts := ⟨k.primary, k.companion.held⟩

namespace Setup

def read (s : Setup) (d : Disk) : Except Stop Texts :=
  match d.readText s.input .utf8 with
  | .error e => .error (.ofFile .unreadable e)
  | .ok primary =>
    match d.readText s.companion .utf8 with
    | .error e => .error (.ofFile .unreadable e)
    | .ok companion => .ok ⟨primary, companion⟩

/-- The companion in memory, apart from its file. -/
def draft (s : Setup) (companion : Text) : Companion :=
  .memory { text := companion, name := s.companion.text } none

def session (s : Setup) (primary : Text) (companion : Companion) (d : Disk) : Session :=
  { settings := s.settings, desk := ⟨primary, companion, d⟩ }

def showDiffs (s : Setup) (before after : Texts) (c : Console) : Console :=
  let diffs :=
    [Diff.unified before.primary after.primary s.input.name,
      Diff.unified before.companion after.companion s.companion.name]
  (diffs.filter (!·.isEmpty)).foldl (fun c t => c.add (.diff t)) c

end Setup

def Target.begin (t : Target) (c : Console) (d : Disk) (go : Setup → Texts → Outcome) : Outcome :=
  match t.setup d with
  | .error e => e.outcome c d
  | .ok s =>
    match s.read d with
    | .error e => e.outcome c d
    | .ok texts => go s texts

end RecorderStubs
