import RecorderStubs.Buffer.Companion
import RecorderStubs.Journal.Basic
import RecorderStubs.Recording.Render
import RecorderStubs.Recording.Slot

/-! Records one method: its placeholder becomes the delegating call, then the variant goes into the
enum of the companion, then the companion is saved. Nothing is taken back when a later step
fails. -/
namespace RecorderStubs

/-- The two texts under edit, and the disk behind them. -/
structure Desk where
  primary : Text
  companion : Companion
  disk : Disk := .empty

structure Recorded where
  call : Text
  variant : Text
  primaryRegion : Span
  companionRegion : Span
deriving DecidableEq, Repr

inductive RecordError where
  | region (error : RegionError)
  | unreadable (error : FileError)
  | slot (error : SlotError)
  | uninserted (error : EditError)
  | unsaved (error : SaveError)
deriving DecidableEq, Repr

/-- Failures that the system names; a path it never sees and a text without bytes are none. -/
def FileError.isSystem : FileError → Bool
  | .disk e => e.cause.system?.isSome
  | .decode _ => false
  | .encode _ => false

def FileError.isDecoding : FileError → Bool
  | .decode _ => true
  | _ => false

def RecordError.toFailure : RecordError → Failure
  | .region e => ⟨.value, e.message, none⟩
  | .unreadable e =>
    if e.isSystem || e.isDecoding then
      ⟨.enumTarget, "Could not read companion file: " ++ e.message, none⟩
    else ⟨.value, e.message, none⟩
  | .slot e => ⟨.enumTarget, e.message, none⟩
  | .uninserted (.region e) => ⟨.value, e.message, none⟩
  | .uninserted (.file e) => ⟨if e.isSystem then .system else .value, e.message, none⟩
  | .unsaved (.refused reason) =>
    ⟨.persistence, "Could not save companion file: " ++ reason, none⟩
  | .unsaved (.file e) =>
    if e.isSystem then ⟨.persistence, "Could not save companion file: " ++ e.message, none⟩
    else ⟨.value, e.message, none⟩

structure Recording where
  desk : Desk
  stages : List Stage
  result : Except RecordError Recorded

/-- The variant as inserted at an offset: on a line of its own. -/
def variantAt (t : Text) (offset : Nat) (s : Signature) : Text :=
  match (t.take offset).getLast? with
  | none => variantText s
  | some c => if c = '\n' then variantText s else '\n' :: variantText s

def recordVariant (primary : Text) (region : Span) (call : Text) (s : Signature)
    (enumName : Text) (desk : Desk) : Recording :=
  match desk.companion.read desk.disk with
  | (.error e, companion) =>
    ⟨⟨primary, companion, desk.disk⟩, [.primaryEdited], .error (.unreadable e)⟩
  | (.ok t, companion) =>
    match enumSlot t enumName with
    | .error e => ⟨⟨primary, companion, desk.disk⟩, [.primaryEdited], .error (.slot e)⟩
    | .ok offset =>
      let variant := variantAt t offset s
      match companion.replace desk.disk offset offset variant with
      | (.error e, companion) =>
        ⟨⟨primary, companion, desk.disk⟩, [.primaryEdited, .companionLocated],
          .error (.uninserted e)⟩
      | (.ok (), edited) =>
        match edited.save desk.disk with
        | (.error e, companion, disk) =>
          ⟨⟨primary, companion, disk⟩, [.primaryEdited, .companionLocated, .companionEdited],
            .error (.unsaved e)⟩
        | (.ok (), companion, disk) =>
          ⟨⟨primary, companion, disk⟩,
            [.primaryEdited, .companionLocated, .companionEdited, .persisted],
            .ok ⟨call, variant, region, ⟨offset, offset + variant.length⟩⟩⟩

def record (d : Declaration) (macroName enumName : Text) (desk : Desk) : Recording :=
  let call := callText macroName d.signature
  let start := d.placeholder.start
  match replaceRegion desk.primary start d.placeholder.stop call with
  | .error e => ⟨desk, [], .error (.region e)⟩
  | .ok primary =>
    recordVariant primary ⟨start, start + call.length⟩ call d.signature enumName desk

def recordTexts (t : Text) (offset : Int) (companion macroName enumName : Text) :
    Except Failure (Text × Text) :=
  match parse t offset with
  | .error e => .error (e.toFailure t)
  | .ok d =>
    let r := record d macroName enumName ⟨t, .memory { text := companion } none, .empty⟩
    match r.result with
    | .error e => .error e.toFailure
    | .ok _ => .ok (r.desk.primary, r.desk.companion.held)

end RecorderStubs
