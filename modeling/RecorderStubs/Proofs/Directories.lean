import RecorderStubs.Proofs.Recording
import RecorderStubs.Proofs.Storage

/-! Directories on a disk. To make directories it does not matter what files hold, and the only
paths that the system never sees are those with a null character. -/
namespace RecorderStubs

theorem Path.parent_named {p : Path} (h : p.hasNull = false) : p.parent.hasNull = false := by
  rw [hasNull, List.any_eq_false] at h ⊢
  exact fun part listed => h part (List.dropLast_subset _ listed)

namespace Disk

/-- Nothing at both of two locations, two directories, or two files whatever they hold. -/
inductive SameKind : Option Node → Option Node → Prop where
  | none : SameKind none none
  | directory (access : Access) :
      SameKind (some (.directory access)) (some (.directory access))
  | file (x y : Bytes) (access : Access) :
      SameKind (some (.file x access)) (some (.file y access))

theorem SameKind.refl (n : Option Node) : SameKind n n := by
  rcases n with _ | ⟨bytes, access⟩ | ⟨access⟩
  · exact .none
  · exact .file bytes bytes access
  · exact .directory access

/-- Two disks with the same directories and the same files, which may hold other bytes. -/
structure Alike (d d' : Disk) : Prop where
  nodes : ∀ l, SameKind (d.node? l) (d'.node? l)
  here : d.here = d'.here
  limits : d.limits = d'.limits

inductive Alike.Results {ε : Type} : Except ε Disk → Except ε Disk → Prop where
  | ok {d d' : Disk} (alike : Alike d d') : Results (.ok d) (.ok d')
  | error (e : ε) : Results (.error e) (.error e)

theorem alike_refl (d : Disk) : Alike d d := ⟨fun l => .refl (d.node? l), rfl, rfl⟩

variable {d d' : Disk} {p : Path} {l : Location}

theorem Alike.symm (h : Alike d d') : Alike d' d := by
  refine ⟨fun l => ?_, h.here.symm, h.limits.symm⟩
  have same := h.nodes l
  generalize d.node? l = one at same ⊢
  generalize d'.node? l = two at same ⊢
  cases same with
  | none => exact .none
  | directory access => exact .directory access
  | file x y access => exact .file y x access

theorem alike_overwrite (d : Disk) (l : Location) (new : Bytes) : Alike d (d.overwrite l new) := by
  refine ⟨fun m => ?_, rfl, rfl⟩
  rw [node?_overwrite]
  split
  · rcases d.node? m with _ | ⟨old, access⟩ | ⟨access⟩
    · exact .none
    · exact .file old new access
    · exact .directory access
  · exact .refl (d.node? m)

theorem Alike.enter (h : Alike d d') : d.enter = d'.enter := by
  funext l part
  have same := h.nodes l
  simp only [Disk.enter, h.limits]
  generalize d.node? l = one at same ⊢
  generalize d'.node? l = two at same ⊢
  cases same <;> rfl

theorem Alike.locate (h : Alike d d') (p : Path) : d.locate p = d'.locate p := by
  have start : d.start p.root = d'.start p.root := by
    cases p.root with
    | here => exact h.here
    | _ => rfl
  simp only [Disk.locate, h.enter, h.limits, start]

theorem Alike.isDirectoryAt (h : Alike d d') (l : Location) :
    d.tree.isDirectory l = d'.tree.isDirectory l := by
  have same := h.nodes l
  have one : d.tree.isDirectory l = (d.node? l).any Node.isDirectory := rfl
  have two : d'.tree.isDirectory l = (d'.node? l).any Node.isDirectory := rfl
  rw [one, two]
  generalize d.node? l = one at same ⊢
  generalize d'.node? l = two at same ⊢
  cases same <;> rfl

theorem Alike.isDirectory (h : Alike d d') (p : Path) : d.isDirectory p = d'.isDirectory p := by
  simp only [Disk.isDirectory, Disk.find?, h.locate p]
  cases d'.locate p with
  | error cause => rfl
  | ok l => exact h.isDirectoryAt l

theorem Alike.free (h : Alike d d') : (d.node? l).isSome = (d'.node? l).isSome := by
  have same := h.nodes l
  generalize d.node? l = one at same ⊢
  generalize d'.node? l = two at same ⊢
  cases same <;> rfl

theorem Alike.vacant (h : Alike d d') (vacant : d.tree.Vacant l) : d'.tree.Vacant l := by
  have free : (d.node? l).isSome = false := by
    rw [Option.isSome_eq_false_iff, Option.isNone_iff_eq_none]
    exact vacant.free
  rw [h.free, Option.isSome_eq_false_iff, Option.isNone_iff_eq_none] at free
  exact ⟨free, (h.isDirectoryAt _).symm.trans vacant.parent⟩

theorem Alike.sealed? (h : Alike d d') (l : Location) : d.sealed? l = d'.sealed? l := by
  have same := h.nodes l
  simp only [Disk.sealed?]
  generalize d.node? l = one at same ⊢
  generalize d'.node? l = two at same ⊢
  cases same <;> rfl

theorem Alike.add (h : Alike d d') (n : Node) (vacant : d.tree.Vacant l)
    (vacant' : d'.tree.Vacant l) : Alike (d.add l n vacant) (d'.add l n vacant') := by
  refine ⟨fun m => ?_, h.here, h.limits⟩
  rw [node?_add, node?_add]
  split
  · exact .refl (some n)
  · exact h.nodes m

theorem Alike.create (h : Alike d d') (l : Location) (n : Node) :
    Results (d.create l n) (d'.create l n) := by
  unfold Disk.create
  rw [h.free, h.sealed?]
  split
  · exact .error _
  · by_cases vacant : d.tree.Vacant l
    · rw [dif_pos vacant, dif_pos (h.vacant vacant)]
      split
      · exact .error _
      · exact .ok (h.add n vacant _)
    · rw [dif_neg vacant, dif_neg (fun there => vacant (h.symm.vacant there))]
      exact .error _

theorem Alike.makeDirectory (h : Alike d d') (p : Path) :
    Results (d.makeDirectory p) (d'.makeDirectory p) := by
  simp only [Disk.makeDirectory, h.locate p]
  cases d'.locate p with
  | error cause => exact .error _
  | ok l =>
    have made := h.create l (.directory {})
    simp only
    generalize d.create l (.directory {}) = one at made ⊢
    generalize d'.create l (.directory {}) = two at made ⊢
    cases made with
    | ok alike => exact .ok alike
    | error cause => exact .error _

theorem Alike.ensureDirectory (h : Alike d d') (p : Path) :
    Results (d.ensureDirectory p) (d'.ensureDirectory p) := by
  have made := h.makeDirectory p
  simp only [Disk.ensureDirectory, h.isDirectory p]
  generalize d.makeDirectory p = one at made ⊢
  generalize d'.makeDirectory p = two at made ⊢
  cases made with
  | ok alike => exact .ok alike
  | error e =>
    simp only
    split
    · exact .ok h
    · exact .error e

theorem Alike.ensured (h : Alike d d') (p : Path) :
    (d.ensured p).1 = (d'.ensured p).1 ∧ Alike (d.ensured p).2 (d'.ensured p).2 := by
  have made := h.ensureDirectory p
  simp only [Disk.ensured]
  generalize d.ensureDirectory p = one at made ⊢
  generalize d'.ensureDirectory p = two at made ⊢
  cases made with
  | ok alike => exact ⟨rfl, alike⟩
  | error e => exact ⟨rfl, h⟩

theorem Alike.ensureParts (h : Alike d d') (root : Root) (parts : List String) :
    (d.ensureParts root parts).1 = (d'.ensureParts root parts).1 ∧
      Alike (d.ensureParts root parts).2 (d'.ensureParts root parts).2 := by
  induction parts with
  | nil => exact h.ensured ⟨root, []⟩
  | cons part above ih =>
    have made := h.ensureDirectory ⟨root, (part :: above).reverse⟩
    simp only [Disk.ensureParts]
    generalize d.ensureDirectory ⟨root, (part :: above).reverse⟩ = one at made ⊢
    generalize d'.ensureDirectory ⟨root, (part :: above).reverse⟩ = two at made ⊢
    cases made with
    | ok alike => exact ⟨rfl, alike⟩
    | error e =>
      simp only
      split
      · generalize d.ensureParts root above = one at ih ⊢
        generalize d'.ensureParts root above = two at ih ⊢
        obtain ⟨result, left⟩ := one
        obtain ⟨result', left'⟩ := two
        obtain ⟨rfl, alike⟩ := ih
        cases result with
        | error e => exact ⟨rfl, alike⟩
        | ok done => exact alike.ensured _
      · exact ⟨rfl, h⟩

theorem locate_null (h : p.hasNull = true) : d.locate p = .error .nullByte := by
  rw [locate, if_pos h]

theorem ensureDirectories_null (h : p.hasNull = true) :
    d.ensureDirectories p = (.error ⟨.nullByte, some p⟩, d) := by
  have refused : d.ensureDirectory p = .error ⟨.nullByte, some p⟩ := by
    simp [ensureDirectory, makeDirectory, isDirectory, find?, locate_null h]
  obtain ⟨root, parts⟩ := p
  cases reversed : parts.reverse with
  | nil =>
    rw [List.reverse_eq_nil_iff.mp reversed] at h
    cases h
  | cons part above =>
    have whole : (part :: above).reverse = parts := by
      rw [← reversed, List.reverse_reverse]
    simp only [ensureDirectories, reversed, ensureParts, whole, refused]
    rfl

end Disk

end RecorderStubs
