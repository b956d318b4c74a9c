import RecorderStubs.Text.Encoding

/-! Files and directories by location. Every location stands in the list at most once, and whatever
is there stands in a directory. Links are left out, so two locations are always two places. -/
namespace RecorderStubs

/-- The names of the directories from the root down, and the last name. -/
abbrev Location := List String

def Location.step (l : Location) (part : String) : Location :=
  if part = ".." then l.dropLast else l ++ [part]

/-- The locations above the names given, which come last first: the nearest first. -/
def Location.above : List String → List Location
  | [] => [[]]
  | name :: names => (name :: names).reverse :: above names

def Location.upwards (l : Location) : List Location := above l.reverse

inductive Denial where
  | notPermitted
  | device
  | permission
  | tooLarge
  | noSpace
  | readOnly
  | quota
deriving DecidableEq, Repr

def Denial.system : Denial → Nat × String
  | notPermitted => (1, "Operation not permitted")
  | device => (5, "Input/output error")
  | permission => (13, "Permission denied")
  | tooLarge => (27, "File too large")
  | noSpace => (28, "No space left on device")
  | readOnly => (30, "Read-only file system")
  | quota => (122, "Disk quota exceeded")

/-- What is denied at a node. To write a directory is to make something in it or take it away, to
search one is to go on from it. -/
structure Access where
  read : Option Denial := none
  write : Option Denial := none
  search : Option Denial := none
deriving DecidableEq, Repr

inductive Node where
  | file (bytes : Bytes) (access : Access)
  | directory (access : Access)
deriving DecidableEq, Repr

namespace Node

def isDirectory : Node → Bool
  | file _ _ => false
  | directory _ => true

def access : Node → Access
  | file _ access => access
  | directory access => access

def withBytes (new : Bytes) : Node → Node
  | file _ access => file new access
  | directory access => directory access

def withAccess (access : Access) : Node → Node
  | file bytes _ => file bytes access
  | directory _ => directory access

theorem withBytes_withBytes (old new : Bytes) :
    withBytes new ∘ withBytes old = withBytes new := by
  funext n
  cases n with
  | file => rfl
  | directory => rfl

theorem isDirectory_withBytes (new : Bytes) (n : Node) :
    (n.withBytes new).isDirectory = n.isDirectory := by
  cases n with
  | file => rfl
  | directory => rfl

theorem isDirectory_withAccess (access : Access) (n : Node) :
    (n.withAccess access).isDirectory = n.isDirectory := by
  cases n with
  | file => rfl
  | directory => rfl

end Node

abbrev Nodes := List (Location × Node)

namespace Nodes

def isDirectory (nodes : Nodes) (l : Location) : Bool := (nodes.lookup l).any Node.isDirectory

def alter (nodes : Nodes) (l : Location) (f : Node → Node) : Nodes :=
  nodes.map fun entry => if entry.1 = l then (entry.1, f entry.2) else entry

def erase (nodes : Nodes) (l : Location) : Nodes := nodes.filter (fun entry => entry.1 ≠ l)

variable {nodes : Nodes} {l m : Location}

theorem lookup_entry (entry : Location × Node) :
    List.lookup m (entry :: nodes) = if m = entry.1 then some entry.2 else nodes.lookup m := by
  obtain ⟨k, n⟩ := entry
  rw [List.lookup_cons]
  by_cases here : m = k
  · simp [here]
  · simp [here, beq_eq_false_iff_ne.mpr here]

theorem lookup_eq_none : nodes.lookup l = none ↔ l ∉ nodes.map Prod.fst := by
  rw [List.lookup_eq_none_iff]
  simp only [List.mem_map, not_exists, not_and, bne_iff_ne, ne_eq]
  exact ⟨fun h entry listed same => h entry listed same.symm,
    fun h entry listed same => h entry listed same.symm⟩

theorem fst_alter (f : Node → Node) : (nodes.alter l f).map Prod.fst = nodes.map Prod.fst := by
  rw [alter, List.map_map]
  apply List.map_congr_left
  intro entry _
  simp only [Function.comp_apply]
  split <;> rfl

theorem lookup_alter (f : Node → Node) :
    (nodes.alter l f).lookup m = if m = l then (nodes.lookup m).map f else nodes.lookup m := by
  induction nodes with
  | nil => simp [alter]
  | cons entry nodes ih =>
    have key : (if entry.1 = l then (entry.1, f entry.2) else entry).1 = entry.1 := by
      split <;> rfl
    rw [alter, List.map_cons, ← alter, lookup_entry, lookup_entry, key, ih]
    by_cases here : m = entry.1
    · by_cases same : entry.1 = l <;> simp [here, same]
    · simp only [if_neg here]

theorem alter_alter (f g : Node → Node) : (nodes.alter l f).alter l g = nodes.alter l (g ∘ f) := by
  rw [alter, alter, alter, List.map_map]
  apply List.map_congr_left
  intro entry _
  simp only [Function.comp_apply]
  split <;> rfl

theorem lookup_erase : (nodes.erase l).lookup m = if m = l then none else nodes.lookup m := by
  induction nodes with
  | nil => simp [erase]
  | cons entry nodes ih =>
    rw [erase, List.filter_cons, ← erase, lookup_entry]
    by_cases same : entry.1 = l
    · rw [if_neg (by simpa using same), ih]
      split
      · rfl
      · rename_i other
        rw [if_neg (fun h => other (h.trans same))]
    · rw [if_pos (by simpa using same), lookup_entry, ih]
      by_cases here : m = entry.1 <;> simp_all

theorem lookup_concat (n : Node) :
    List.lookup m (nodes ++ [(l, n)]) =
      (nodes.lookup m).or (if m = l then some n else none) := by
  rw [List.lookup_append, lookup_entry, List.lookup_nil]

theorem isDirectory_alter {f : Node → Node} (kept : ∀ n, (f n).isDirectory = n.isDirectory) :
    (nodes.alter l f).isDirectory m = nodes.isDirectory m := by
  rw [isDirectory, isDirectory, lookup_alter]
  split
  · cases nodes.lookup m with
    | none => rfl
    | some n => exact kept n
  · rfl

theorem isDirectory_erase (file : nodes.isDirectory l = false) :
    (nodes.erase l).isDirectory m = nodes.isDirectory m := by
  rw [isDirectory, lookup_erase]
  split
  · rename_i same
    rw [same, file]
    rfl
  · rfl

theorem isDirectory_concat (n : Node) (h : nodes.isDirectory m = true) :
    isDirectory (nodes ++ [(l, n)]) m = true := by
  rw [isDirectory] at h ⊢
  rw [lookup_concat]
  cases found : nodes.lookup m with
  | none =>
    rw [found] at h
    cases h
  | some n =>
    rw [found] at h
    exact h

end Nodes

@[ext]
structure Tree where
  nodes : Nodes
  unique : (nodes.map Prod.fst).Nodup
  housed : ∀ entry ∈ nodes, nodes.isDirectory entry.1.dropLast = true

namespace Tree

def root : Tree where
  nodes := [([], .directory {})]
  unique := List.nodup_cons.mpr ⟨List.not_mem_nil, List.nodup_nil⟩
  housed := fun _ listed => by
    rw [List.mem_singleton.mp listed]
    rfl

def node? (t : Tree) (l : Location) : Option Node := t.nodes.lookup l

def isDirectory (t : Tree) (l : Location) : Bool := t.nodes.isDirectory l

def alter (t : Tree) (l : Location) (f : Node → Node)
    (kept : ∀ n, (f n).isDirectory = n.isDirectory) : Tree where
  nodes := t.nodes.alter l f
  unique := by
    rw [Nodes.fst_alter]
    exact t.unique
  housed := by
    intro entry listed
    obtain ⟨old, there, rfl⟩ := List.mem_map.mp listed
    rw [Nodes.isDirectory_alter kept]
    have housed := t.housed old there
    split <;> exact housed

structure Vacant (t : Tree) (l : Location) : Prop where
  free : t.node? l = none
  parent : t.isDirectory l.dropLast = true

instance (t : Tree) (l : Location) : Decidable (t.Vacant l) :=
  decidable_of_iff (t.node? l = none ∧ t.isDirectory l.dropLast = true)
    ⟨fun ⟨free, parent⟩ => ⟨free, parent⟩, fun ⟨free, parent⟩ => ⟨free, parent⟩⟩

def add (t : Tree) (l : Location) (n : Node) (vacant : t.Vacant l) : Tree where
  nodes := t.nodes ++ [(l, n)]
  unique := by
    rw [List.map_append, List.map_singleton, List.nodup_append]
    refine ⟨t.unique, List.nodup_cons.mpr ⟨List.not_mem_nil, List.nodup_nil⟩, ?_⟩
    intro m listed _ new same
    rw [same, List.mem_singleton.mp new] at listed
    exact Nodes.lookup_eq_none.mp vacant.free listed
  housed := by
    intro entry listed
    apply Nodes.isDirectory_concat
    rcases List.mem_append.mp listed with old | new
    · exact t.housed entry old
    · rw [List.mem_singleton.mp new]
      exact vacant.parent

/-- Takes away what is no directory, so that nothing stands in it. -/
def erase (t : Tree) (l : Location) (file : t.isDirectory l = false) : Tree where
  nodes := t.nodes.erase l
  unique := t.unique.sublist (List.filter_sublist.map Prod.fst)
  housed := by
    intro entry listed
    rw [Nodes.isDirectory_erase file]
    exact t.housed entry ((List.mem_filter.mp listed).1)

end Tree

end RecorderStubs
