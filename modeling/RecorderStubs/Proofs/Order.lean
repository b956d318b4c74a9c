import Mathlib.Algebra.Ring.Int.Defs
import Mathlib.Data.List.Forall2
import RecorderStubs.Proofs.Run
import RecorderStubs.Proofs.Substitution

/-! Stubs converted in any order. Every conversion moves the stubs behind it, so a stub that is run
later has to be looked for where the conversions before it have moved it. Found there, it is still
the same stub; all orders leave the same primary text, and in the enum the variants stand in the
order of the runs. -/
namespace RecorderStubs

/-- By how much a text grows when a stub is converted. -/
def Method.growth (name : Identifier) (m : Method) : Int :=
  match m.stub? with
  | none => 0
  | some d => (callText name.text d.signature).length - d.placeholder.length

/-- Where a method stands once others have been converted: those before it have moved it. -/
def currentOffset (name : Identifier) (done : List Method) (m : Method) : Int :=
  m.offset + ((done.filter (fun n => n.offset < m.offset)).map (Method.growth name)).sum

/-- Runs methods in the given order, each where it then stands. -/
def Session.runEach (s : Session) (done : List Method) : List Method → List Report × Session
  | [] => ([], s)
  | m :: ms =>
    let (r, s) := s.run (currentOffset s.settings.macroName done m)
    let (rs, s) := s.runEach (m :: done) ms
    (r :: rs, s)

theorem currentOffset_nil (name : Identifier) (m : Method) : currentOffset name [] m = m.offset := by
  simp [currentOffset]

theorem currentOffset_behind {name : Identifier} {done : List Method} {m n : Method}
    (h : m.offset < n.offset) :
    currentOffset name (m :: done) n = currentOffset name done n + m.growth name := by
  have counted : (m :: done).filter (fun e => e.offset < n.offset) =
      m :: done.filter (fun e => e.offset < n.offset) := by simp [h]
  rw [currentOffset, currentOffset, counted, List.map_cons, List.sum_cons]
  omega

theorem currentOffset_before {name : Identifier} {done : List Method} {m n : Method}
    (h : n.offset < m.offset) : currentOffset name (m :: done) n = currentOffset name done n := by
  have ignored : (m :: done).filter (fun e => e.offset < n.offset) =
      done.filter (fun e => e.offset < n.offset) := by simp [Nat.le_of_lt h]
  rw [currentOffset, currentOffset, ignored]

theorem Method.growth_placed (name : Identifier) (t : Text) (d : Nat) (m : Method) :
    (Method.placed t d m).growth name = m.growth name := by
  unfold Method.growth Method.placed
  cases m.stub? with
  | none => rfl
  | some x => simp only [Option.map_some, Declaration.shift, Span.shift, Span.length,
      Nat.add_sub_add_left]

/-- A stub with those before it and those behind it, and what is left when it is converted. -/
structure AmongStubs (name : Identifier) (t : Text) (earlier : List Method) (m : Method)
    (later : List Method) (d : Declaration) (x placeholder z : Text) : Prop where
  stubAt : StubAt t m.offset d x placeholder z
  stub : m.stub? = some d
  named : m.name = d.signature.name
  valid : d.signature.Valid
  all : stubs t = earlier ++ m :: later
  behind : later = (stubs z).map (Method.placed t (x.length + placeholder.length))
  left : stubs (x ++ (callText name.text d.signature ++ z)) =
    earlier ++ (stubs z).map (Method.placed (x ++ (callText name.text d.signature ++ z))
      (x.length + (callText name.text d.signature).length))

theorem exists_amongStubs (name : Identifier) {t : Text} {earlier later : List Method} {m : Method}
    (all : stubs t = earlier ++ m :: later) :
    ∃ d x placeholder z, AmongStubs name t earlier m later d x placeholder z := by
  obtain ⟨listed, d, stub, parsed⟩ := parse_of_mem_stubs (t := t) (m := m) (by simp [all])
  obtain ⟨a, before, placeholder, z, site, rfl, shape, rfl⟩ := exists_site listed stub
  obtain ⟨behind, left⟩ := site.other_stubs name rfl all
  exact ⟨d, a ++ before, placeholder, z, ⟨rfl, parsed, by rw [shape]⟩, rfl, rfl,
    (site.stub z).valid, all, behind, left⟩

section
variable {name : Identifier} {t : Text} {earlier later : List Method} {m : Method}
  {d : Declaration} {x placeholder z : Text}

theorem AmongStubs.growth (h : AmongStubs name t earlier m later d x placeholder z) :
    m.growth name = (callText name.text d.signature).length - (placeholder.length : Int) := by
  simp only [Method.growth, h.stub, h.stubAt.span, Span.length, Nat.add_sub_cancel_left]

theorem AmongStubs.substitute (h : AmongStubs name t earlier m later d x placeholder z) :
    substitute (conversions name (stubs (x ++ (callText name.text d.signature ++ z))))
      (x ++ (callText name.text d.signature ++ z)) = substitute (conversions name (stubs t)) t := by
  have own : m.conversion? name = some (d.placeholder, callText name.text d.signature) := by
    rw [Method.conversion?, h.stub]
    rfl
  have old : conversions name (stubs t) = conversions name earlier ++
      ((⟨0, placeholder.length⟩, callText name.text d.signature) ::
        (conversions name (stubs z)).map (shiftEdit placeholder.length)).map
          (shiftEdit x.length) := by
    have rest : conversions name later = (conversions name (stubs z)).map
        (shiftEdit (x.length + placeholder.length)) := by
      rw [h.behind, conversions_placed]
    rw [List.map_cons, shiftEdit_shiftEdit, ← rest, h.all, conversions, List.filterMap_append,
      List.filterMap_cons_some own, h.stubAt.span]
    rfl
  have new : conversions name (stubs (x ++ (callText name.text d.signature ++ z))) =
      conversions name earlier ++ ((conversions name (stubs z)).map
        (shiftEdit (callText name.text d.signature).length)).map (shiftEdit x.length) := by
    rw [h.left, shiftEdit_shiftEdit, ← conversions_placed name
      (x ++ (callText name.text d.signature ++ z)), conversions, List.filterMap_append]
    rfl
  have apart : Apart x.length (conversions name earlier) := by
    obtain ⟨inside, order⟩ := conversions_apart name t
    rw [old] at inside order
    obtain ⟨order, _, before⟩ := List.pairwise_append.mp order
    refine ⟨fun e member => ⟨(inside e (List.mem_append_left _ member)).1, ?_⟩, order⟩
    exact before e member _ (List.mem_cons_self ..)
  have here := substitute_cons [] placeholder (callText name.text d.signature) z
    (conversions name (stubs z))
  simp only [List.length_nil, Nat.zero_add, List.nil_append] at here
  -- Both sides make the earlier edits, put the call, and go on with the rest.
  rw [new, substitute_split apart, substitute_append, old, h.stubAt.text, substitute_split apart,
    here]

end

/-- `m'` is the method `m` as it stands once those of `done` have been converted. -/
structure Tracked (name : Identifier) (done : List Method) (m m' : Method) : Prop where
  place : (m'.offset : Int) = currentOffset name done m
  named : m'.name = m.name
  signature : m'.stub?.map Declaration.signature = m.stub?.map Declaration.signature
  growth : m'.growth name = m.growth name

theorem Tracked.self (name : Identifier) (m : Method) : Tracked name [] m m :=
  ⟨(currentOffset_nil name m).symm, rfl, rfl, rfl⟩

theorem Tracked.before {name : Identifier} {done : List Method} {m n n' : Method}
    (h : Tracked name done n n') (before : n.offset < m.offset) :
    Tracked name (m :: done) n n' :=
  ⟨h.place.trans (currentOffset_before before).symm, h.named, h.signature, h.growth⟩

theorem Tracked.behind {name : Identifier} {done : List Method} {m n e : Method} {t : Text}
    {start old new : Nat} (h : Tracked name done n (Method.placed t (start + old) e))
    (behind : m.offset < n.offset) (growth : m.growth name = new - (old : Int)) (t' : Text) :
    Tracked name (m :: done) n (Method.placed t' (start + new) e) := by
  refine ⟨?_, h.named, ?_, ?_⟩
  · have place := h.place
    rw [currentOffset_behind behind, growth, ← place]
    simp only [Method.placed]
    omega
  · rw [← h.signature]
    simp only [Method.placed, Option.map_map]
    rfl
  · rw [← h.growth, Method.growth_placed, Method.growth_placed]

theorem forall₂_split {R : Method → Method → Prop} {p₁ p₂ l : List Method} {m : Method}
    (h : List.Forall₂ R (p₁ ++ m :: p₂) l) : ∃ q₁ m' q₂, l = q₁ ++ m' :: q₂ ∧
      List.Forall₂ R p₁ q₁ ∧ R m m' ∧ List.Forall₂ R p₂ q₂ := by
  induction p₁ generalizing l with
  | nil =>
    obtain ⟨m', q₂, related, rest, rfl⟩ := List.forall₂_cons_left_iff.mp h
    exact ⟨[], m', q₂, rfl, .nil, related, rest⟩
  | cons n p₁ ih =>
    obtain ⟨n', l, first, rest, rfl⟩ := List.forall₂_cons_left_iff.mp h
    obtain ⟨q₁, m', q₂, rfl, before, related, behind⟩ := ih rest
    exact ⟨n' :: q₁, m', q₂, rfl, .cons first before, related, behind⟩

/-- When one of the waiting stubs is converted, the others are still where they are looked for. -/
theorem AmongStubs.tracked {name : Identifier} {t : Text} {p₁ p₂ q₁ q₂ done : List Method}
    {m m' : Method} {d : Declaration} {x placeholder z : Text}
    (h : AmongStubs name t q₁ m' q₂ d x placeholder z) (own : Tracked name done m m')
    (sorted : (p₁ ++ m :: p₂).Pairwise (fun m n => m.offset < n.offset))
    (before : List.Forall₂ (Tracked name done) p₁ q₁)
    (behind : List.Forall₂ (Tracked name done) p₂ q₂) :
    List.Forall₂ (Tracked name (m :: done)) (p₁ ++ p₂)
      (stubs (x ++ (callText name.text d.signature ++ z))) := by
  obtain ⟨_, later, earlier⟩ := List.pairwise_append.mp sorted
  have lower : ∀ n ∈ p₁, n.offset < m.offset := fun n member =>
    earlier n member m (List.mem_cons_self ..)
  have higher : ∀ n ∈ p₂, m.offset < n.offset := (List.pairwise_cons.mp later).1
  have growth : m.growth name =
      (callText name.text d.signature).length - (placeholder.length : Int) := by
    rw [← own.growth, h.growth]
  rw [h.behind, List.forall₂_map_right_iff] at behind
  rw [h.left]
  apply List.rel_append
  · refine ((List.forall₂_and_left p₁ q₁).mpr ⟨lower, before⟩).imp ?_
    intro n n' ⟨low, tracked⟩
    exact tracked.before low
  · rw [List.forall₂_map_right_iff]
    refine ((List.forall₂_and_left p₂ (stubs z)).mpr ⟨higher, behind⟩).imp ?_
    intro n e ⟨high, tracked⟩
    exact tracked.behind high growth _

/-- What the runs of methods in a given order leave. -/
structure Ordered (s : Session) (buffer : Buffer) (offset : Nat) (ms : List Method)
    (rs : List Report) (s' : Session) : Prop where
  succeeded : ∀ r ∈ rs, r.succeeded = true
  names : rs.map Report.name = ms.map (fun m => some m.name)
  primary : s'.desk.primary =
    substitute (conversions s.settings.macroName (stubs s.desk.primary)) s.desk.primary
  companion : s'.desk.companion = .memory
    { buffer with
      text := withVariants buffer.text offset (signatures ms)
      saves := buffer.saves + ms.length } none

theorem runEach_ordered {s : Session} {buffer : Buffer} {offset : Nat}
    {done pending ms : List Method} (memory : s.desk.companion = .memory buffer none)
    (slot : enumSlot buffer.text s.settings.enumName.text = .ok offset)
    (tracked : List.Forall₂ (Tracked s.settings.macroName done) pending (stubs s.desk.primary))
    (sorted : pending.Pairwise (fun m n => m.offset < n.offset)) (order : ms.Perm pending) :
    Ordered s buffer offset ms (s.runEach done ms).1 (s.runEach done ms).2 := by
  induction ms generalizing s buffer offset done pending with
  | nil =>
    obtain rfl := List.nil_perm.mp order
    have empty := List.forall₂_nil_left_iff.mp tracked
    refine ⟨by simp [Session.runEach], rfl, ?_, memory⟩
    rw [empty]
    rfl
  | cons m ms ih =>
    obtain ⟨p₁, p₂, rfl⟩ := List.append_of_mem (order.subset (List.mem_cons_self ..))
    have rest : ms.Perm (p₁ ++ p₂) := (order.trans List.perm_middle).cons_inv
    obtain ⟨q₁, m', q₂, all, before, own, behind⟩ := forall₂_split tracked
    obtain ⟨d, x, placeholder, z, among⟩ := exists_amongStubs s.settings.macroName all
    have stub := among.stubAt
    rw [own.place] at stub
    obtain ⟨success, desk⟩ := run_located stub memory slot
    have ran := run_ran stub.parsed
    have signature : m.stub?.map Declaration.signature = some d.signature := by
      rw [← own.signature, among.stub]
      rfl
    -- What is left waits in the text that the run leaves, and the slot is behind the new variant.
    have waiting := among.tracked own sorted before behind
    have fewer := sorted.sublist (List.Sublist.append_left (List.sublist_cons_self m p₂) p₁)
    have moved := enumSlot_withVariants slot among.valid
    unfold Session.runEach
    generalize s.run (currentOffset s.settings.macroName done m) = out at ran success desk
    obtain ⟨succeeded, names, primary, companion⟩ := ih (s := out.2) (by rw [desk])
      (by rw [ran.settings]; exact moved) (by rw [ran.settings, desk]; exact waiting) fewer rest
    rw [desk] at primary
    refine ⟨List.forall_mem_cons.mpr ⟨?_, succeeded⟩, ?_, ?_, ?_⟩
    · rw [Report.succeeded_eq, success]
      rfl
    · rw [List.map_cons, List.map_cons, names, ran.name, ← own.named, among.named]
    · rw [primary, ran.settings]
      exact among.substitute
    · have first : signatures (m :: ms) = d.signature :: signatures ms :=
        List.filterMap_cons_some signature
      rw [companion, first, withVariants_cons slot, List.length_cons, Nat.add_assoc,
        Nat.add_comm 1]

/-- The order in which stubs are converted does not matter for the primary text: run in any order,
each where it then stands, all are converted. Their variants stand in the order of the runs. -/
theorem order_irrelevant (s : Session) {buffer : Buffer} {offset : Nat} {ms : List Method}
    (memory : s.desk.companion = .memory buffer none)
    (slot : enumSlot buffer.text s.settings.enumName.text = .ok offset)
    (order : ms.Perm (stubs s.desk.primary)) :
    Ordered s buffer offset ms (s.runEach [] ms).1 (s.runEach [] ms).2 := by
  apply runEach_ordered memory slot ?_ (stubs_pairwise s.desk.primary) order
  exact List.forall₂_same.mpr fun m _ => Tracked.self s.settings.macroName m

def twoStubsSession : Session :=
  ⟨{}, ⟨twoStubs, .memory { text := "pub enum Call \x7b\n    z \x7b  \x7d,\n\x7d\n".toList } none,
    .empty⟩, {}, []⟩

theorem order_irrelevant_reversed :
    (stubs twoStubs).reverse.map Method.offset = [55, 0] ∧
    enumSlot "pub enum Call \x7b\n    z \x7b  \x7d,\n\x7d\n".toList ['C', 'a', 'l', 'l'] = .ok 28 ∧
    Ordered twoStubsSession { text := "pub enum Call \x7b\n    z \x7b  \x7d,\n\x7d\n".toList } 28
      (stubs twoStubs).reverse (twoStubsSession.runEach [] (stubs twoStubs).reverse).1
      (twoStubsSession.runEach [] (stubs twoStubs).reverse).2 :=
  have slot : enumSlot "pub enum Call \x7b\n    z \x7b  \x7d,\n\x7d\n".toList
      ['C', 'a', 'l', 'l'] = .ok 28 := by decide +kernel
  ⟨by decide +kernel, slot, order_irrelevant twoStubsSession rfl slot (List.reverse_perm _)⟩

end RecorderStubs
