import RecorderStubs.Proofs.Regions
import RecorderStubs.Source.Method

/-! The inert regions of a text cover what holds no code. They stand in order, so that one of them
is found by halves; and outside of them nothing is left that opens a comment or a string. -/
namespace RecorderStubs

theorem inertFrom_ordered (offset skip : Nat) (afterWord : Bool) (t : Text) :
    (inertFrom offset skip afterWord t).Pairwise (fun r s => r.stop ≤ s.start) := by
  induction t generalizing offset skip afterWord with
  | nil => exact .nil
  | cons c t ih =>
    cases skip with
    | succ skip => exact ih (offset + 1) skip (isWord c)
    | zero =>
      cases found : inertRest? afterWord (c :: t) with
      | none =>
        rw [inertFrom_none found]
        exact ih (offset + 1) 0 (isWord c)
      | some rest =>
        obtain ⟨r, nonempty, cut⟩ := inertRest?_split found
        have positive := List.length_pos_iff.mpr nonempty
        rw [inertFrom_some found cut]
        refine List.pairwise_cons.mpr ⟨fun s member => ?_, ih ..⟩
        have behind := (inertFrom_bounds member).1
        dsimp only
        omega

def inertAt (spans : List Span) (offset : Nat) : Bool := spans.any (fun s => s.contains offset)

/-- What is below the bounds starts up to the offset and what is above them does not, so the search
ends where the starts pass the offset. -/
theorem startsUpTo_spec {spans : Array Span} {offset low high : Nat} {inside : high ≤ spans.size}
    (rising : ∀ {i j : Nat} {r s : Span}, spans[i]? = some r → spans[j]? = some s → i < j →
      r.start ≤ s.start)
    (below : ∀ {i : Nat} {s : Span}, spans[i]? = some s → i < low → s.start ≤ offset)
    (above : ∀ {i : Nat} {s : Span}, spans[i]? = some s → high ≤ i → offset < s.start)
    (order : low ≤ high) :
    startsUpTo spans offset low high inside ≤ high ∧
      ∀ {i : Nat} {s : Span}, spans[i]? = some s →
        (s.start ≤ offset ↔ i < startsUpTo spans offset low high inside) := by
  fun_induction startsUpTo spans offset low high inside with
  | case1 low high inside proper middle early ih =>
    have place : middle = (low + high) / 2 := rfl
    have here : spans[middle]? = some spans[middle] := Array.getElem?_eq_getElem (by omega)
    have later : ∀ {i : Nat} {s : Span}, spans[i]? = some s → middle ≤ i → offset < s.start := by
      intro i s found far
      rcases Nat.lt_or_eq_of_le far with beyond | same
      · exact Nat.lt_of_lt_of_le early (rising here found beyond)
      · subst same
        rw [here] at found
        exact Option.some.inj found ▸ early
    obtain ⟨bound, rank⟩ := ih below later (by omega)
    exact ⟨by omega, rank⟩
  | case2 low high inside proper middle late ih =>
    have place : middle = (low + high) / 2 := rfl
    have here : spans[middle]? = some spans[middle] := Array.getElem?_eq_getElem (by omega)
    have earlier : ∀ {i : Nat} {s : Span}, spans[i]? = some s → i < middle + 1 →
        s.start ≤ offset := by
      intro i s found near
      rcases Nat.lt_or_eq_of_le (Nat.le_of_lt_succ near) with before | same
      · exact Nat.le_trans (rising found here before) (Nat.le_of_not_lt late)
      · subst same
        rw [here] at found
        exact Option.some.inj found ▸ Nat.le_of_not_lt late
    exact ih earlier above (by omega)
  | case3 low high inside empty =>
    refine ⟨order, fun found => ⟨fun starts => ?_, below found⟩⟩
    refine Nat.lt_of_not_le fun far => ?_
    exact absurd starts (Nat.not_le_of_lt (above found (by omega)))

theorem coveredAt_iff {spans : List Span} (ordered : spans.Pairwise (fun r s => r.stop ≤ s.start))
    (proper : ∀ s ∈ spans, s.start < s.stop) (offset : Nat) :
    coveredAt spans.toArray offset = true ↔ ∃ s ∈ spans, s.contains offset = true := by
  have apart : ∀ {i j : Nat} {r s : Span}, spans.toArray[i]? = some r →
      spans.toArray[j]? = some s → i < j → r.stop ≤ s.start := by
    intro i j r s hr hs less
    rw [List.getElem?_toArray] at hr hs
    obtain ⟨hi, rfl⟩ := List.getElem?_eq_some_iff.mp hr
    obtain ⟨hj, rfl⟩ := List.getElem?_eq_some_iff.mp hs
    exact List.pairwise_iff_getElem.mp ordered i j hi hj less
  have rising : ∀ {i j : Nat} {r s : Span}, spans.toArray[i]? = some r →
      spans.toArray[j]? = some s → i < j → r.start ≤ s.start := by
    intro i j r s hr hs less
    have member : r ∈ spans := List.mem_of_getElem? (by rwa [List.getElem?_toArray] at hr)
    exact Nat.le_trans (Nat.le_of_lt (proper r member)) (apart hr hs less)
  obtain ⟨bound, rank⟩ := @startsUpTo_spec spans.toArray offset 0 spans.toArray.size
    (Nat.le_refl _) rising (fun _ none => absurd none (Nat.not_lt_zero _))
    (fun found none => by
      rw [Array.getElem?_eq_none none] at found
      cases found)
    (Nat.zero_le _)
  unfold coveredAt
  generalize startsUpTo spans.toArray offset 0 spans.toArray.size _ = n at bound rank
  simp only [Span.contains, Bool.and_eq_true, decide_eq_true_eq]
  cases n with
  | zero =>
    refine ⟨fun none => absurd none Bool.false_ne_true, ?_⟩
    rintro ⟨s, member, starts, _⟩
    obtain ⟨i, found⟩ := List.getElem?_of_mem member
    exact absurd ((rank (by rwa [List.getElem?_toArray])).mp starts) (Nat.not_lt_zero i)
  | succ k =>
    have last : spans.toArray[k]? = some spans.toArray[k] := Array.getElem?_eq_getElem bound
    have starts := (rank last).mpr (Nat.lt_succ_self k)
    simp only [last, Option.any_some, decide_eq_true_eq]
    constructor
    · intro reaches
      exact ⟨_, by simp, starts, reaches⟩
    · rintro ⟨s, member, begun, reaches⟩
      obtain ⟨i, found⟩ := List.getElem?_of_mem member
      rw [← List.getElem?_toArray] at found
      rcases Nat.lt_or_eq_of_le (Nat.le_of_lt_succ ((rank found).mp begun)) with before | same
      · have := apart found last before
        omega
      · subst same
        rw [last] at found
        exact Option.some.inj found ▸ reaches

theorem coveredAt_inertSpans (t : Text) :
    coveredAt (inertSpans t).toArray = inertAt (inertSpans t) := by
  funext offset
  have ordered : (inertSpans t).Pairwise (fun r s => r.stop ≤ s.start) :=
    inertFrom_ordered 0 0 false t
  rw [Bool.eq_iff_iff, coveredAt_iff ordered (fun s member => (inertFrom_bounds member).2.1)]
  exact List.any_eq_true.symm

/-- Where declarations can start, said without the search. -/
theorem liveStarts_eq (t : Text) : liveStarts t =
    (keywordsFrom 0 0 false t).filterMap (liveStart? (inertAt (inertSpans t))) := by
  rw [liveStarts, coveredAt_inertSpans]

/-- A region `r` of `t`, with what stands before it and behind it. -/
structure RegionAt (t a r rest : Text) : Prop where
  split : t = a ++ (r ++ rest)
  reads : inertRest? (endsWord false a) (r ++ rest) = some rest

theorem mem_inertFrom {s : Span} {offset skip : Nat} {afterWord : Bool} {t : Text}
    (h : s ∈ inertFrom offset skip afterWord t) : ∃ a r rest, t = a ++ (r ++ rest) ∧
      s = ⟨offset + a.length, offset + a.length + r.length⟩ ∧
      inertRest? (endsWord afterWord a) (r ++ rest) = some rest := by
  induction t generalizing offset skip afterWord with
  | nil => cases h
  | cons c t ih =>
    have further : ∀ {skip}, s ∈ inertFrom (offset + 1) skip (isWord c) t →
        ∃ a r rest, c :: t = a ++ (r ++ rest) ∧
          s = ⟨offset + a.length, offset + a.length + r.length⟩ ∧
          inertRest? (endsWord afterWord a) (r ++ rest) = some rest := by
      intro skip member
      obtain ⟨a, r, rest, rfl, rfl, reads⟩ := ih member
      refine ⟨c :: a, r, rest, rfl, ?_, by rwa [endsWord_cons]⟩
      simp only [List.length_cons, Nat.add_assoc, Nat.add_comm 1]
    cases skip with
    | succ skip => exact further h
    | zero =>
      cases found : inertRest? afterWord (c :: t) with
      | none =>
        rw [inertFrom_none found] at h
        exact further h
      | some rest =>
        obtain ⟨r, _, cut⟩ := inertRest?_split found
        rw [inertFrom_some found cut] at h
        rcases List.mem_cons.mp h with rfl | h
        · exact ⟨[], r, rest, cut, rfl, cut ▸ found⟩
        · exact further h

theorem mem_inertSpans {s : Span} {t : Text} (h : s ∈ inertSpans t) :
    ∃ a r rest, RegionAt t a r rest ∧ s = ⟨a.length, a.length + r.length⟩ := by
  obtain ⟨a, r, rest, split, same, reads⟩ := mem_inertFrom h
  simp only [Nat.zero_add] at same
  exact ⟨a, r, rest, ⟨split, reads⟩, same⟩

theorem RegionAt.opener {t a r rest : Text} (h : RegionAt t a r rest) :
    ∃ opener go x, Opener (endsWord false a) opener go ∧ r = opener ++ x ∧
      go (x ++ rest) = some rest := by
  obtain ⟨opener, go, u, opens, same, found⟩ := inertRest?_eq_some.mp h.reads
  obtain ⟨x, rfl⟩ := opens.suffix found
  rw [← List.append_assoc] at same
  exact ⟨opener, go, x, opens, List.append_cancel_right same, found⟩

theorem inertRest?_clear {a u : Text}
    (clear : ∀ s ∈ inertSpans (a ++ u), s.contains a.length = false) :
    inertRest? (endsWord false a) u = none := by
  obtain ⟨spans, _, same⟩ := inertFrom_split (Nat.zero_add _) (Nat.zero_le _) clear
  cases found : inertRest? (endsWord false a) u with
  | none => rfl
  | some rest =>
    exfalso
    obtain ⟨r, nonempty, cut⟩ := inertRest?_split found
    have positive := List.length_pos_iff.mpr nonempty
    have here : ⟨a.length, a.length + r.length⟩ ∈ inertSpans (a ++ u) := by
      rw [inertSpans, same]
      refine List.mem_append_right _ ?_
      cases u with
      | nil => exact absurd (List.append_eq_nil_iff.mp cut.symm).1 nonempty
      | cons c u =>
        rw [inertFrom_some found cut]
        exact List.mem_cons_self ..
    have outside := clear _ here
    simp only [Span.contains, Bool.and_eq_false_iff, decide_eq_false_iff_not] at outside
    omega

theorem inertRest?_nil (afterWord : Bool) : inertRest? afterWord [] = none := by
  cases afterWord with
  | false => rfl
  | true => rfl

def firmOpenings : List Text := [['"'], ['/', '/'], ['/', '*']]

theorem inertRest?_firm {mark : Text} (firm : mark ∈ firmOpenings) (afterWord : Bool) (u : Text) :
    inertRest? afterWord (mark ++ u) ≠ none := by
  simp only [firmOpenings, List.mem_cons, List.not_mem_nil, or_false] at firm
  rcases firm with rfl | rfl | rfl <;> exact Option.some_ne_none _

/-- The span goes on up to a newline, or up to the end. -/
def EndsLine (t : Text) (s : Span) : Prop :=
  '\n' ∉ s.cut t ∧ (t[s.stop]? = some '\n' ∨ s.stop = t.length)

/-- A mark that opens or closes a block comment, and the offset behind it. -/
structure BlockMark where
  opens : Bool
  stop : Nat
deriving DecidableEq, Repr

/-- The marks of block comments from left to right, none of them over another. -/
def blockMarks (offset : Nat) : Text → List BlockMark
  | [] => []
  | '/' :: '*' :: t => ⟨true, offset + 2⟩ :: blockMarks (offset + 2) t
  | '*' :: '/' :: t => ⟨false, offset + 2⟩ :: blockMarks (offset + 2) t
  | _ :: t => blockMarks (offset + 1) t

def BlockMark.step (m : BlockMark) : Int := if m.opens then 1 else -1

@[simp] theorem BlockMark.step_opening (stop : Nat) : BlockMark.step ⟨true, stop⟩ = 1 := rfl

@[simp] theorem BlockMark.step_closing (stop : Nat) : BlockMark.step ⟨false, stop⟩ = -1 := rfl

/-- The count of open comments, `depth` before the marks, gets back to zero at a mark that stops at
the given offset, and not before; or it never does. -/
inductive Balances : Int → List BlockMark → Option Nat → Prop where
  | never {depth : Int} : Balances depth [] none
  | here {depth : Int} {m : BlockMark} {marks : List BlockMark} :
      depth + m.step = 0 → Balances depth (m :: marks) (some m.stop)
  | later {depth : Int} {m : BlockMark} {marks : List BlockMark} {stop : Option Nat} :
      depth + m.step ≠ 0 → Balances (depth + m.step) marks stop → Balances depth (m :: marks) stop

/-- Either the count first gets back to zero at `stop`, or it never does and `stop` is the end. -/
def BalancesUpTo (depth : Int) (marks : List BlockMark) (stop length : Nat) : Prop :=
  Balances depth marks (some stop) ∨ Balances depth marks none ∧ stop = length

/-- The span ends where the marks from its start on balance for the first time. If they never do, it
goes on up to the end. -/
def EndsBlock (t : Text) (s : Span) : Prop :=
  BalancesUpTo 0 (blockMarks s.start (t.drop s.start)) s.stop t.length

/-- What opens a raw string: `r` or `br`, hashes and a quote. -/
def RawOpening (hashes : Nat) (opening : Text) : Prop :=
  ∃ byte, (byte = [] ∨ byte = ['b']) ∧
    opening = byte ++ 'r' :: List.replicate hashes '#' ++ ['"']

/-- The span ends behind the first quote from `body` on that has as many hashes. If there is none,
it goes on up to the end. -/
def EndsRaw (hashes : Nat) (t : Text) (body : Nat) (s : Span) : Prop :=
  (∃ k, body ≤ k ∧ rawClosing hashes <+: t.drop k ∧
    (∀ j, body ≤ j → j < k → ¬ rawClosing hashes <+: t.drop j) ∧ s.stop = k + (hashes + 1)) ∨
  (s.stop = t.length ∧ ∀ k, body ≤ k → ¬ rawClosing hashes <+: t.drop k)

theorem cut_middle (a r rest : Text) :
    Span.cut ⟨a.length, a.length + r.length⟩ (a ++ (r ++ rest)) = r := by
  rw [Span.cut, ← List.append_assoc, ← List.length_append, List.take_left, List.drop_left]

theorem Span.split {start stop : Nat} (h : start ≤ stop) (t : Text) :
    t = t.take start ++ (Span.cut ⟨start, stop⟩ t ++ t.drop stop) := by
  have front : (t.take stop).take start ++ Span.cut ⟨start, stop⟩ t = t.take stop :=
    List.take_append_drop ..
  rw [List.take_take, Nat.min_eq_left h] at front
  rw [← List.append_assoc, front, List.take_append_drop]

theorem RegionAt.drop_start {t a r rest : Text} (h : RegionAt t a r rest) :
    t.drop a.length = r ++ rest := by
  rw [h.split, List.drop_left]

theorem RegionAt.drop_stop {t a r rest : Text} (h : RegionAt t a r rest) :
    t.drop (a.length + r.length) = rest := by
  rw [h.split, ← List.append_assoc, ← List.length_append, List.drop_left]

theorem RegionAt.stop_of_nil {t a r : Text} (h : RegionAt t a r []) :
    a.length + r.length = t.length := by
  rw [h.split, List.append_nil, List.length_append]

theorem RegionAt.endsLine {t a r rest : Text} (h : RegionAt t a r rest)
    (mark : ['/', '/'] <+: r ++ rest) : EndsLine t ⟨a.length, a.length + r.length⟩ := by
  obtain ⟨u, same⟩ := mark
  have reads := h.reads
  rw [← same] at reads
  have behind : u.dropWhile (· != '\n') = rest := Option.some.inj reads
  have whole : r ++ rest = (['/', '/'] ++ u.takeWhile (· != '\n')) ++ rest := by
    rw [← same, List.append_assoc, ← behind, List.takeWhile_append_dropWhile]
  have line := List.append_cancel_right whole
  constructor
  · have free : '\n' ∉ u.takeWhile (· != '\n') := fun member => by
      simpa using allOf_takeWhile (· != '\n') u '\n' member
    rw [h.split, cut_middle, line]
    simpa using free
  · cases rest with
    | nil => exact .inr h.stop_of_nil
    | cons c rest =>
      have stop := stops_dropWhile (· != '\n') u
      rw [behind, stops_cons] at stop
      have here : t[a.length + r.length]? = some c := by
        rw [← List.head?_drop, h.drop_stop]
        rfl
      left
      simpa [here] using stop

theorem BalancesUpTo.later {depth : Int} {m : BlockMark} {marks : List BlockMark}
    {stop length : Nat} (open' : depth + m.step ≠ 0)
    (h : BalancesUpTo (depth + m.step) marks stop length) :
    BalancesUpTo depth (m :: marks) stop length := by
  rcases h with balances | ⟨never, last⟩
  · exact .inl (.later open' balances)
  · exact .inr ⟨.later open' never, last⟩

theorem blockCommentRest_balances {depth : Nat} (inside : 1 ≤ depth) (offset : Nat) (t : Text)
    {stop : Nat} (place : stop + (blockCommentRest depth t).length = offset + t.length) :
    BalancesUpTo depth (blockMarks offset t) stop (offset + t.length) := by
  fun_induction blockCommentRest depth t generalizing offset with
  | case1 depth => exact .inr ⟨.never, place⟩
  | case2 depth t ih =>
    have size : offset + ('/' :: '*' :: t).length = offset + 2 + t.length := by
      simp only [List.length_cons]
      omega
    have next := ih (by omega) (offset + 2) (by omega)
    rw [size]
    refine .later ?_ next
    rw [BlockMark.step_opening]
    omega
  | case3 depth t shallow =>
    have last : stop = offset + 2 := by
      simp only [List.length_cons] at place
      omega
    subst last
    refine .inl (.here ?_)
    rw [BlockMark.step_closing]
    omega
  | case4 depth t deep ih =>
    have size : offset + ('*' :: '/' :: t).length = offset + 2 + t.length := by
      simp only [List.length_cons]
      omega
    have next := ih (by omega) (offset + 2) (by omega)
    have shallower : ((depth - 1 : Nat) : Int) = depth + -1 := by omega
    rw [shallower] at next
    rw [size]
    refine .later ?_ next
    rw [BlockMark.step_closing]
    omega
  | case5 depth c t opens closes ih =>
    have plain : blockMarks offset (c :: t) = blockMarks (offset + 1) t :=
      blockMarks.eq_4 offset c t opens closes
    have size : offset + (c :: t).length = offset + 1 + t.length := by
      simp only [List.length_cons]
      omega
    rw [plain, size]
    exact ih inside (offset + 1) (by omega)

theorem RegionAt.endsBlock {t a r rest : Text} (h : RegionAt t a r rest)
    (mark : ['/', '*'] <+: r ++ rest) : EndsBlock t ⟨a.length, a.length + r.length⟩ := by
  obtain ⟨u, same⟩ := mark
  have reads := h.reads
  rw [← same] at reads
  have behind : blockCommentRest 1 u = rest := Option.some.inj reads
  have size := congrArg List.length same
  simp only [List.length_append, List.length_cons, List.length_nil] at size
  have whole : a.length + 2 + u.length = t.length := by
    rw [h.split, List.length_append, List.length_append]
    omega
  have marks : blockMarks a.length (t.drop a.length) =
      ⟨true, a.length + 2⟩ :: blockMarks (a.length + 2) u := by
    rw [h.drop_start, ← same]
    rfl
  have inner : BalancesUpTo 1 (blockMarks (a.length + 2) u) (a.length + r.length)
      (a.length + 2 + u.length) :=
    blockCommentRest_balances (Nat.le_refl 1) (a.length + 2) u (by rw [behind]; omega)
  rw [EndsBlock, marks, ← whole]
  exact .later Int.one_ne_zero inner

theorem not_closing_nil (hashes k : Nat) : ¬ rawClosing hashes <+: ([] : Text).drop k := by
  simp [rawClosing]

/-- The rest of a raw string begins behind the first closing mark, unless there is none. -/
theorem rawStringRest_first (hashes : Nat) (u : Text) :
    (∃ v, u = v ++ (rawClosing hashes ++ rawStringRest hashes u) ∧
      ∀ k < v.length, ¬ rawClosing hashes <+: u.drop k) ∨
    (rawStringRest hashes u = [] ∧ ∀ k, ¬ rawClosing hashes <+: u.drop k) := by
  induction u with
  | nil => exact .inr ⟨rfl, not_closing_nil hashes⟩
  | cons c u ih =>
    rw [rawStringRest_cons]
    cases found : literal? (rawClosing hashes) (c :: u) with
    | some rest =>
      have split := literal?_eq_some.mp found
      exact .inl ⟨[], split, fun k low => absurd low (Nat.not_lt_zero k)⟩
    | none =>
      have head : ¬ rawClosing hashes <+: c :: u := by
        rintro ⟨rest, same⟩
        rw [literal?_eq_some.mpr same.symm] at found
        cases found
      rw [Option.getD_none]
      rcases ih with ⟨v, split, first⟩ | ⟨none, never⟩
      · refine .inl ⟨c :: v, by rw [List.cons_append, ← split], fun k low => ?_⟩
        cases k with
        | zero => exact head
        | succ k => exact first k (Nat.lt_of_succ_lt_succ low)
      · refine .inr ⟨none, fun k => ?_⟩
        cases k with
        | zero => exact head
        | succ k => exact never k

theorem Opener.of_raw {afterWord : Bool} {opener opening u x : Text} {go : Text → Option Text}
    {hashes : Nat} (h : Opener afterWord opener go) (raw : RawOpening hashes opening)
    (same : opening ++ u = opener ++ x) : go x = some (rawStringRest hashes u) := by
  obtain ⟨byte, kind, rfl⟩ := raw
  have read : rawOpening? (byte ++ 'r' :: List.replicate hashes '#' ++ ['"'] ++ u) =
      some (hashes, u) := rawOpening?_eq_some.mpr ⟨byte, kind, rfl⟩
  cases h with
  | raw hashes' kind' =>
    rw [same, rawOpening?_eq_some.mpr ⟨_, kind', rfl⟩] at read
    cases read
    rfl
  | _ => rcases kind with rfl | rfl <;> simp at same

theorem RegionAt.endsRaw {t a r rest : Text} (h : RegionAt t a r rest) {hashes : Nat}
    {opening : Text} (raw : RawOpening hashes opening) (mark : opening <+: r ++ rest) :
    EndsRaw hashes t (a.length + opening.length) ⟨a.length, a.length + r.length⟩ := by
  obtain ⟨u, same⟩ := mark
  obtain ⟨opener, go, x, opens, rfl, found⟩ := h.opener
  rw [opens.of_raw raw (same.trans (List.append_assoc ..))] at found
  have rest' : rawStringRest hashes u = rest := Option.some.inj found
  have whole : t = (a ++ opening) ++ u := by
    rw [h.split, ← same, List.append_assoc]
  have behind : ∀ j, t.drop (a.length + opening.length + j) = u.drop j := fun j => by
    rw [whole, ← List.length_append, ← List.drop_drop, List.drop_left]
  have sizes := congrArg List.length same
  rcases rawStringRest_first hashes u with ⟨v, split, first⟩ | ⟨none, never⟩
  · left
    refine ⟨a.length + opening.length + v.length, Nat.le_add_right .., ?_, fun j low high => ?_, ?_⟩
    · rw [behind, split, List.drop_left]
      exact List.prefix_append ..
    · obtain ⟨i, rfl⟩ := Nat.exists_eq_add_of_le low
      rw [behind]
      exact first i (by omega)
    · have length := congrArg List.length split
      simp only [List.length_append, rawClosing, List.length_cons, List.length_replicate, rest']
        at sizes length ⊢
      omega
  · right
    obtain rfl : [] = rest := none.symm.trans rest'
    refine ⟨h.stop_of_nil, fun k low => ?_⟩
    obtain ⟨i, rfl⟩ := Nat.exists_eq_add_of_le low
    rw [behind]
    exact never i

/-- What the spans of the comments and literals of a text are. -/
structure Cover (t : Text) (spans : List Span) : Prop where
  proper : ∀ s ∈ spans, s.start < s.stop ∧ s.stop ≤ t.length
  ordered : spans.Pairwise (fun r s => r.stop ≤ s.start)
  complete : ∀ i, (∀ s ∈ spans, s.contains i = false) → ∀ mark ∈ firmOpenings,
    ¬ mark <+: t.drop i
  opened : ∀ s ∈ spans, ∃ opener go x, Opener (endsWord false (t.take s.start)) opener go ∧
    t.drop s.start = opener ++ x ∧ go x = some (t.drop s.stop)
  line : ∀ s ∈ spans, ['/', '/'] <+: t.drop s.start → EndsLine t s
  block : ∀ s ∈ spans, ['/', '*'] <+: t.drop s.start → EndsBlock t s
  raw : ∀ s ∈ spans, ∀ hashes opening, RawOpening hashes opening → opening <+: t.drop s.start →
    EndsRaw hashes t (s.start + opening.length) s

/-- The inert regions of every text stand in order, miss nothing that opens a comment or a string,
and end where their kind ends. The search by halves tells whether one of them holds an offset. -/
theorem regions_cover (t : Text) : Cover t (inertSpans t) ∧
    ∀ offset, coveredAt (inertSpans t).toArray offset = true ↔
      ∃ s ∈ inertSpans t, s.start ≤ offset ∧ offset < s.stop := by
  refine ⟨⟨?_, ?_, ?_, ?_, ?_, ?_, ?_⟩, fun offset => ?_⟩
  · intro s member
    obtain ⟨_, proper, inside⟩ := inertFrom_bounds member
    exact ⟨proper, by rwa [Nat.zero_add] at inside⟩
  · exact inertFrom_ordered 0 0 false t
  · rintro i clear mark firm ⟨u, same⟩
    have opens := inertRest?_firm firm (endsWord false (t.take i)) u
    rw [same] at opens
    refine opens (inertRest?_clear ?_)
    rw [List.take_append_drop, List.length_take, Nat.min_eq_left]
    · exact clear
    · refine Nat.le_of_lt (Nat.lt_of_not_le fun beyond => ?_)
      rw [List.drop_eq_nil_of_le beyond] at opens
      exact opens (inertRest?_nil _)
  · intro s member
    obtain ⟨a, r, rest, region, rfl⟩ := mem_inertSpans member
    obtain ⟨opener, go, x, opens, rfl, found⟩ := region.opener
    refine ⟨opener, go, x ++ rest, ?_, ?_, ?_⟩
    · rwa [region.split, List.take_left]
    · rw [region.drop_start, List.append_assoc]
    · rwa [region.drop_stop]
  · intro s member mark
    obtain ⟨a, r, rest, region, rfl⟩ := mem_inertSpans member
    exact region.endsLine (region.drop_start ▸ mark)
  · intro s member mark
    obtain ⟨a, r, rest, region, rfl⟩ := mem_inertSpans member
    exact region.endsBlock (region.drop_start ▸ mark)
  · intro s member hashes opening raw mark
    obtain ⟨a, r, rest, region, rfl⟩ := mem_inertSpans member
    exact region.endsRaw raw (region.drop_start ▸ mark)
  · rw [coveredAt_inertSpans, inertAt, List.any_eq_true]
    simp only [Span.contains, Bool.and_eq_true, decide_eq_true_eq]

end RecorderStubs
