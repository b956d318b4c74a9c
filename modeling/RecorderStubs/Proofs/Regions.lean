import RecorderStubs.Proofs.Inert

/-! All inert regions of a text. Reading them goes on from an offset outside of every region as if
the text began there, apart from the character before it; and up to such an offset, if a header
stands there, it does not depend on what follows the header. -/
namespace RecorderStubs

def endsWord (afterWord : Bool) (t : Text) : Bool := (t.getLast?.map isWord).getD afterWord

@[simp] theorem endsWord_nil (afterWord : Bool) : endsWord afterWord [] = afterWord := rfl

@[simp] theorem endsWord_cons (afterWord : Bool) (c : Char) (t : Text) :
    endsWord afterWord (c :: t) = endsWord (isWord c) t := by
  unfold endsWord
  cases last : t.getLast? <;> simp [List.getLast?_cons, last]

theorem endsWord_concat (afterWord : Bool) (t : Text) (c : Char) :
    endsWord afterWord (t ++ [c]) = isWord c := by
  simp [endsWord]

theorem inertFrom_none {offset : Nat} {afterWord : Bool} {c : Char} {t : Text}
    (h : inertRest? afterWord (c :: t) = none) :
    inertFrom offset 0 afterWord (c :: t) = inertFrom (offset + 1) 0 (isWord c) t := by
  rw [inertFrom]
  simp only [h]

theorem inertFrom_some {offset : Nat} {afterWord : Bool} {c : Char} {t r rest : Text}
    (h : inertRest? afterWord (c :: t) = some rest) (cut : c :: t = r ++ rest) :
    inertFrom offset 0 afterWord (c :: t) =
      ⟨offset, offset + r.length⟩ :: inertFrom (offset + 1) (r.length - 1) (isWord c) t := by
  have size : offsetIn (c :: t) rest = r.length := by
    rw [cut, offsetIn, List.length_append]
    omega
  rw [inertFrom]
  simp only [h, size]

theorem inertRest?_split {afterWord : Bool} {t rest : Text}
    (h : inertRest? afterWord t = some rest) : ∃ r, r ≠ [] ∧ t = r ++ rest := by
  obtain ⟨opener, go, u, opens, rfl, found⟩ := inertRest?_eq_some.mp h
  obtain ⟨x, rfl⟩ := opens.suffix found
  refine ⟨opener ++ x, ?_, by simp⟩
  cases opens <;> simp

theorem inertFrom_bounds {offset skip : Nat} {afterWord : Bool} {t : Text} {s : Span}
    (h : s ∈ inertFrom offset skip afterWord t) :
    offset + skip ≤ s.start ∧ s.start < s.stop ∧ s.stop ≤ offset + t.length := by
  induction t generalizing offset skip afterWord with
  | nil => cases h
  | cons c t ih =>
    cases skip with
    | succ skip =>
      obtain ⟨low, proper, high⟩ := ih (show s ∈ inertFrom (offset + 1) skip (isWord c) t from h)
      rw [List.length_cons]
      omega
    | zero =>
      cases found : inertRest? afterWord (c :: t) with
      | none =>
        rw [inertFrom_none found] at h
        obtain ⟨low, proper, high⟩ := ih h
        rw [List.length_cons]
        omega
      | some rest =>
        obtain ⟨r, nonempty, cut⟩ := inertRest?_split found
        have lengths := congrArg List.length cut
        have positive := List.length_pos_iff.mpr nonempty
        rw [List.length_append] at lengths
        rw [inertFrom_some found cut] at h
        rcases List.mem_cons.mp h with rfl | h
        · dsimp only
          omega
        · obtain ⟨low, proper, high⟩ := ih h
          rw [List.length_cons]
          omega

def loudChars : List Char := ['/', '"', '\'', '#']

def isQuiet (c : Char) : Bool := !loudChars.contains c

theorem quiet_of_class {p : Char → Bool} (apart : (loudChars.any p) = false) {c : Char}
    (h : p c = true) : isQuiet c = true := by
  cases loud : isQuiet c with
  | true => rfl
  | false =>
    simp only [isQuiet, Bool.not_eq_false', List.contains_eq_mem, decide_eq_true_eq] at loud
    rw [List.any_eq_false] at apart
    exact absurd h (apart c loud)

theorem Opener.loud {afterWord : Bool} {opener : Text} {go : Text → Option Text}
    (h : Opener afterWord opener go) : ∃ c ∈ opener, isQuiet c = false := by
  cases h with
  | line => exact ⟨'/', by simp, by decide⟩
  | block => exact ⟨'/', by simp, by decide⟩
  | string => exact ⟨'"', by simp, by decide⟩
  | char => exact ⟨'\'', by simp, by decide⟩
  | raw => exact ⟨'"', by simp, by decide⟩
  | byteString => exact ⟨'"', by simp, by decide⟩
  | byteChar => exact ⟨'\'', by simp, by decide⟩

theorem Opener.inner {afterWord : Bool} {opener : Text} {go : Text → Option Text}
    (h : Opener afterWord opener go) :
    AllOf (fun c => isWord c || !isQuiet c) opener.dropLast := by
  cases h with
  | raw hashes kind =>
    rw [List.dropLast_concat]
    refine allOf_append.mpr ⟨?_, allOf_cons.mpr ⟨by decide, fun c member => ?_⟩⟩
    · rcases kind with rfl | rfl <;> decide
    · rw [(List.mem_replicate.mp member).2]
      decide
  | _ => decide

theorem inertRest?_quiet {afterWord : Bool} {h : Text} (quiet : AllOf isQuiet h)
    (ends : endsWord true h = false) (v : Text) : inertRest? afterWord (h ++ v) = none := by
  cases found : inertRest? afterWord (h ++ v) with
  | none => rfl
  | some rest =>
    exfalso
    obtain ⟨opener, go, u, opens, same, _⟩ := inertRest?_eq_some.mp found
    obtain ⟨c, member, loud⟩ := opens.loud
    rcases List.append_eq_append_iff.mp same with ⟨z, rfl, _⟩ | ⟨z, rfl, _⟩
    · -- The text ends inside the opener, so with a word character or a mark.
      rcases List.eq_nil_or_concat h with rfl | ⟨h, d, rfl⟩
      · cases ends
      · rw [List.concat_eq_append, endsWord_concat] at ends
        have calm := quiet d (by simp)
        cases z with
        | nil =>
          rw [List.append_nil] at member
          rw [quiet c member] at loud
          cases loud
        | cons e z =>
          have inside : d ∈ (h.concat d ++ e :: z).dropLast := by
            rw [List.dropLast_append_cons]
            simp
          have inner : (isWord d || !isQuiet d) = true := opens.inner d inside
          rw [ends, calm] at inner
          cases inner
    · rw [quiet c (List.mem_append_left z member)] at loud
      cases loud

theorem inertFrom_quiet {h : Text} (quiet : AllOf isQuiet h) (ends : endsWord true h = false)
    (offset : Nat) (afterWord : Bool) (v : Text) :
    inertFrom offset 0 afterWord (h ++ v) = inertFrom (offset + h.length) 0 false v := by
  induction h generalizing offset afterWord with
  | nil => cases ends
  | cons c h ih =>
    have none : inertRest? afterWord (c :: (h ++ v)) = none := inertRest?_quiet quiet ends v
    rw [List.cons_append, inertFrom_none none, List.length_cons]
    rw [endsWord_cons] at ends
    cases h with
    | nil =>
      rw [endsWord_nil] at ends
      rw [ends]
      rfl
    | cons d h =>
      rw [ih (fun c member => quiet c (List.mem_cons_of_mem _ member)) ends]
      congr 1
      omega

/-- A region that starts before an offset it does not hold ends before it. -/
theorem stop_le_of_clear {s : Span} {offset : Nat} (clear : s.contains offset = false)
    (before : s.start ≤ offset) : s.stop ≤ offset := by
  simp only [Span.contains, Bool.and_eq_false_iff, decide_eq_false_iff_not] at clear
  omega

theorem inertFrom_split {a u : Text} {offset skip p : Nat} {afterWord : Bool}
    (here : offset + a.length = p) (inside : skip ≤ a.length)
    (clear : ∀ s ∈ inertFrom offset skip afterWord (a ++ u), s.contains p = false) :
    ∃ spans, (∀ s ∈ spans, s.stop ≤ p) ∧
      inertFrom offset skip afterWord (a ++ u) =
        spans ++ inertFrom p 0 (endsWord afterWord a) u := by
  induction a generalizing offset skip afterWord with
  | nil =>
    obtain rfl : skip = 0 := by simpa using inside
    exact ⟨[], by simp, by simp [← here]⟩
  | cons c a ih =>
    rw [List.length_cons] at here inside
    rw [List.cons_append, endsWord_cons] at *
    cases skip with
    | succ skip => exact ih (by omega) (by omega) clear
    | zero =>
      cases found : inertRest? afterWord (c :: (a ++ u)) with
      | none =>
        rw [inertFrom_none found] at clear ⊢
        exact ih (by omega) (by omega) clear
      | some rest =>
        obtain ⟨r, _, cut⟩ := inertRest?_split found
        rw [inertFrom_some found cut] at clear ⊢
        have ends : offset + r.length ≤ p :=
          stop_le_of_clear (clear _ (List.mem_cons_self ..)) (show offset ≤ p by omega)
        obtain ⟨spans, before, same⟩ := ih (by omega) (by omega)
          (fun s member => clear s (List.mem_cons_of_mem _ member))
        exact ⟨_ :: spans, List.forall_mem_cons.mpr ⟨ends, before⟩, by rw [same]; rfl⟩

/-- A region that ends before a header is closed, so it does not depend on what follows. -/
theorem inertRest?_before {head k h a u r rest : Text} {c : Char} {afterWord : Bool}
    (shape : head = k ++ '(' :: '&' :: h)
    (found : inertRest? afterWord (c :: (a ++ (head ++ u))) = some rest)
    (cut : c :: (a ++ (head ++ u)) = r ++ rest) (short : r.length ≤ (c :: a).length) :
    ∃ b, c :: a = r ++ b ∧ rest = b ++ (head ++ u) ∧
      ∀ v, inertRest? afterWord (c :: (a ++ (head ++ v))) = some (b ++ (head ++ v)) := by
  obtain ⟨b, whole⟩ : r <+: c :: a :=
    List.prefix_of_prefix_length_le ⟨rest, cut.symm⟩ ⟨head ++ u, rfl⟩ short
  have split : ∀ v, c :: (a ++ (head ++ v)) = r ++ (b ++ (head ++ v)) := fun v => by
    rw [← List.cons_append, ← whole, List.append_assoc]
  obtain rfl := List.append_cancel_left (cut.symm.trans (split u))
  refine ⟨b, whole.symm, rfl, fun v => ?_⟩
  rw [split u] at found
  rw [split v]
  refine inertRest?_closed found (by simp [shape]) (fun same => ?_)
    (by simp [shape, List.head?_append])
  have lengths := congrArg List.length same
  simp only [shape, List.length_append, List.length_cons, List.length_nil] at lengths
  omega

/-- Up to a header at an offset outside of every region, and over the quiet text it begins,
regions do not depend on what follows. -/
theorem inertFrom_local {head k h : Text} (shape : head = k ++ '(' :: '&' :: h)
    (quiet : AllOf isQuiet head) (ends : endsWord true head = false) {a u : Text}
    {offset skip p : Nat} {afterWord : Bool} (here : offset + a.length = p)
    (inside : skip ≤ a.length)
    (clear : ∀ s ∈ inertFrom offset skip afterWord (a ++ (head ++ u)), s.contains p = false) :
    ∃ spans, (∀ s ∈ spans, s.stop ≤ p) ∧ ∀ v,
      inertFrom offset skip afterWord (a ++ (head ++ v)) =
        spans ++ inertFrom (p + head.length) 0 false v := by
  induction a generalizing offset skip afterWord with
  | nil =>
    obtain rfl : skip = 0 := by simpa using inside
    refine ⟨[], by simp, fun v => ?_⟩
    rw [← here]
    exact inertFrom_quiet quiet ends offset afterWord v
  | cons c a ih =>
    rw [List.length_cons] at here inside
    cases skip with
    | succ skip => exact ih (by omega) (by omega) clear
    | zero =>
      cases found : inertRest? afterWord (c :: (a ++ (head ++ u))) with
      | none =>
        rw [List.cons_append, inertFrom_none found] at clear
        obtain ⟨spans, before, same⟩ := ih (by omega) (by omega) clear
        refine ⟨spans, before, fun v => ?_⟩
        have split : ∀ v, c :: (a ++ (head ++ v)) = (c :: (a ++ k)) ++ '(' :: '&' :: (h ++ v) :=
          fun v => by simp [shape]
        rw [split] at found
        have none := inertRest?_early found (h ++ v)
        rw [← split] at none
        rw [List.cons_append, inertFrom_none none, same v]
      | some rest =>
        obtain ⟨r, _, cut⟩ := inertRest?_split found
        rw [List.cons_append, inertFrom_some found cut] at clear
        -- The region does not hold the header, so it is closed before it, whatever follows.
        have stop : offset + r.length ≤ p :=
          stop_le_of_clear (clear _ (List.mem_cons_self ..)) (show offset ≤ p by omega)
        obtain ⟨b, whole, rfl, closed⟩ := inertRest?_before shape found cut
          (by rw [List.length_cons]; omega)
        have split : ∀ v, c :: (a ++ (head ++ v)) = r ++ (b ++ (head ++ v)) := fun v => by
          rw [← List.cons_append, whole, List.append_assoc]
        obtain ⟨spans, before, same⟩ := ih (by omega) (by omega)
          (fun s member => clear s (List.mem_cons_of_mem _ member))
        refine ⟨⟨offset, offset + r.length⟩ :: spans,
          List.forall_mem_cons.mpr ⟨stop, before⟩, fun v => ?_⟩
        rw [List.cons_append, inertFrom_some (closed v) (split v), same v]
        rfl

def Span.shift (d : Nat) (s : Span) : Span := ⟨d + s.start, d + s.stop⟩

theorem inertFrom_shift (d offset skip : Nat) (afterWord : Bool) (t : Text) :
    inertFrom (d + offset) skip afterWord t =
      (inertFrom offset skip afterWord t).map (Span.shift d) := by
  induction t generalizing offset skip afterWord with
  | nil => rfl
  | cons c t ih =>
    cases skip with
    | succ skip => exact ih (offset + 1) skip (isWord c)
    | zero =>
      cases found : inertRest? afterWord (c :: t) with
      | none =>
        rw [inertFrom_none found, inertFrom_none found]
        exact ih (offset + 1) 0 (isWord c)
      | some rest =>
        obtain ⟨r, _, cut⟩ := inertRest?_split found
        rw [inertFrom_some found cut, inertFrom_some found cut, List.map_cons, ← ih, Span.shift]
        simp only [Nat.add_assoc]

theorem inertFrom_skip (r u : Text) (offset : Nat) (afterWord : Bool) :
    inertFrom offset r.length afterWord (r ++ u) =
      inertFrom (offset + r.length) 0 (endsWord afterWord r) u := by
  induction r generalizing offset afterWord with
  | nil => rfl
  | cons c r ih =>
    have size : offset + (c :: r).length = offset + 1 + r.length := by
      rw [List.length_cons]
      omega
    rw [endsWord_cons, size]
    exact ih (offset + 1) (isWord c)

theorem inertFrom_string {body : Text} (h : StringBody body) (offset : Nat) (afterWord : Bool)
    (u : Text) : inertFrom offset 0 afterWord ('"' :: (body ++ '"' :: u)) =
      ⟨offset, offset + (body.length + 2)⟩ :: inertFrom (offset + (body.length + 2)) 0 false u := by
  have found : inertRest? afterWord ('"' :: (body ++ '"' :: u)) = some u :=
    inertRest?_eq_some.mpr ⟨['"'], _, _, .string, rfl,
      congrArg some (h.literal.rest ('"' :: u))⟩
  have cut : '"' :: (body ++ '"' :: u) = ('"' :: (body ++ ['"'])) ++ u := by simp
  rw [inertFrom_some found cut]
  have skip := inertFrom_skip (body ++ ['"']) u (offset + 1) (isWord '"')
  rw [endsWord_concat, List.append_assoc, List.singleton_append] at skip
  simp only [List.length_cons, List.length_append, List.length_nil, Nat.add_sub_cancel] at skip ⊢
  rw [skip]
  congr 2
  omega

end RecorderStubs
