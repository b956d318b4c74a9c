import RecorderStubs.Proofs.Regions

/-! Texts that are put together. Where no region crosses the seam and no word character stands
before it, the regions are those of both parts. Whether a region opens is settled by its own
characters, so none is lost by a cut behind it; and one that ends at the seam or before it is
closed, or it is a comment or a string that had nothing left to take. -/
namespace RecorderStubs

theorem lineCommentRest_within {r x b : Text} (h : lineCommentRest (r ++ (x ++ b)) = x ++ b) :
    lineCommentRest (r ++ x) = x := by
  cases x with
  | nil => exact dropWhile_run (lineCommentRest_inside h) (stops_nil _)
  | cons c x => exact lineCommentRest_closed h rfl

theorem stringLiteralRest_dangling {r : Text} (h : stringLiteralRest (r ++ ['\\']) = ['\\']) :
    stringLiteralRest r = [] := by
  have ends := stringLiteralRest_end (r ++ ['\\'])
  rw [h] at ends
  generalize whole : r ++ ['\\'] = t at ends
  generalize left : ['\\'] = rest at ends whole
  cases ends with
  | @closed body rest valid =>
    obtain rfl : r = body ++ ['"'] :=
      List.append_cancel_right (whole.trans (List.append_cons body '"' rest))
    rw [valid.rest]
    rfl
  | unclosed _ => cases left
  | @dangling body valid =>
    obtain rfl := List.append_cancel_right whole
    simpa [stringLiteralRest] using valid.rest []

theorem stringLiteralRest_within {r x b : Text} (h : stringLiteralRest (r ++ (x ++ b)) = x ++ b)
    (nonempty : b ≠ []) : stringLiteralRest (r ++ x) = x := by
  by_cases other : x ++ b = ['\\']
  · have none : x = [] := by
      have lengths := congrArg List.length other
      have positive := List.length_pos_iff.mpr nonempty
      rw [List.length_append, List.length_singleton] at lengths
      exact List.length_eq_zero_iff.mp (by omega)
    rw [other] at h
    rw [none, List.append_nil]
    exact stringLiteralRest_dangling h
  · exact stringLiteralRest_closed h (List.append_ne_nil_of_right_ne_nil x nonempty) other

theorem Opener.within {afterWord : Bool} {opener r x b : Text} {go : Text → Option Text}
    (h : Opener afterWord opener go) (found : go (r ++ (x ++ b)) = some (x ++ b)) :
    go (r ++ x) = some x := by
  cases b with
  | nil => simpa using found
  | cons c b =>
    have nonempty : x ++ c :: b ≠ [] := List.append_ne_nil_of_right_ne_nil x (List.cons_ne_nil c b)
    have string := fun found => congrArg some
      (stringLiteralRest_within (r := r) (x := x) found (List.cons_ne_nil c b))
    cases h with
    | line => exact congrArg some (lineCommentRest_within (Option.some.inj found))
    | block => exact congrArg some (blockCommentRest_closed (Option.some.inj found) nonempty)
    | string => exact string (Option.some.inj found)
    | char => exact charLiteralRest?_closed found x
    | raw => exact congrArg some (rawStringRest_closed (Option.some.inj found) nonempty)
    | byteString => exact string (Option.some.inj found)
    | byteChar => exact charLiteralRest?_closed found x

/-- A region that ends at the seam or before it is a region of the first part. -/
theorem inertRest?_within {afterWord : Bool} {r x b : Text}
    (h : inertRest? afterWord (r ++ (x ++ b)) = some (x ++ b)) :
    inertRest? afterWord (r ++ x) = some x := by
  obtain ⟨opener, go, u, opens, same, found⟩ := inertRest?_eq_some.mp h
  obtain ⟨y, rfl⟩ := opens.suffix found
  obtain rfl : r = opener ++ y :=
    List.append_cancel_right (same.trans (List.append_assoc opener y (x ++ b)).symm)
  exact inertRest?_eq_some.mpr ⟨opener, go, y ++ x, opens, List.append_assoc .., opens.within found⟩

theorem Opener.longer {afterWord : Bool} {opener u rest : Text} {go : Text → Option Text}
    (h : Opener afterWord opener go) (found : go u = some rest) (b : Text) :
    ∃ rest', go (u ++ b) = some rest' := by
  have char : charLiteralRest? u = some rest → ∃ rest', charLiteralRest? (u ++ b) = some rest' := by
    intro found
    obtain ⟨body, valid, rfl⟩ := charLiteralRest?_sound found
    exact ⟨rest ++ b, by simpa using charLiteralRest?_complete valid (rest ++ b)⟩
  cases h with
  | char => exact char found
  | byteChar => exact char found
  | _ => exact ⟨_, rfl⟩

/-- A cut opens no region. -/
theorem inertRest?_shorter {afterWord : Bool} {a b : Text}
    (h : inertRest? afterWord (a ++ b) = none) : inertRest? afterWord a = none := by
  cases found : inertRest? afterWord a with
  | none => rfl
  | some rest =>
    obtain ⟨opener, go, u, opens, rfl, goes⟩ := inertRest?_eq_some.mp found
    obtain ⟨rest', goes'⟩ := opens.longer goes b
    have again : inertRest? afterWord (opener ++ u ++ b) = some rest' :=
      inertRest?_eq_some.mpr ⟨opener, go, u ++ b, opens, List.append_assoc .., goes'⟩
    rw [again] at h
    cases h

theorem inertFrom_seam {a b : Text} {offset skip p : Nat} {afterWord : Bool}
    (here : offset + a.length = p) (inside : skip ≤ a.length)
    (whole : ∀ s ∈ inertFrom offset skip afterWord (a ++ b), ¬ (s.start < p ∧ p < s.stop)) :
    inertFrom offset skip afterWord (a ++ b) =
      inertFrom offset skip afterWord a ++ inertFrom p 0 (endsWord afterWord a) b := by
  -- Along the first part: a region that starts there is skipped in both readings by the same number
  -- of characters.
  induction a generalizing offset skip afterWord with
  | nil =>
    obtain rfl : skip = 0 := by simpa using inside
    obtain rfl : offset = p := by simpa using here
    rfl
  | cons c a ih =>
    rw [List.length_cons] at here inside
    rw [List.cons_append, endsWord_cons] at *
    cases skip with
    | succ skip => exact ih (by omega) (by omega) whole
    | zero =>
      cases found : inertRest? afterWord (c :: (a ++ b)) with
      | none =>
        have none : inertRest? afterWord (c :: a) = none := inertRest?_shorter found
        rw [inertFrom_none found] at whole ⊢
        rw [inertFrom_none none]
        exact ih (by omega) (by omega) whole
      | some rest =>
        obtain ⟨r, _, cut⟩ := inertRest?_split found
        rw [inertFrom_some found cut] at whole ⊢
        have stop : offset + r.length ≤ p := by
          have apart := whole _ (List.mem_cons_self ..)
          dsimp only at apart
          omega
        obtain ⟨x, same⟩ : r <+: c :: a := List.prefix_of_prefix_length_le ⟨rest, cut.symm⟩
          ⟨b, rfl⟩ (by rw [List.length_cons]; omega)
        have split : c :: (a ++ b) = r ++ (x ++ b) := by
          rw [← List.cons_append, ← same, List.append_assoc]
        obtain rfl := List.append_cancel_left (cut.symm.trans split)
        have first : inertRest? afterWord (c :: a) = some x := by
          rw [split] at found
          rw [← same]
          exact inertRest?_within found
        rw [inertFrom_some first same.symm, List.cons_append,
          ih (by omega) (by omega) fun s member => whole s (List.mem_cons_of_mem _ member)]

/-- The regions of a text that is cut where no region is cut and no word ends. -/
theorem regions_split {a b : Text}
    (whole : ∀ s ∈ inertSpans (a ++ b), ¬ (s.start < a.length ∧ a.length < s.stop))
    (solid : ∀ c ∈ a.getLast?, isWord c = false) :
    inertSpans (a ++ b) = inertSpans a ++ (inertSpans b).map (Span.shift a.length) := by
  have ends : endsWord false a = false := by
    unfold endsWord
    cases last : a.getLast? with
    | none => rfl
    | some c => exact solid c last
  have seam := inertFrom_seam (Nat.zero_add a.length) (Nat.zero_le a.length) whole
  have moved := inertFrom_shift a.length 0 0 false b
  rw [Nat.add_zero] at moved
  rw [ends, moved] at seam
  exact seam

def commentedPart : Text := "f::<'a>('\\'', /*/**/*/); // \"".toList

def quotedPart : Text := "\nb\"r#\\\"".toList

theorem regions_split_commented :
    (∀ s ∈ inertSpans (commentedPart ++ quotedPart),
        ¬ (s.start < commentedPart.length ∧ commentedPart.length < s.stop)) ∧
      (∀ c ∈ commentedPart.getLast?, isWord c = false) ∧
      inertSpans (commentedPart ++ quotedPart) = inertSpans commentedPart ++
        (inertSpans quotedPart).map (Span.shift commentedPart.length) := by
  have whole : ∀ s ∈ inertSpans (commentedPart ++ quotedPart),
      ¬ (s.start < commentedPart.length ∧ commentedPart.length < s.stop) := by
    decide +kernel
  have solid : ∀ c ∈ commentedPart.getLast?, isWord c = false := by
    intro c last
    obtain rfl : '"' = c := Option.some.inj last
    decide
  exact ⟨whole, solid, regions_split whole solid⟩

end RecorderStubs
