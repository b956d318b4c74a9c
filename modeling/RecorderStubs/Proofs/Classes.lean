import RecorderStubs.Settings.Basic
import RecorderStubs.Signature.Lexeme

/-! How the character classes lie to each other. Blanks belong to no other class, and the marks
that hold a declaration together belong to none at all. -/
namespace RecorderStubs

def blankPoints : List Nat :=
  [0x9, 0xa, 0xb, 0xc, 0xd, 0x1c, 0x1d, 0x1e, 0x1f, 0x20, 0x85, 0xa0, 0x1680, 0x2000, 0x2001,
    0x2002, 0x2003, 0x2004, 0x2005, 0x2006, 0x2007, 0x2008, 0x2009, 0x200a, 0x2028, 0x2029,
    0x202f, 0x205f, 0x3000]

theorem blank_point {c : Char} (h : isBlank c = true) : c.toNat ∈ blankPoints := by
  simp only [isBlank, blankRanges, Ranges.mem, Bool.if_false_left, Bool.and_eq_true,
    Bool.or_eq_true, decide_eq_true_eq, Bool.not_eq_true', decide_eq_false_iff_not,
    Bool.or_false] at h
  simp only [blankPoints, List.mem_cons, List.not_mem_nil, or_false]
  omega

theorem class_of_blank {ranges : Ranges} (apart : ∀ n ∈ blankPoints, ranges.mem n = false)
    {c : Char} (h : isBlank c = true) : ranges.mem c.toNat = false :=
  apart _ (blank_point h)

theorem isWord_of_blank {c : Char} (h : isBlank c = true) : isWord c = false :=
  class_of_blank (by decide +kernel) h

theorem startsIdentifier_of_blank {c : Char} (h : isBlank c = true) :
    startsIdentifier c = false :=
  class_of_blank (by decide +kernel) h

theorem continuesIdentifier_of_blank {c : Char} (h : isBlank c = true) :
    continuesIdentifier c = false :=
  class_of_blank (by decide +kernel) h

theorem isTypeChar_of_blank {c : Char} (h : isBlank c = true) : isTypeChar c = false := by
  have point := blank_point h
  cases marked : isTypeChar c with
  | false => rfl
  | true =>
    simp only [isTypeChar, isWord_of_blank h, Bool.false_or, List.contains_eq_mem,
      decide_eq_true_eq, List.mem_cons, List.not_mem_nil, or_false] at marked
    rcases marked with rfl | rfl | rfl | rfl | rfl <;> revert point <;> decide

theorem solid_of_class {p : Char → Bool} (apart : ∀ c, isBlank c = true → p c = false) {c : Char}
    (h : p c = true) : isBlank c = false := by
  cases blank : isBlank c with
  | false => rfl
  | true =>
    rw [apart c blank] at h
    cases h

theorem solid_of_word {c : Char} (h : isWord c = true) : isBlank c = false :=
  solid_of_class (fun _ => isWord_of_blank) h

theorem solid_of_typeChar {c : Char} (h : isTypeChar c = true) : isBlank c = false :=
  solid_of_class (fun _ => isTypeChar_of_blank) h

end RecorderStubs
