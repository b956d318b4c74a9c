import Mathlib.Data.List.TakeWhile
import RecorderStubs.Text.Encoding

/-! UTF-8 there and back. A text that is written is read again as it was, and bytes that can be read
are the bytes of the text they are read as. Line ends are unified byte by byte: no character but
the two that end lines has their bytes. -/
namespace RecorderStubs

/-- The bytes that a sequence still needs, and the code point that it then has. -/
inductive Completes : Lead → Bytes → Nat → Prop where
  | done {lead : Lead} (all : lead.more = 0) : Completes lead [] lead.bits
  | next {lead : Lead} {b : UInt8} {s : Bytes} {n : Nat} (more : lead.more ≠ 0)
      (low : lead.low ≤ b.toNat) (high : b.toNat ≤ lead.high)
      (rest : Completes ⟨lead.bits * 64 + (b.toNat - 0x80), 0x80, 0xbf, lead.more - 1⟩ s n) :
      Completes lead (b :: s) n

/-- A whole sequence and its code point. -/
def Sequence (s : Bytes) (n : Nat) : Prop :=
  ∃ b lead rest, s = b :: rest ∧ lead? b = some lead ∧ Completes lead rest n

section
variable {lead : Lead} {s : Bytes} {n : Nat}

theorem Completes.nil (h : Completes lead s n) (none : lead.more = 0) : s = [] ∧ n = lead.bits := by
  cases h with
  | done => exact ⟨rfl, rfl⟩
  | next more => exact absurd none more

theorem Completes.cons (h : Completes lead s n) {k : Nat} (some : lead.more = k + 1) :
    ∃ b rest, s = b :: rest ∧ lead.low ≤ b.toNat ∧ b.toNat ≤ lead.high ∧
      Completes ⟨lead.bits * 64 + (b.toNat - 0x80), 0x80, 0xbf, k⟩ rest n := by
  cases h with
  | done all =>
    rw [some] at all
    cases all
  | next more low high rest =>
    rw [some] at rest
    exact ⟨_, _, rfl, low, high, rest⟩

theorem Completes.read {p : Pending} (h : Completes p.lead s n) (pending : p.lead.more ≠ 0)
    (offset : Nat) (bytes : Bytes) :
    decodeUtf8From offset (some p) (s ++ bytes) =
      (decodeUtf8From (offset + s.length) none bytes).map (Char.ofNat n :: ·) := by
  generalize same : p.lead = lead at h
  induction h generalizing p offset with
  | done all =>
    rw [same] at pending
    exact absurd all pending
  | @next lead b s n more low high rest ih =>
    subst same
    have inside : (decide (b.toNat < p.lead.low) || decide (p.lead.high < b.toNat)) = false := by
      simp only [Bool.or_eq_false_iff, decide_eq_false_iff_not]
      omega
    simp only [List.cons_append, decodeUtf8From, inside, Bool.false_eq_true, if_false]
    by_cases last : p.lead.more ≤ 1
    · have none : p.lead.more - 1 = 0 := by omega
      obtain ⟨rfl, point⟩ := rest.nil none
      rw [if_pos last, point]
      rfl
    · have left := ih (p := ⟨p.first, p.start, p.length + 1,
        ⟨p.lead.bits * 64 + (b.toNat - 0x80), 0x80, 0xbf, p.lead.more - 1⟩⟩) (by simp only; omega)
        (offset + 1) rfl
      rw [if_neg last, left, List.length_cons, Nat.add_assoc, Nat.add_comm 1]

/-- What is pending when bytes are read well is completed by the first of them. -/
theorem exists_completes {p : Pending} {offset : Nat} {bytes : Bytes} {t : Text}
    (h : decodeUtf8From offset (some p) bytes = .ok t) (pending : p.lead.more ≠ 0) :
    ∃ s n rest u next, Completes p.lead s n ∧ bytes = s ++ rest ∧
      decodeUtf8From next none rest = .ok u ∧ t = Char.ofNat n :: u := by
  induction bytes generalizing p offset with
  | nil => cases h
  | cons b bytes ih =>
    simp only [decodeUtf8From] at h
    split at h
    · cases h
    · rename_i inside
      simp only [Bool.or_eq_true, decide_eq_true_eq, not_or, Nat.not_lt] at inside
      split at h
      · rename_i last
        cases rest : decodeUtf8From (offset + 1) none bytes with
        | error e =>
          rw [rest] at h
          cases h
        | ok u =>
          rw [rest] at h
          cases h
          refine ⟨[b], _, bytes, u, offset + 1, .next pending inside.1 inside.2 (.done ?_), rfl,
            rest, rfl⟩
          simp only
          omega
      · rename_i more
        obtain ⟨s, n, rest, u, next, completes, split, read, text⟩ := ih h (by simp only; omega)
        exact ⟨b :: s, n, rest, u, next, .next pending inside.1 inside.2 completes,
          by rw [split]; rfl, read, text⟩

theorem Sequence.read (h : Sequence s n) (offset : Nat) (bytes : Bytes) :
    decodeUtf8From offset none (s ++ bytes) =
      (decodeUtf8From (offset + s.length) none bytes).map (Char.ofNat n :: ·) := by
  obtain ⟨b, lead, rest, rfl, leads, completes⟩ := h
  simp only [List.cons_append, decodeUtf8From, leads]
  split
  · rename_i none
    obtain ⟨rfl, rfl⟩ := completes.nil none
    rfl
  · rename_i some
    rw [Completes.read (p := ⟨b, offset, 1, lead⟩) completes some, List.length_cons,
      Nat.add_assoc, Nat.add_comm 1]

theorem exists_sequence {offset : Nat} {b : UInt8} {bytes : Bytes} {t : Text}
    (h : decodeUtf8From offset none (b :: bytes) = .ok t) :
    ∃ s n rest u next, Sequence s n ∧ b :: bytes = s ++ rest ∧
      decodeUtf8From next none rest = .ok u ∧ t = Char.ofNat n :: u := by
  simp only [decodeUtf8From] at h
  split at h
  · cases h
  · rename_i lead leads
    split at h
    · rename_i single
      cases rest : decodeUtf8From (offset + 1) none bytes with
      | error e =>
        rw [rest] at h
        cases h
      | ok u =>
        rw [rest] at h
        cases h
        exact ⟨[b], _, bytes, u, offset + 1, ⟨b, lead, [], rfl, leads, .done single⟩, rfl, rest, rfl⟩
    · rename_i some
      obtain ⟨s, n, rest, u, next, completes, split, read, text⟩ := exists_completes h some
      exact ⟨b :: s, n, rest, u, next, ⟨b, lead, s, rfl, leads, completes⟩, by rw [split]; rfl,
        read, text⟩

theorem lead?_cases {b : UInt8} (h : lead? b = some lead) :
    (b.toNat < 0x80 ∧ lead = ⟨b.toNat, 0, 0, 0⟩) ∨
    (0xc2 ≤ b.toNat ∧ b.toNat < 0xe0 ∧ lead = ⟨b.toNat - 0xc0, 0x80, 0xbf, 1⟩) ∨
    (∃ low high, 0xe0 ≤ b.toNat ∧ b.toNat < 0xf0 ∧ lead = ⟨b.toNat - 0xe0, low, high, 2⟩ ∧
      0x80 ≤ low ∧ high ≤ 0xbf ∧ (b.toNat = 0xe0 → low = 0xa0) ∧ (b.toNat = 0xed → high = 0x9f)) ∨
    (∃ low high, 0xf0 ≤ b.toNat ∧ b.toNat < 0xf5 ∧ lead = ⟨b.toNat - 0xf0, low, high, 3⟩ ∧
      0x80 ≤ low ∧ high ≤ 0xbf ∧ (b.toNat = 0xf0 → low = 0x90) ∧ (b.toNat = 0xf4 → high = 0x8f)) := by
  simp only [lead?] at h
  split at h
  · rename_i low
    exact .inl ⟨low, (Option.some.inj h).symm⟩
  split at h
  · cases h
  split at h
  · exact .inr (.inl ⟨by omega, by omega, (Option.some.inj h).symm⟩)
  split at h
  · refine .inr (.inr (.inl ⟨_, _, by omega, by omega, (Option.some.inj h).symm, ?_, ?_, ?_, ?_⟩))
      <;> split <;> omega
  split at h
  · refine .inr (.inr (.inr ⟨_, _, by omega, by omega, (Option.some.inj h).symm, ?_, ?_, ?_, ?_⟩))
      <;> split <;> omega
  · cases h

theorem byte_eq {a : UInt8} {n : Nat} (h : a.toNat = n) : UInt8.ofNat n = a := by
  rw [← h, UInt8.ofNat_toNat]

theorem ofNat_point {n : Nat} (h : n < 0xd800 ∨ (0xdfff < n ∧ n < 0x110000)) :
    (Char.ofNat n).val.toNat = n := by
  have valid : n.isValidChar := h
  rw [Char.ofNat, dif_pos valid]
  rfl

theorem Sequence.written (h : Sequence s n) : String.utf8EncodeChar (Char.ofNat n) = s := by
  obtain ⟨a, lead, rest, rfl, leads, completes⟩ := h
  rcases lead?_cases leads with ⟨low, rfl⟩ | ⟨low, high, rfl⟩ |
    ⟨lowest, highest, low, high, rfl, _, _, _, _⟩ | ⟨lowest, highest, low, high, rfl, _, _, _, _⟩
  · obtain ⟨rfl, point⟩ := completes.nil rfl
    simp only at point
    simp only [String.utf8EncodeChar, ofNat_point (n := n) (by omega)]
    rw [if_pos (by omega), byte_eq point.symm]
  · obtain ⟨b, rest, rfl, lowB, highB, completes⟩ := completes.cons rfl
    obtain ⟨rfl, point⟩ := completes.nil rfl
    simp only at lowB highB point
    simp only [String.utf8EncodeChar, ofNat_point (n := n) (by omega)]
    rw [if_neg (by omega), if_pos (by omega), byte_eq (a := a) (by omega),
      byte_eq (a := b) (by omega)]
  · obtain ⟨b, rest, rfl, lowB, highB, completes⟩ := completes.cons rfl
    obtain ⟨c, rest, rfl, lowC, highC, completes⟩ := completes.cons rfl
    obtain ⟨rfl, point⟩ := completes.nil rfl
    simp only at lowB highB lowC highC point
    simp only [String.utf8EncodeChar, ofNat_point (n := n) (by omega)]
    rw [if_neg (by omega), if_neg (by omega), if_pos (by omega), byte_eq (a := a) (by omega),
      byte_eq (a := b) (by omega), byte_eq (a := c) (by omega)]
  · obtain ⟨b, rest, rfl, lowB, highB, completes⟩ := completes.cons rfl
    obtain ⟨c, rest, rfl, lowC, highC, completes⟩ := completes.cons rfl
    obtain ⟨d, rest, rfl, lowD, highD, completes⟩ := completes.cons rfl
    obtain ⟨rfl, point⟩ := completes.nil rfl
    simp only at lowB highB lowC highC lowD highD point
    simp only [String.utf8EncodeChar, ofNat_point (n := n) (by omega)]
    rw [if_neg (by omega), if_neg (by omega), if_neg (by omega), byte_eq (a := a) (by omega),
      byte_eq (a := b) (by omega), byte_eq (a := c) (by omega), byte_eq (a := d) (by omega)]

end

theorem toNat_byte {n : Nat} (h : n < 256) : (UInt8.ofNat n).toNat = n :=
  UInt8.toNat_ofNat_of_lt' h

section
variable {b : UInt8}

theorem lead?_one (h : b.toNat < 0x80) : lead? b = some ⟨b.toNat, 0, 0, 0⟩ := by
  simp only [lead?]
  rw [if_pos h]

theorem lead?_two (low : 0xc2 ≤ b.toNat) (high : b.toNat < 0xe0) :
    lead? b = some ⟨b.toNat - 0xc0, 0x80, 0xbf, 1⟩ := by
  simp only [lead?]
  rw [if_neg (by omega), if_neg (by omega), if_pos high]

theorem lead?_three (low : 0xe0 ≤ b.toNat) (high : b.toNat < 0xf0) :
    lead? b = some ⟨b.toNat - 0xe0, if b.toNat = 0xe0 then 0xa0 else 0x80,
      if b.toNat = 0xed then 0x9f else 0xbf, 2⟩ := by
  simp only [lead?]
  rw [if_neg (by omega), if_neg (by omega), if_neg (by omega), if_pos high]

theorem lead?_four (low : 0xf0 ≤ b.toNat) (high : b.toNat < 0xf5) :
    lead? b = some ⟨b.toNat - 0xf0, if b.toNat = 0xf0 then 0x90 else 0x80,
      if b.toNat = 0xf4 then 0x8f else 0xbf, 3⟩ := by
  simp only [lead?]
  rw [if_neg (by omega), if_neg (by omega), if_neg (by omega), if_neg (by omega), if_pos high]

end

theorem Completes.all {bits low high n : Nat} (point : n = bits) :
    Completes ⟨bits, low, high, 0⟩ [] n := by
  rw [point]
  exact .done rfl

theorem Completes.step {bits low high k n : Nat} {b : UInt8} {s : Bytes} (above : low ≤ b.toNat)
    (below : b.toNat ≤ high)
    (rest : Completes ⟨bits * 64 + (b.toNat - 0x80), 0x80, 0xbf, k⟩ s n) :
    Completes ⟨bits, low, high, k + 1⟩ (b :: s) n :=
  .next (Nat.succ_ne_zero k) above below rest

theorem sequence_encode (c : Char) : Sequence (String.utf8EncodeChar c) c.toNat := by
  have valid : c.val.toNat < 0xd800 ∨ (0xdfff < c.val.toNat ∧ c.val.toNat < 0x110000) := c.valid
  have same : c.toNat = c.val.toNat := rfl
  rw [same]
  simp only [String.utf8EncodeChar]
  generalize c.val.toNat = n at valid
  split
  · have first := toNat_byte (n := n) (by omega)
    exact ⟨_, _, _, rfl, lead?_one (by omega), .all first.symm⟩
  split
  · have first := toNat_byte (n := n / 64 % 32 + 192) (by omega)
    have second := toNat_byte (n := n % 64 + 128) (by omega)
    exact ⟨_, _, _, rfl, lead?_two (by omega) (by omega),
      .step (by omega) (by omega) (.all (by omega))⟩
  split
  · have first := toNat_byte (n := n / 4096 % 16 + 224) (by omega)
    have second := toNat_byte (n := n / 64 % 64 + 128) (by omega)
    have third := toNat_byte (n := n % 64 + 128) (by omega)
    refine ⟨_, _, _, rfl, lead?_three (by omega) (by omega), .step ?_ ?_
      (.step (by omega) (by omega) (.all (by omega)))⟩ <;> split <;> omega
  · have first := toNat_byte (n := n / 262144 % 8 + 240) (by omega)
    have second := toNat_byte (n := n / 4096 % 64 + 128) (by omega)
    have third := toNat_byte (n := n / 64 % 64 + 128) (by omega)
    have fourth := toNat_byte (n := n % 64 + 128) (by omega)
    refine ⟨_, _, _, rfl, lead?_four (by omega) (by omega), .step ?_ ?_
      (.step (by omega) (by omega) (.step (by omega) (by omega) (.all (by omega))))⟩ <;>
      split <;> omega

theorem encodeUtf8_append (t u : Text) : encodeUtf8 (t ++ u) = encodeUtf8 t ++ encodeUtf8 u :=
  List.flatMap_append

theorem decodeUtf8From_encode (offset : Nat) (t : Text) :
    decodeUtf8From offset none (encodeUtf8 t) = .ok t := by
  induction t generalizing offset with
  | nil => rfl
  | cons c t ih =>
    have split : encodeUtf8 (c :: t) = String.utf8EncodeChar c ++ encodeUtf8 t := rfl
    rw [split, (sequence_encode c).read, ih, Char.ofNat_toNat]
    rfl

theorem encodeUtf8_of_decode {offset : Nat} {bytes : Bytes} {t : Text}
    (h : decodeUtf8From offset none bytes = .ok t) : encodeUtf8 t = bytes := by
  induction t generalizing offset bytes with
  | nil =>
    cases bytes with
    | nil => rfl
    | cons b bytes =>
      obtain ⟨_, _, _, _, _, _, _, _, text⟩ := exists_sequence h
      cases text
  | cons c t ih =>
    cases bytes with
    | nil => cases h
    | cons b bytes =>
      obtain ⟨s, n, rest, u, next, sequence, split, read, text⟩ := exists_sequence h
      obtain ⟨rfl, rfl⟩ := List.cons.inj text
      have behind := ih read
      have whole : encodeUtf8 (Char.ofNat n :: t) =
        String.utf8EncodeChar (Char.ofNat n) ++ encodeUtf8 t := rfl
      rw [whole, sequence.written, behind, split]

def Encoding.Fits [Coded α] (encoding : Encoding) (t : List α) : Prop :=
  ∀ a ∈ t, encoding.holds (Coded.code a) = true

section
variable {α : Type} [Coded α] {encoding : Encoding} {t : List α}

theorem Encoding.Fits.dropWhile (h : encoding.Fits t) :
    (t.map Coded.code).dropWhile encoding.holds = [] := by
  rw [List.dropWhile_eq_nil_iff]
  intro code listed
  obtain ⟨a, member, rfl⟩ := List.mem_map.mp listed
  exact h a member

theorem encode_of_fits (h : encoding.Fits t) :
    encoding.encode t = .ok ((t.map Coded.code).flatMap encoding.bytesOf) := by
  simp only [Encoding.encode, h.dropWhile]

theorem fits_of_encode {bytes : Bytes} (h : encoding.encode t = .ok bytes) : encoding.Fits t := by
  unfold Encoding.encode at h
  dsimp only at h
  split at h
  · rename_i all
    intro a member
    exact List.dropWhile_eq_nil_iff.mp all _ (List.mem_map.mpr ⟨a, member, rfl⟩)
  · cases h

theorem unfit_of_encode {e : EncodeError} (h : encoding.encode t = .error e) :
    ¬ encoding.Fits t := by
  intro fits
  rw [encode_of_fits fits] at h
  cases h

end

theorem utf8_fits (t : Text) : Encoding.utf8.Fits t := by
  intro c _
  have valid : c.val.toNat < 0xd800 ∨ (0xdfff < c.val.toNat ∧ c.val.toNat < 0x110000) := c.valid
  have code : Coded.code c = c.val.toNat := rfl
  simp only [Encoding.holds, Encoding.limit, code, Bool.or_eq_true, Bool.and_eq_true,
    decide_eq_true_eq]
  exact valid

theorem encode_utf8 (t : Text) : Encoding.utf8.encode t = .ok (encodeUtf8 t) := by
  rw [encode_of_fits (utf8_fits t), encodeUtf8, List.flatMap_map]
  congr 2
  funext c
  rw [Encoding.bytesOf]
  exact congrArg _ c.ofNat_toNat

theorem Completes.high {lead : Lead} {s : Bytes} {n : Nat} (h : Completes lead s n)
    (low : 0x80 ≤ lead.low) : ∀ b ∈ s, 0x80 ≤ b.toNat := by
  induction h with
  | done => exact fun _ member => absurd member List.not_mem_nil
  | next _ above _ _ ih =>
    intro b member
    rcases List.mem_cons.mp member with rfl | later
    · exact Nat.le_trans low above
    · exact ih (Nat.le_refl _) b later

/-- A byte below 128 stands for itself and is part of no longer sequence. -/
theorem char_of_byte {c : Char} {b : UInt8} (h : b ∈ String.utf8EncodeChar c)
    (low : b.toNat < 0x80) : c.toNat = b.toNat := by
  obtain ⟨a, lead, rest, split, leads, completes⟩ := sequence_encode c
  have kinds : (lead = ⟨a.toNat, 0, 0, 0⟩) ∨ (0x80 ≤ a.toNat ∧ 0x80 ≤ lead.low) := by
    rcases lead?_cases leads with ⟨_, rfl⟩ | ⟨_, _, rfl⟩ | ⟨_, _, _, _, rfl, _⟩ |
      ⟨_, _, _, _, rfl, _⟩
    · exact .inl rfl
    all_goals exact .inr ⟨by omega, by simp only; omega⟩
  rw [split] at h
  rcases kinds with rfl | ⟨first, others⟩
  · obtain ⟨rfl, point⟩ := completes.nil rfl
    rw [point, List.mem_singleton.mp h]
  · rcases List.mem_cons.mp h with rfl | later
    · omega
    · have := completes.high others b later
      omega

theorem not_mem_encode {c d : Char} (small : d.toNat < 0x80) (other : c ≠ d) :
    UInt8.ofNat d.toNat ∉ String.utf8EncodeChar c := by
  intro member
  have byte := toNat_byte (n := d.toNat) (by omega)
  have same := char_of_byte member (by omega)
  rw [byte] at same
  exact other (Char.toNat_inj.mp same)

theorem head_encodeUtf8 {t : Text} {bytes : Bytes} (h : encodeUtf8 t = 10 :: bytes) :
    ∃ u, t = '\n' :: u := by
  cases t with
  | nil => cases h
  | cons c t =>
    by_cases newline : c = '\n'
    · exact ⟨t, by rw [newline]⟩
    · exfalso
      obtain ⟨a, _, rest, split, _⟩ := sequence_encode c
      have whole : encodeUtf8 (c :: t) = String.utf8EncodeChar c ++ encodeUtf8 t := rfl
      rw [whole, split, List.cons_append] at h
      apply not_mem_encode (d := '\n') (by decide) newline
      rw [split, (List.cons.inj h).1]
      exact List.mem_cons_self ..

def unifyLineEnds : Bytes → Bytes
  | [] => []
  | 13 :: 10 :: bytes => 10 :: unifyLineEnds bytes
  | b :: bytes => (if b = 13 then 10 else b) :: unifyLineEnds bytes

theorem unifyLineEnds_append {s : Bytes} (h : 13 ∉ s) (bytes : Bytes) :
    unifyLineEnds (s ++ bytes) = s ++ unifyLineEnds bytes := by
  induction s with
  | nil => rfl
  | cons b s ih =>
    simp only [List.mem_cons, not_or] at h
    rw [List.cons_append, unifyLineEnds, ih h.2, if_neg (Ne.symm h.1)]
    · rfl
    · intro rest same
      exact absurd same.symm h.1

theorem unifyLineEnds_of_not_mem {bytes : Bytes} (h : 13 ∉ bytes) :
    unifyLineEnds bytes = bytes := by
  have same := unifyLineEnds_append h []
  simpa [unifyLineEnds] using same

theorem unifyLineEnds_encode (t : Text) :
    unifyLineEnds (encodeUtf8 t) = encodeUtf8 (unifyNewlines t) := by
  fun_induction unifyNewlines t with
  | case1 => rfl
  | case2 t ih =>
    have pair : encodeUtf8 ('\r' :: '\n' :: t) = 13 :: 10 :: encodeUtf8 t := rfl
    rw [pair, unifyLineEnds, ih]
    rfl
  | case3 c t alone ih =>
    by_cases ret : c = '\r'
    · subst ret
      have first : encodeUtf8 ('\r' :: t) = 13 :: encodeUtf8 t := rfl
      rw [first, unifyLineEnds, ih]
      · rfl
      · intro bytes _ behind
        obtain ⟨u, rfl⟩ := head_encodeUtf8 behind
        exact alone u rfl rfl
    · have whole : encodeUtf8 (c :: t) = String.utf8EncodeChar c ++ encodeUtf8 t := rfl
      rw [whole, unifyLineEnds_append (not_mem_encode (d := '\r') (by decide) ret), ih, if_neg ret]
      rfl

theorem newline_of_return {bytes : Bytes} (h : 13 ∈ bytes) : 10 ∈ unifyLineEnds bytes := by
  fun_induction unifyLineEnds bytes with
  | case1 => exact absurd h List.not_mem_nil
  | case2 bytes _ => exact List.mem_cons_self ..
  | case3 b bytes _ ih =>
    rcases List.mem_cons.mp h with rfl | later
    · exact List.mem_cons_self ..
    · exact List.mem_cons_of_mem _ (ih later)

theorem newline_of_byte {t : Text} (h : 10 ∈ encodeUtf8 t) : '\n' ∈ t := by
  induction t with
  | nil => cases h
  | cons c t ih =>
    by_cases newline : c = '\n'
    · rw [newline]
      exact List.mem_cons_self ..
    · have whole : encodeUtf8 (c :: t) = String.utf8EncodeChar c ++ encodeUtf8 t := rfl
      rw [whole, List.mem_append] at h
      rcases h with first | later
      · exact absurd first (not_mem_encode (d := '\n') (by decide) newline)
      · exact List.mem_cons_of_mem _ (ih later)

end RecorderStubs
