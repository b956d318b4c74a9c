import Mathlib.Data.List.TakeWhile
import RecorderStubs.Proofs.Breakdown
import RecorderStubs.Proofs.Lines

/-! Cursors that are given by a line and a column. Their numbers are read back from the arguments
unless they have too many digits, line zero means the first line, and a cursor that lies outside
its text edits nothing. -/
namespace RecorderStubs

/-- A number with few enough digits to be read. -/
def Legible (n : Int) : Prop := (Nat.toDigits 10 n.natAbs).length ≤ digitLimit

instance (n : Int) : Decidable (Legible n) := inferInstanceAs (Decidable (_ ≤ _))

theorem numeral_eq (n : Int) :
    (toString n).toList = (if n < 0 then ['-'] else []) ++ Nat.toDigits 10 n.natAbs := by
  rw [Int.toString_eq_repr, Int.repr_eq_if]
  by_cases negative : n < 0
  · have size : (-n).toNat = n.natAbs := by omega
    rw [if_neg (by omega), if_pos negative, String.toList_append, Nat.toList_repr, size]
    rfl
  · have size : n.toNat = n.natAbs := by omega
    rw [if_pos (by omega), if_neg negative, Nat.toList_repr, size]
    rfl

section
variable {c : Char} {t : Text}

theorem digit_ne {d : Char} (h : c.isDigit = true) (other : d.isDigit = false) : c ≠ d := by
  rintro rfl
  rw [h] at other
  cases other

theorem digitValue?_digit (h : c.isDigit = true) : digitValue? c = some (c.toNat - '0'.toNat) := by
  obtain ⟨low, high⟩ := Char.isDigit_iff_toNat.mp h
  have ascii : (decide (0x30 ≤ c.toNat) && decide (c.toNat < 0x30 + 10)) = true := by
    simp only [Bool.and_eq_true, decide_eq_true_eq]
    exact ⟨low, Nat.lt_succ_of_le high⟩
  have found : digitZeros.find? (fun z => z ≤ c.toNat && c.toNat < z + 10) = some 0x30 :=
    List.find?_cons_of_pos ascii
  rw [digitValue?, found]
  rfl

theorem isNumberBlank_digit (h : c.isDigit = true) : isNumberBlank c = false := by
  have solid : isBlank c = false := by
    refine solid_of_class (p := Char.isDigit) (fun c blank => ?_) h
    have point := blank_point blank
    rw [Bool.eq_false_iff]
    intro digit
    obtain ⟨low, high⟩ := Char.isDigit_iff_toNat.mp digit
    simp only [blankPoints, List.mem_cons, List.not_mem_nil, or_false] at point
    change 48 ≤ c.toNat at low
    change c.toNat ≤ 57 at high
    omega
  rw [isNumberBlank, solid]
  rfl

theorem numberDigits?_run (h : RunOf Char.isDigit t) :
    numberDigits? t = some (t.map fun c => c.toNat - '0'.toNat) := by
  obtain ⟨present, digits⟩ := h
  induction t with
  | nil => exact absurd rfl present
  | cons c t ih =>
    obtain ⟨first, others⟩ := allOf_cons.mp digits
    cases t with
    | nil => simp only [numberDigits?, digitValue?_digit first, Option.map_some, List.map_cons,
        List.map_nil]
    | cons d t =>
      -- No underscore stands behind the first digit, so the digits go on right there.
      have plain : ∀ u, d :: t ≠ '_' :: u := fun u cut =>
        digit_ne (allOf_cons.mp others).1 (by decide) (List.cons.inj cut).1
      rw [numberDigits?, digitValue?_digit first, ih (List.cons_ne_nil d t) others]
      · rfl
      · exact List.cons_ne_nil d t
      · exact plain

end

theorem readNatural?_digits (n : Nat) : readNatural? (Nat.toDigits 10 n) =
    if (Nat.toDigits 10 n).length ≤ digitLimit then some n else none := by
  have value : ((Nat.toDigits 10 n).map fun c => c.toNat - '0'.toNat).foldl
      (fun n d => n * 10 + d) 0 = n := by
    rw [List.foldl_map]
    simp only [Nat.mul_comm _ 10]
    rw [← Nat.ofDigitChars_eq_foldl, Nat.ofDigitChars_ten_toDigits]
  simp only [readNatural?, numberDigits?_run (digits_run n), List.length_map, value]
  by_cases few : (Nat.toDigits 10 n).length ≤ digitLimit
  · rw [if_neg (Nat.not_lt.mpr few), if_pos few]
  · rw [if_pos (Nat.not_le.mp few), if_neg few]

theorem numeral_solid (n : Int) :
    Stops isNumberBlank (toString n).toList ∧ Stops isNumberBlank (toString n).toList.reverse := by
  have run := digits_run n.natAbs
  rw [numeral_eq, List.reverse_append]
  refine ⟨?_, stops_of_run (fun _ => isNumberBlank_digit) run.reverse⟩
  split
  · exact stops_cons.mpr (by decide)
  · exact stops_of_all (fun _ => isNumberBlank_digit) run.2

theorem readInteger?_numeral (n : Int) :
    readInteger? (toString n).toList = if Legible n then some n else none := by
  obtain ⟨front, back⟩ := numeral_solid n
  simp only [readInteger?, dropWhile_of_stops front, dropWhile_of_stops back, List.reverse_reverse]
  have natural : readNatural? (Nat.toDigits 10 n.natAbs) =
      if Legible n then some n.natAbs else none := readNatural?_digits n.natAbs
  rw [numeral_eq]
  by_cases negative : n < 0
  · have sign : -(n.natAbs : Int) = n := by omega
    rw [if_pos negative, List.singleton_append]
    simp only [natural]
    split
    · exact congrArg some sign
    · rfl
  · have sign : Int.ofNat n.natAbs = n := by
      simp only [Int.ofNat_eq_natCast]
      omega
    obtain ⟨c, u, cut, digit⟩ := (digits_run n.natAbs).head
    rw [if_neg negative, List.nil_append]
    split
    · rename_i first
      rw [cut] at first
      exact absurd (List.cons.inj first).1 (digit_ne digit (by decide))
    · rename_i first
      rw [cut] at first
      exact absurd (List.cons.inj first).1 (digit_ne digit (by decide))
    · rw [natural]
      split
      · exact congrArg some sign
      · rfl

namespace CommandLine

/-- No option is named by a digit. -/
def Table.Wordy (t : Table) : Prop :=
  ∀ entry ∈ t.names, entry.1[1]?.all (fun c => !c.isDigit) = true

theorem mainTable_wordy : mainTable.Wordy := by
  unfold Table.Wordy
  decide

theorem generate_wordy : CommandName.generate.table.Wordy := by
  unfold Table.Wordy
  decide

theorem isDecimal_digit {c : Char} (h : c.isDigit = true) : isDecimal c = true := by
  rw [isDecimal, digitValue?_digit h]
  rfl

theorem isNegativeNumber_digits {t : Text} (h : RunOf Char.isDigit t) :
    isNegativeNumber ('-' :: t) = true := by
  obtain ⟨present, digits⟩ := h
  have kept : dropFinalNewline ('-' :: t) = '-' :: t := by
    unfold dropFinalNewline
    split
    · rename_i last
      rw [List.getLast?_cons_of_ne_nil present] at last
      exact absurd rfl (digit_ne (digits _ (List.mem_of_getLast? last)) (by decide))
    · rfl
  have used : t.dropWhile isDecimal = [] :=
    List.dropWhile_eq_nil_iff.mpr (digits.imp isDecimal_digit)
  simp only [isNegativeNumber, kept, used, List.isEmpty_eq_false_iff.mpr present, Bool.not_false]

section
variable {t : Table} {arg : String} {args : List String} {d : Char}

theorem Table.Wordy.unnamed (wordy : t.Wordy) (digit : d.isDigit = true) {entry : Text × OptionSpec}
    (listed : entry ∈ t.names) (u : Text) : entry.1 ≠ '-' :: d :: u := by
  intro same
  have other := wordy entry listed
  rw [same, List.getElem?_cons_succ, List.getElem?_cons_zero, Option.all_some, digit] at other
  cases other

theorem Table.Wordy.find?_eq_none (wordy : t.Wordy) (digit : d.isDigit = true) (u : Text) :
    t.find? ('-' :: d :: u) = none := by
  refine List.lookup_eq_none_iff.mpr fun entry listed => bne_iff_ne.mpr fun same => ?_
  exact wordy.unnamed digit listed u same.symm

theorem Table.Wordy.candidates_eq_nil (wordy : t.Wordy) (digit : d.isDigit = true) (u : Text) :
    t.candidates ('-' :: d :: u) = [] := by
  unfold Table.candidates
  split
  · rename_i v same
    exact absurd (List.cons.inj (List.cons.inj same).2).1 (digit_ne digit (by decide))
  · refine List.filterMap_eq_nil_iff.mpr fun entry listed => ?_
    have letter : entry.1 ≠ ('-' :: d :: u).take 2 := wordy.unnamed digit listed []
    rw [if_neg letter, if_neg]
    intro shorter
    obtain ⟨v, same⟩ := List.isPrefixOf_iff_prefix.mp shorter
    exact wordy.unnamed digit listed (u ++ v) same.symm

theorem Table.classify_word (h : arg.toList.head? ≠ some '-') :
    t.classify arg = .ok (.word arg) := by
  simp only [Table.classify, if_pos h]

theorem Table.classify_numeral (wordy : t.Wordy) (n : Int) :
    t.classify (toString n) = .ok (.word (toString n)) := by
  have run := digits_run n.natAbs
  have written := numeral_eq n
  obtain ⟨d, u, cut, digit⟩ := run.head
  rw [cut] at run written
  by_cases negative : n < 0
  · -- It begins like an option: all ways to take it for one have to fail first.
    rw [if_pos negative, List.singleton_append] at written
    have whole : ('-' :: d :: u).dropWhile (· != '=') = [] := by
      refine List.dropWhile_eq_nil_iff.mpr (allOf_cons.mpr ⟨by decide, run.2.imp fun digit => ?_⟩)
      exact bne_iff_ne.mpr (digit_ne digit (by decide))
    simp only [Table.classify, written, wordy.find?_eq_none digit, whole,
      wordy.candidates_eq_nil digit, isNegativeNumber_digits run]
    rfl
  · apply Table.classify_word
    rw [written, if_neg negative]
    intro first
    exact digit_ne digit (by decide) (Option.some.inj first)

theorem Table.tokens_cons {token : Token} {tokens : List Token} (other : arg ≠ "--")
    (first : t.classify arg = .ok token) (rest : t.tokens args = .ok tokens) :
    t.tokens (arg :: args) = .ok (token :: tokens) := by
  rw [Table.tokens, if_neg other, first]
  simp only [bind, Except.bind, rest]
  rfl

end

theorem numeral_ne_dashes (n : Int) : toString n ≠ "--" := by
  intro same
  obtain ⟨d, u, cut, digit⟩ := (digits_run n.natAbs).head
  have member : d ∈ "--".toList := by
    rw [← same, numeral_eq, cut]
    simp
  obtain rfl : d = '-' := by simpa using member
  cases digit

def lineArgs (file : String) (n : Int) (column : Option Int) : List String :=
  file :: "--line" :: toString n :: column.elim [] fun c => ["--column", toString c]

section
variable {file : String} (plain : file.toList.head? ≠ some '-') (n : Int) (column : Option Int)
include plain

theorem Table.tokens_lineArgs {t : Table} (wordy : t.Wordy) {first second : Option Found}
    (line : t.classify "--line" = .ok (.option "--line" first))
    (behind : t.classify "--column" = .ok (.option "--column" second)) :
    t.tokens (lineArgs file n column) =
      .ok (.word file :: .option "--line" first :: .word (toString n) ::
        column.elim [] fun c => [.option "--column" second, .word (toString c)]) := by
  have other : file ≠ "--" := by
    rintro rfl
    exact plain rfl
  apply Table.tokens_cons other (Table.classify_word plain)
  apply Table.tokens_cons (by decide) line
  apply Table.tokens_cons (numeral_ne_dashes n) (Table.classify_numeral wordy n)
  cases column with
  | none => rfl
  | some c =>
    apply Table.tokens_cons (by decide) behind
    exact Table.tokens_cons (numeral_ne_dashes c) (Table.classify_numeral wordy c) rfl

theorem mainTable_read : mainTable.read ("generate" :: lineArgs file n column) =
    { given := [.words ("generate" :: lineArgs file n column)] } := by
  have command : mainTable.classify "generate" = .ok (.word "generate") := by decide
  have line : mainTable.classify "--line" = .ok (.option "--line" none) := by decide
  have behind : mainTable.classify "--column" = .ok (.option "--column" none) := by decide
  have tokens := Table.tokens_cons (by decide) command
    (Table.tokens_lineArgs plain n column mainTable_wordy line behind)
  rw [Table.read, tokens]
  cases column with
  | none => rfl
  | some c => rfl

theorem generate_table_read : CommandName.generate.table.read (lineArgs file n column) =
    { given := .words [file] :: .value line (some (toString n)) ::
        column.elim [] fun c => [.value CommandLine.column (some (toString c))] } := by
  have line : CommandName.generate.table.classify "--line" =
      .ok (.option "--line" (some ⟨line, "--line".toList, none⟩)) := by decide
  have behind : CommandName.generate.table.classify "--column" =
      .ok (.option "--column" (some ⟨CommandLine.column, "--column".toList, none⟩)) := by decide
  have value : ∀ o n, Given.ofText o (toString (n : Int)) = .value o (some (toString n)) :=
    fun o n => by rw [Given.ofText, if_neg (numeral_ne_dashes n)]
  rw [Table.read, Table.tokens_lineArgs plain n column generate_wordy line behind]
  cases column with
  | none =>
    rw [← value]
    rfl
  | some c =>
    simp only [Option.elim_some, ← value]
    rfl

end

theorem readNumber_numeral (o : OptionSpec) (n : Int) :
    readNumber o (some (toString n)) =
      if Legible n then .ok (some n)
      else .error (.fault
        (argumentFault o ("invalid int value: " ++ quotedString (toString n)))) := by
  rw [readNumber, readInteger?_numeral]
  by_cases legible : Legible n
  · rw [if_pos legible, if_pos legible]
  · rw [if_neg legible, if_neg legible]

theorem take_generate (args : List String) :
    ({} : MainOptions).take (.words ("generate" :: args)) =
      match CommandName.generate.read args with
      | .error h => .error (CommandName.generate.table.program, h)
      | .ok r => .ok { request := some r } := by
  have named : CommandName.ofText? "generate" = some .generate := by decide
  cases found : CommandName.generate.read args with
  | error h => simp only [MainOptions.take, List.headD_cons, List.tail_cons, named, found]
  | ok r => simp only [MainOptions.take, List.headD_cons, List.tail_cons, named, found]

def fileTarget (file : String) : Target := ⟨.ofString file, none, {}, false⟩

section
variable {file : String} (plain : file.toList.head? ≠ some '-') {n : Int} {column : Option Int}
include plain

theorem generate_read (line : Legible n) (behind : ∀ c ∈ column, Legible c) :
    CommandName.generate.read (lineArgs file n column) =
      .ok (.command (.generate (fileTarget file) (.line (some n) (column.map some)) none), []) := by
  rw [CommandName.read, generate_table_read plain]
  cases column with
  | none =>
    simp only [Options.takeAll, Option.elim_none, List.foldlM_cons, List.foldlM_nil, Options.take,
      readNumber_numeral, if_pos line]
    rfl
  | some c =>
    simp only [Options.takeAll, Option.elim_some, List.foldlM_cons, List.foldlM_nil, Options.take,
      readNumber_numeral, if_pos line, if_pos (behind c rfl)]
    rfl

theorem generate_fault (illegible : ¬(Legible n ∧ ∀ c ∈ column, Legible c)) :
    ∃ message, CommandName.generate.read (lineArgs file n column) = .error (.fault message) := by
  rw [CommandName.read, generate_table_read plain]
  by_cases line : Legible n
  · cases column with
    | none => exact absurd ⟨line, by simp⟩ illegible
    | some c =>
      have behind : ¬Legible c := fun legible => illegible ⟨line, fun d same => by
        cases same
        exact legible⟩
      simp only [Options.takeAll, Option.elim_some, List.foldlM_cons, List.foldlM_nil, Options.take,
        readNumber_numeral, if_pos line, if_neg behind]
      exact ⟨_, rfl⟩
  · simp only [Options.takeAll, List.foldlM_cons, Options.take, readNumber_numeral, if_neg line]
    exact ⟨_, rfl⟩

theorem respond_line (line : Legible n) (behind : ∀ c ∈ column, Legible c) (stamp : Nat → Stamp)
    (d : Disk) : respond stamp ("generate" :: lineArgs file n column) d =
      .outcome ((Command.generate (fileTarget file) (.line (some n) (column.map some)) none).run
        stamp {} d) := by
  simp only [respond, read, mainTable_read plain, List.foldlM_cons, List.foldlM_nil, take_generate,
    generate_read plain line behind]
  rfl

theorem respond_illegible (illegible : ¬(Legible n ∧ ∀ c ∈ column, Legible c))
    (stamp : Nat → Stamp) (d : Disk) :
    ∃ e, respond stamp ("generate" :: lineArgs file n column) d = .usage e := by
  obtain ⟨message, fault⟩ := generate_fault plain illegible
  refine ⟨⟨CommandName.generate.table.program, message⟩, ?_⟩
  simp only [respond, read, mainTable_read plain, List.foldlM_cons, List.foldlM_nil, take_generate,
    fault]
  rfl

end

end CommandLine

/-- The line is there, and the column on it or right behind it. -/
def InRange (t : Text) (n : Int) (column : Option Int) : Prop :=
  1 ≤ n ∧ n ≤ max (splitLines t).length 1 ∧ ∀ c ∈ column,
    1 ≤ c ∧ c ≤ (lineContent ((splitLines t).getD (n - 1).toNat [])).length + 1

theorem length_lineContent_le (l : Text) : (lineContent l).length ≤ l.length := by
  have suffix : l.reverse.dropWhile (fun c => c == '\n' || c == '\r') <:+ l.reverse :=
    List.dropWhile_suffix _
  simpa [lineContent] using suffix.length_le

theorem offsetOfLine_inRange {t : Text} {n : Int} {column : Option Int}
    (h : InRange t n column) : ∃ place, offsetOfLine t n column = .ok place ∧ place ≤ t.length := by
  obtain ⟨low, high, behind⟩ := h
  have fits := length_line_le t (n - 1).toNat
  have short := length_lineContent_le ((splitLines t).getD (n - 1).toNat [])
  rw [offsetOfLine, if_neg (by omega)]
  cases column with
  | none =>
    refine ⟨_, rfl, ?_⟩
    omega
  | some c =>
    obtain ⟨first, last⟩ := behind c rfl
    dsimp only
    rw [if_neg (by omega)]
    refine ⟨_, rfl, ?_⟩
    omega

theorem offsetOfLine_outside {t : Text} {n : Int} {column : Option Int}
    (h : ¬InRange t n column) : ∃ e, offsetOfLine t n column = .error e := by
  rw [offsetOfLine]
  split
  · exact ⟨_, rfl⟩
  · rename_i there
    cases column with
    | none => exact absurd ⟨by omega, by omega, by simp⟩ h
    | some c =>
      dsimp only
      split
      · exact ⟨_, rfl⟩
      · rename_i within
        refine absurd ⟨by omega, by omega, ?_⟩ h
        rintro _ ⟨⟩
        omega

section
variable {target : Target} {d : Disk} {s : Setup} {before : Texts} (stamp : Nat → Stamp)
  (trace : Option Path) (c : Console) {n : Int} {column : Option Int}

theorem Cursor.locate_line (t : Text) (n : Int) (column : Option Int) :
    (Cursor.line (some n) (column.map some)).locate t =
      Cursor.locate.located (offsetOfLine t (if n = 0 then 1 else n) column) := by
  cases column with
  | none => rfl
  | some c => rfl

theorem generate_line {place : Nat} (prepared : target.setup d = .ok s)
    (read : s.read d = .ok before)
    (there : offsetOfLine before.primary (if n = 0 then 1 else n) column = .ok place) :
    generate stamp target (.line (some n) (column.map some)) trace c d =
      generate stamp target (.offset (some place)) trace c d := by
  simp only [generate, Target.begin_eq prepared read, Cursor.locate_line, there]
  rfl

theorem generate_outside {e : CursorError} (prepared : target.setup d = .ok s)
    (read : s.read d = .ok before)
    (outside : offsetOfLine before.primary (if n = 0 then 1 else n) column = .error e) :
    generate stamp target (.line (some n) (column.map some)) trace c d =
      ⟨.exit 1, c.error e.message, d⟩ := by
  simp only [generate, Target.begin_eq prepared read, Cursor.locate_line, outside]
  rfl

end

open CommandLine in
/-- A line and a column act at the offset that they mean, and one that is out of range does nothing
but say so; only line zero is not out of range but the first line. A number with too many digits is
refused before anything is read. -/
theorem line_cursor_acts {file : String} (plain : file.toList.head? ≠ some '-') (n : Int)
    (column : Option Int) (stamp : Nat → Stamp) (d : Disk) :
    ((Legible n ∧ ∀ c ∈ column, Legible c) →
      ∃ o, respond stamp ("generate" :: lineArgs file n column) d = .outcome o ∧
        ∀ s before, (fileTarget file).setup d = .ok s → s.read d = .ok before →
          (InRange before.primary (if n = 0 then 1 else n) column → ∃ place,
            offsetOfLine before.primary (if n = 0 then 1 else n) column = .ok place ∧
            place ≤ before.primary.length ∧
            o = (Command.generate (fileTarget file) (.offset (some place)) none).run stamp {} d) ∧
          (¬InRange before.primary (if n = 0 then 1 else n) column → ∃ e,
            offsetOfLine before.primary (if n = 0 then 1 else n) column = .error e ∧
            o = ⟨.exit 1, ({} : Console).error e.message, d⟩)) ∧
    (¬(Legible n ∧ ∀ c ∈ column, Legible c) →
      ∃ e, respond stamp ("generate" :: lineArgs file n column) d = .usage e) := by
  constructor
  · rintro ⟨line, behind⟩
    refine ⟨_, respond_line plain line behind stamp d, fun s before prepared read => ⟨?_, ?_⟩⟩
    · intro inside
      obtain ⟨place, there, bounded⟩ := offsetOfLine_inRange inside
      exact ⟨place, there, bounded, generate_line stamp none {} prepared read there⟩
    · intro outside
      obtain ⟨e, missed⟩ := offsetOfLine_outside outside
      exact ⟨e, missed, generate_outside stamp none {} prepared read missed⟩
  · intro illegible
    exact respond_illegible plain illegible stamp d

def indentedTexts : Texts :=
  ⟨"// a\n  fn b(&self) \x7b unimplemented!(\"x\"); \x7d\n".toList, "pub enum Call \x7b\x7d".toList⟩

def indentedDisk : Disk :=
  pairDisk (String.ofList indentedTexts.primary) (String.ofList indentedTexts.companion) {}

theorem indented_read : pairSetup.read indentedDisk = .ok indentedTexts := by
  have held : (pairSetup.read indentedDisk).toOption = some indentedTexts := by decide +kernel
  cases found : pairSetup.read indentedDisk with
  | error e =>
    rw [found] at held
    cases held
  | ok texts =>
    rw [found] at held
    exact congrArg Except.ok (Option.some.inj held)

theorem line_cursor_acts_indented :
    (∃ o, respond unstamped ["generate", "x.rs", "--line", "2", "--column", "3"] indentedDisk =
        .outcome o ∧
      o = (Command.generate pairTarget (.offset (some 7)) none).run unstamped {} indentedDisk ∧
      o.ending = .exit 0) ∧
    (∃ o, respond unstamped ["generate", "x.rs", "--line", "-1"] indentedDisk = .outcome o ∧
      o.ending = .exit 1 ∧ o.disk = indentedDisk) ∧
    ∃ e, respond unstamped
      ("generate" :: CommandLine.lineArgs "x.rs" (Nat.pow 10 digitLimit : Nat) none)
      indentedDisk = .usage e := by
  have plain : "x.rs".toList.head? ≠ some '-' := by decide
  refine ⟨?_, ?_, ?_⟩
  · obtain ⟨o, answer, acts⟩ := (line_cursor_acts plain 2 (some 3) unstamped indentedDisk).1
      (by decide +kernel)
    obtain ⟨place, there, _, same⟩ := (acts pairSetup indentedTexts rfl indented_read).1
      (by unfold InRange; decide +kernel)
    have known : offsetOfLine indentedTexts.primary 2 (some 3) = .ok 7 := by decide +kernel
    cases known.symm.trans there
    refine ⟨o, answer, same, ?_⟩
    rw [same]
    exact Ending.eq_exit (by decide +kernel)
  · obtain ⟨o, answer, acts⟩ := (line_cursor_acts plain (-1) none unstamped indentedDisk).1
      (by decide +kernel)
    obtain ⟨e, _, same⟩ := (acts pairSetup indentedTexts rfl indented_read).2
      (by unfold InRange; decide +kernel)
    exact ⟨o, answer, by rw [same], by rw [same]⟩
  · apply (line_cursor_acts plain (Nat.pow 10 digitLimit : Nat) none unstamped indentedDisk).2
    rintro ⟨legible, _⟩
    rw [Legible, Int.natAbs_natCast, Nat.length_toDigits_le_iff (by decide) (by decide)] at legible
    generalize digitLimit = digits at legible
    exact Nat.lt_irrefl _ legible

/-- Line zero is outside of every text, and yet the stub in the first line is converted. -/
theorem line_zero_converts :
    ∃ o, respond unstamped ["generate", "x.rs", "--line", "0"] tracedDisk = .outcome o ∧
      o.ending = .exit 0 ∧ o.disk ≠ tracedDisk ∧
      offsetOfLine oneStub.toList 0 none = .error (.line 0 1) := by
  have accepted : CommandLine.read ["generate", "x.rs", "--line", "0"] =
      .ok (.run false (.generate pairTarget (.line (some 0) none) none)) := by
    decide +kernel
  have changed : ((Command.generate pairTarget (.line (some 0) none) none).run unstamped {}
      tracedDisk).disk.files ≠ tracedDisk.files := by
    decide +kernel
  refine ⟨(Command.generate pairTarget (.line (some 0) none) none).run unstamped {} tracedDisk, ?_,
    Ending.eq_exit (by decide +kernel), fun same => changed (congrArg Disk.files same),
    by decide +kernel⟩
  simp only [respond, accepted]

end RecorderStubs
