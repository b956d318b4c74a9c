import RecorderStubs.Proofs.Delivery

/-! What a generating command leaves alone. Texts are read with their line ends unified and written
as they then are; so of both files all bytes outside the edits are kept, except that every line end
has become a newline. No other file changes. -/
namespace RecorderStubs

theorem unifyNewlines_split {raw x y : Text} (h : unifyNewlines raw = x ++ y) :
    ∃ a b, raw = a ++ b ∧ unifyNewlines a = x ∧ unifyNewlines b = y := by
  fun_induction unifyNewlines raw generalizing x with
  | case1 =>
    obtain ⟨rfl, rfl⟩ := List.append_eq_nil_iff.mp h.symm
    exact ⟨[], [], rfl, rfl, rfl⟩
  | case2 raw ih =>
    cases x with
    | nil => exact ⟨[], '\r' :: '\n' :: raw, rfl, rfl, by rw [← h.trans (List.nil_append y)]; rfl⟩
    | cons c x =>
      obtain ⟨rfl, behind⟩ := List.cons.inj h
      obtain ⟨a, b, rfl, rfl, last⟩ := ih behind
      exact ⟨'\r' :: '\n' :: a, b, rfl, rfl, last⟩
  | case3 c raw alone ih =>
    cases x with
    | nil => exact ⟨[], c :: raw, rfl, rfl, by rw [unifyNewlines, h]; rfl; exact alone⟩
    | cons d x =>
      obtain ⟨rfl, behind⟩ := List.cons.inj h
      obtain ⟨a, b, rfl, rfl, last⟩ := ih behind
      refine ⟨c :: a, b, rfl, ?_, last⟩
      rw [unifyNewlines]
      intro u rfl same
      exact alone (u ++ b) rfl (by rw [same]; rfl)

/-- `after` has the bytes of `before`, handed on by `keep`, but for some parts: where a text `old`
was read, there is now the text `new`. -/
inductive Rewrites (keep : Bytes → Bytes) : List (Text × Text) → Bytes → Bytes → Prop where
  | rest (kept : Bytes) : Rewrites keep [] kept (keep kept)
  | part {edits : List (Text × Text)} {before after part : Bytes} {old : Text} (kept : Bytes)
      (read : unifyLineEnds part = encodeUtf8 old) (new : Text)
      (behind : Rewrites keep edits before after) :
      Rewrites keep ((old, new) :: edits) (kept ++ (part ++ before))
        (keep kept ++ (encodeUtf8 new ++ after))

/-- What edits cut out of a text, and what they put there. -/
def exchanges (t : Text) (edits : List (Span × Text)) : List (Text × Text) :=
  edits.map fun e => (e.1.cut t, e.2)

theorem rewrites_substituteFrom {t raw : Text} {offset : Nat} {edits : List (Span × Text)}
    (inside : ∀ e ∈ edits, offset ≤ e.1.start ∧ e.1.start ≤ e.1.stop ∧ e.1.stop ≤ t.length)
    (order : edits.Pairwise (fun e f => e.1.stop ≤ f.1.start))
    (read : unifyNewlines raw = t.drop offset) :
    Rewrites unifyLineEnds (exchanges t edits) (encodeUtf8 raw)
      (encodeUtf8 (substituteFrom offset edits (t.drop offset))) := by
  induction edits generalizing offset raw with
  | nil =>
    have whole : Rewrites unifyLineEnds [] (encodeUtf8 raw) (unifyLineEnds (encodeUtf8 raw)) :=
      .rest (encodeUtf8 raw)
    rw [unifyLineEnds_encode, read] at whole
    exact whole
  | cons e edits ih =>
    obtain ⟨span, new⟩ := e
    obtain ⟨low, proper, high⟩ : offset ≤ span.start ∧ span.start ≤ span.stop ∧
      span.stop ≤ t.length := inside (span, new) (List.mem_cons_self ..)
    obtain ⟨later, order⟩ := List.pairwise_cons.mp order
    have before : (t.drop offset).take (span.start - offset) = (t.take span.start).drop offset :=
      List.drop_take.symm
    have behind : (t.drop offset).drop (span.stop - offset) = t.drop span.stop := by
      rw [List.drop_drop, Nat.add_sub_cancel' (Nat.le_trans low proper)]
    have split : t.drop offset =
        (t.take span.start).drop offset ++ (span.cut t ++ t.drop span.stop) := by
      have reach : offset ≤ (t.take span.start).length := by
        rw [List.length_take]
        omega
      rw [← List.drop_append_of_le_length reach, ← Span.split proper t]
    -- Every part of the text was read from a part of the file.
    obtain ⟨a, rest, rfl, first, read⟩ := unifyNewlines_split (read.trans split)
    obtain ⟨b, rest, rfl, cut, read⟩ := unifyNewlines_split read
    have further : ∀ f ∈ edits, span.stop ≤ f.1.start ∧ f.1.start ≤ f.1.stop ∧
        f.1.stop ≤ t.length := by
      intro f member
      exact ⟨later f member, (inside f (List.mem_cons_of_mem _ member)).2⟩
    have part : unifyLineEnds (encodeUtf8 b) = encodeUtf8 (span.cut t) := by
      rw [unifyLineEnds_encode, cut]
    have step := Rewrites.part (encodeUtf8 a) part new (ih further order read)
    rw [unifyLineEnds_encode, first] at step
    simp only [substituteFrom, before, behind, encodeUtf8_append, List.append_assoc]
    exact step

theorem rewrites_substitute {raw : Text} {edits : List (Span × Text)}
    (apart : Apart (unifyNewlines raw).length edits) :
    Rewrites unifyLineEnds (exchanges (unifyNewlines raw) edits) (encodeUtf8 raw)
      (encodeUtf8 (substitute edits (unifyNewlines raw))) := by
  apply rewrites_substituteFrom
  · intro e member
    exact ⟨Nat.zero_le _, apart.1 e member⟩
  · exact apart.2
  · exact List.drop_zero.symm

/-- Without carriage returns every byte outside the edits is kept. -/
theorem Rewrites.exact {edits : List (Text × Text)} {before after : Bytes}
    (h : Rewrites unifyLineEnds edits before after) (free : 13 ∉ before) :
    Rewrites id edits before after := by
  induction h with
  | rest kept =>
    rw [unifyLineEnds_of_not_mem free]
    exact .rest kept
  | part kept read new _ ih =>
    simp only [List.mem_append, not_or] at free
    rw [unifyLineEnds_of_not_mem free.1]
    exact .part kept read new (ih free.2.2)

/-- Of a file only the edits have changed, except that its line ends are now newlines. -/
def KeptOutside (edits : List (Text × Text)) (before after : Bytes) : Prop :=
  Rewrites unifyLineEnds edits before after ∧ (13 ∉ before → Rewrites id edits before after)

/-- What a command leaves alone that converts declarations. -/
structure Framed (s : Setup) (before : Texts) (xs : List Declaration) (d after : Disk) : Prop where
  input : ∃ bytes bytes', d.read s.input = .ok bytes ∧ after.read s.input = .ok bytes' ∧
    KeptOutside (exchanges before.primary (callEdits s.settings.macroName xs)) bytes bytes'
  companion : ∃ bytes bytes' slot, d.read s.companion = .ok bytes ∧
    after.read s.companion = .ok bytes' ∧
    enumSlot before.companion s.settings.enumName.text = .ok slot ∧
    KeptOutside [([], variantLines before.companion slot (xs.map Declaration.signature))] bytes
      bytes'
  others : ∀ l, d.locate s.input ≠ .ok l → d.locate s.companion ≠ .ok l →
    after.node? l = d.node? l
  paths : ∀ p, after.locate p = d.locate p

theorem keptOutside_of_readText {d : Disk} {p : Path} {t : Text} (read : d.readText p .utf8 = .ok t)
    {edits : List (Span × Text)} (apart : Apart t.length edits) :
    ∃ bytes, d.read p = .ok bytes ∧
      KeptOutside (exchanges t edits) bytes (encodeUtf8 (substitute edits t)) := by
  obtain ⟨l, access, raw, file, readable, rfl⟩ := Disk.fileAt_of_readText read
  have rewrites := rewrites_substitute apart
  exact ⟨encodeUtf8 raw, file.read readable, rewrites, rewrites.exact⟩

theorem withVariants_substitute {t : Text} {offset : Nat} {ss : List Signature}
    (nonempty : ss ≠ []) : withVariants t offset ss =
      substitute [(⟨offset, offset⟩, variantLines t offset ss)] t := by
  simp only [withVariants_eq nonempty, substitute, substituteFrom, Nat.sub_zero, List.append_assoc]

theorem Setup.written_others {s : Setup} {d disk : Disk} {before after : Texts}
    (read : s.read d = .ok before) (wrote : s.write after d = (.ok (), disk)) :
    (∀ l, d.locate s.input ≠ .ok l → d.locate s.companion ≠ .ok l → disk.node? l = d.node? l) ∧
      ∀ p, disk.locate p = d.locate p := by
  obtain ⟨l, m, bytes, other, access, access', input, companion, _, _⟩ := Setup.files read
  obtain rfl := Setup.write_done input companion wrote
  constructor
  · intro place elsewhere elsewhere'
    have first : place ≠ l := by
      rintro rfl
      exact elsewhere input.place
    have second : place ≠ m := by
      rintro rfl
      exact elsewhere' companion.place
    rw [Disk.node?_overwrite, if_neg first, Disk.node?_overwrite, if_neg second]
  · intro p
    rw [Disk.locate_overwrite, Disk.locate_overwrite]

theorem Planned.framed {command : Command} {target : Target} {d disk : Disk} {p : Plan}
    (planned : Planned command target d p) (wrote : p.setup.write p.after d = (.ok (), disk))
    (apart : d.locate p.setup.input ≠ d.locate p.setup.companion) :
    Framed p.setup p.before (command.declarations p.before.primary) d disk := by
  obtain ⟨primary, companion⟩ := Setup.read_ok planned.read
  obtain ⟨input, elsewhere, _⟩ := Setup.written_read planned.read wrote
  have other := elsewhere apart
  have calls := command.declarations_apart p.before.primary p.setup.settings.macroName
  have slot : Apart p.before.companion.length
      [(⟨p.slot, p.slot⟩, variantLines p.before.companion p.slot
        (p.converted.map Declaration.signature))] := by
    have bounds := (enumSlot_bounds planned.slot).2
    exact ⟨by simpa using bounds, by simp⟩
  have nonempty : p.converted.map Declaration.signature ≠ [] := by
    simpa using planned.nonempty
  have inserted : p.after.companion = substitute _ p.before.companion :=
    withVariants_substitute nonempty
  rw [inserted] at other
  rw [← planned.converted] at calls ⊢
  obtain ⟨bytes, old, kept⟩ := keptOutside_of_readText primary calls
  obtain ⟨bytes', old', kept'⟩ := keptOutside_of_readText companion slot
  have nothing : Span.cut ⟨p.slot, p.slot⟩ p.before.companion = [] := by
    simp [Span.cut]
  simp only [exchanges, List.map_cons, List.map_nil, nothing] at kept'
  obtain ⟨others, paths⟩ := Setup.written_others planned.read wrote
  exact ⟨⟨bytes, _, old, input, kept⟩, ⟨bytes', _, p.slot, old', other, planned.slot, kept'⟩,
    others, paths⟩

/-- A command that succeeds changes nothing outside its edits but the line ends of its two files;
and nothing at all if it has nothing to convert. -/
theorem success_keeps_rest {command : Command} {target : Target}
    (untraced : command.untraced? = some target) (real : target.dryRun = false)
    (stamp : Nat → Stamp) (c : Console) (d : Disk)
    (succeeded : (command.run stamp c d).ending = .exit 0) :
    ∃ s before, target.setup d = .ok s ∧ s.read d = .ok before ∧
      (command.declarations before.primary = [] → (command.run stamp c d).disk = d) ∧
      (command.declarations before.primary ≠ [] → d.locate s.input ≠ d.locate s.companion →
        Framed s before (command.declarations before.primary) d (command.run stamp c d).disk) := by
  cases run_concluded stamp c untraced d with
  | stopped ending => exact absurd succeeded ending
  | idle prepared read nothing _ disk =>
    exact ⟨_, _, prepared, read, fun _ => disk, fun some => absurd nothing some⟩
  | shown _ dry => cases real.symm.trans dry
  | refused _ _ _ ending => cases succeeded.symm.trans ending
  | @written p planned _ wrote =>
    refine ⟨p.setup, p.before, planned.setup, planned.read, fun nothing => ?_, fun _ => ?_⟩
    · exact absurd (planned.converted.trans nothing) planned.nonempty
    · exact planned.framed wrote

def returnRun : Disk × Outcome :=
  let d := pairDisk "fn a(&self) \x7b unimplemented!(\"x\"); \x7d\r\n" "pub enum Call \x7b\n\x7d\n" {}
  (d, (Command.generate pairTarget (.line (some 1) none) none).run unstamped {} d)

theorem success_keeps_rest_return :
    returnRun.2.ending = .exit 0 ∧
    Framed pairSetup ⟨oneStub.toList, "pub enum Call \x7b\n\x7d\n".toList⟩
      ((Command.generate pairTarget (.line (some 1) none) none).declarations oneStub.toList)
      returnRun.1 returnRun.2.disk := by
  have succeeded : returnRun.2.ending = .exit 0 := Ending.eq_exit (by decide +kernel)
  obtain ⟨s, before, prepared, read, _, framed⟩ :=
    @success_keeps_rest (.generate pairTarget (.line (some 1) none) none) pairTarget rfl rfl unstamped
      {} returnRun.1 succeeded
  obtain ⟨rfl, rfl⟩ := pair_prepared ⟨oneStub.toList, "pub enum Call \x7b\n\x7d\n".toList⟩ rfl
    (by decide +kernel) prepared read
  exact ⟨succeeded, framed (by decide +kernel) (by decide +kernel)⟩

/-- Where all bytes outside the edits are kept, and the edits take no line end away, no carriage
return is lost. -/
theorem Rewrites.returns {edits : List (Text × Text)} {before after : Bytes}
    (h : Rewrites id edits before after) (lines : ∀ e ∈ edits, '\n' ∉ e.1) :
    before.count 13 ≤ after.count 13 := by
  induction h with
  | rest kept => exact Nat.le_refl _
  | @part _ _ _ bytes _ kept read new _ ih =>
    obtain ⟨old, others⟩ := List.forall_mem_cons.mp lines
    have rest := ih others
    have free : 13 ∉ bytes := by
      intro member
      have newline := newline_of_return member
      rw [read] at newline
      exact old (newline_of_byte newline)
    simp only [List.count_append, List.count_eq_zero_of_not_mem free, id]
    omega

/-- The carriage return outside the edit is lost. -/
theorem line_end_not_kept :
    returnRun.2.ending = .exit 0 ∧
    ∃ bytes bytes', returnRun.1.read pairTarget.input = .ok bytes ∧
      returnRun.2.disk.read pairTarget.input = .ok bytes' ∧
      ¬Rewrites id [("unimplemented!(\"x\");".toList, "simple!(self.a())".toList)] bytes bytes' := by
  refine ⟨Ending.eq_exit (by decide +kernel),
    encodeUtf8 "fn a(&self) \x7b unimplemented!(\"x\"); \x7d\r\n".toList,
    encodeUtf8 "fn a(&self) \x7b simple!(self.a()) \x7d\n".toList, by decide +kernel,
    by decide +kernel, ?_⟩
  intro kept
  have returns := kept.returns (by decide)
  revert returns
  decide +kernel

end RecorderStubs
