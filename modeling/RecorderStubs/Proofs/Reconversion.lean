import RecorderStubs.Proofs.Conversion
import RecorderStubs.Signature.Match

/-! A stub that was converted is not converted again. Header and parameters are read as before,
since they end before the placeholder; where the placeholder stood there is a call, which is never
taken for one. So reading fails, and it fails where the parameters end. -/
namespace RecorderStubs

/-- Header and parameters of a stub are read alike whatever stands behind its opening brace. -/
theorem StubText.read_before {s : Signature} {before placeholder rest t : Text}
    (h : StubText s before placeholder rest t) : ∃ header more opening,
      before = header ++ more ∧ opening.length ≤ more.length ∧ OpeningText opening ∧
      ∀ u, header? (before ++ u) = some (s.name, more ++ u) ∧
        parameters (more ++ u) = (s.parameters, opening ++ u) := by
  obtain ⟨header, a, opening, valid, many, opens, _, rfl, _⟩ := h
  obtain ⟨opening', opens', read⟩ := parameters_append many opens
  refine ⟨header, a ++ opening, opening', by simp, ?_, opens', fun u => ⟨?_, ?_⟩⟩
  · obtain ⟨b, _, split⟩ := parameters_longest (a ++ (opening ++ []))
    have sizes := congrArg List.length split
    rw [read [], List.append_nil, List.append_nil] at sizes
    simp only [List.length_append] at sizes ⊢
    omega
  · apply header?_eq_some.mpr
    refine ⟨header, valid, by simp, ?_⟩
    rw [List.append_assoc]
    exact stops_word_parameters many opens u
  · rw [List.append_assoc]
    exact read u

theorem tail?_call {opening : Text} (h : OpeningText opening) (m : Identifier) (s : Signature)
    (z : Text) : tail? (opening ++ (callText m.text s ++ z)) = none := by
  have opened : opening? (opening ++ (callText m.text s ++ z)) = some (callText m.text s ++ z) :=
    opening?_eq_some.mpr ⟨opening, h, rfl, callText_solid m s z⟩
  have unplaced : placeholder? (callText m.text s ++ z) = none := by
    cases found : placeholder? (callText m.text s ++ z) with
    | none => rfl
    | some rest =>
      obtain ⟨placeholder, placed, same⟩ := placeholder?_eq_some.mp found
      exact absurd same.symm (callText_not_placeholder m s placed rest z)
  simp only [tail?, opened, unplaced, Option.bind_eq_bind, Option.bind_some, Option.bind_none]

theorem textFrom_exchange {a u : Text} {offset : Int} (present : u ≠ [])
    (here : textFrom (a ++ u) offset = u) (v : Text) : textFrom (a ++ v) offset = v := by
  have sizes := congrArg List.length here
  have some := List.length_pos_iff.mpr present
  simp only [textFrom, List.length_drop, List.length_append] at sizes
  have place : offset.toNat = a.length := by omega
  rw [textFrom, place, List.drop_left]

section
variable {a header more opening u name : Text} {offset : Int} {ps : List Parameter}

theorem headerAt_before (here : textFrom (a ++ (header ++ more ++ u)) offset = header ++ more ++ u)
    (read : header? (header ++ more ++ u) = some (name, more ++ u)) :
    headerAt (a ++ (header ++ more ++ u)) offset = some ⟨(a ++ header).length - offset, name⟩ := by
  have place : offsetIn (a ++ (header ++ more ++ u)) (more ++ u) = (a ++ header).length := by
    simp only [offsetIn, List.length_append]
    omega
  simp only [headerAt, matchAt, here, read, Option.map_some, place]

theorem parametersAt_before (short : opening.length ≤ more.length)
    (read : parameters (more ++ u) = (ps, opening ++ u)) (x : Text) :
    parametersAt (x ++ (more ++ u)) x.length = ⟨more.length - opening.length, ps⟩ := by
  have here : textFrom (x ++ (more ++ u)) x.length = more ++ u := by
    rw [textFrom, Int.toNat_natCast, List.drop_left]
  have place : offsetIn (x ++ (more ++ u)) (opening ++ u) =
      x.length + (more.length - opening.length) := by
    simp only [offsetIn, List.length_append]
    omega
  cases ps with
  | nil =>
    -- Without parameters nothing counts as consumed, and the rest is all of the text.
    obtain ⟨b, longest, split⟩ := parameters_longest (more ++ u)
    rw [read] at longest split
    cases longest
    have sizes := congrArg List.length split
    simp only [List.nil_append, List.length_append] at sizes
    simp only [parametersAt, here, read, Match.mk.injEq, and_true]
    omega
  | cons p ps =>
    simp only [parametersAt, here, read, place, Match.mk.injEq, and_true]
    omega

theorem parse_before_call {m : Identifier} {s : Signature} {z : Text}
    (here : textFrom (a ++ (header ++ more ++ (callText m.text s ++ z))) offset =
      header ++ more ++ (callText m.text s ++ z))
    (named : header? (header ++ more ++ (callText m.text s ++ z)) =
      some (name, more ++ (callText m.text s ++ z)))
    (read : parameters (more ++ (callText m.text s ++ z)) =
      (ps, opening ++ (callText m.text s ++ z)))
    (opens : OpeningText opening) (short : opening.length ≤ more.length) :
    parse (a ++ (header ++ more ++ (callText m.text s ++ z))) offset =
      .error (.unexpectedBody name ((a ++ header).length + (more.length - opening.length))) := by
  have place : offsetIn (a ++ (header ++ more ++ (callText m.text s ++ z)))
      (opening ++ (callText m.text s ++ z)) =
        (a ++ header).length + (more.length - opening.length) := by
    simp only [offsetIn, List.length_append]
    omega
  simp only [parse, here, Reading.of, named, read, tail?_call opens, place]

end

/-- Once its placeholder has given way to the call, a stub is read as a method that is no stub: with
the same header and the same parameters, at whose end the body is not the expected one. -/
theorem converted_unread {t : Text} {offset : Int} {d : Declaration}
    (found : parse t offset = .ok d) (m : Identifier) :
    ∃ t' header ps, ∃ q : Nat,
      replaceRegion t d.placeholder.start d.placeholder.stop (callText m.text d.signature) =
        .ok t' ∧
      headerAt t offset = some header ∧ headerAt t' offset = some header ∧
      header.value = d.signature.name ∧
      parametersAt t (offset + header.consumed) = ps ∧
      parametersAt t' (offset + header.consumed) = ps ∧
      ps.value = d.signature.parameters ∧
      (q : Int) = offset + header.consumed + ps.consumed ∧
      parse t' offset = .error (.unexpectedBody d.signature.name q) := by
  obtain ⟨before, placeholder, z, stub, span, _⟩ := parse_eq_ok.mp found
  obtain ⟨header, more, opening, rfl, short, opens, read⟩ := stub.read_before
  have whole : t = t.take (clamp t offset) ++ (header ++ more ++ (placeholder ++ z)) := by
    rw [← stub.split, List.take_append_drop]
  have here := textFrom_eq t offset
  rw [stub.split] at here
  have inside : (t.take (clamp t offset)).length = clamp t offset := by
    rw [List.length_take, clamp]
    omega
  generalize t.take (clamp t offset) = a at whole inside
  rw [← inside, ← List.length_append] at span
  subst whole
  -- Up to the placeholder both texts are read alike.
  obtain ⟨named, listed⟩ := read (placeholder ++ z)
  obtain ⟨named', listed'⟩ := read (callText m.text d.signature ++ z)
  have present : header ++ more ++ (placeholder ++ z) ≠ [] := by
    obtain ⟨v, rfl⟩ := stub.placed.head
    simp [unimplementedCall]
  have there := textFrom_exchange present here
    (header ++ more ++ (callText m.text d.signature ++ z))
  have middle := replaceRegion_middle (a ++ (header ++ more)) placeholder
    (callText m.text d.signature) z
  have behind : ∀ u, a ++ (header ++ more ++ u) = (a ++ header) ++ (more ++ u) := by
    intro u
    simp only [List.append_assoc]
  have past : offset + (((a ++ header).length : Int) - offset) = (a ++ header).length := by omega
  refine ⟨a ++ (header ++ more ++ (callText m.text d.signature ++ z)), _, _, _, ?_,
    headerAt_before here named, headerAt_before there named', rfl, rfl, ?_, ?_, ?_,
    parse_before_call there named' listed' opens short⟩
  · rw [span]
    simpa only [List.append_assoc] using middle
  · dsimp only
    rw [past, behind, behind, parametersAt_before short listed, parametersAt_before short listed']
  · dsimp only
    rw [past, behind, parametersAt_before short listed]
  · dsimp only
    rw [past, behind, parametersAt_before short listed]
    dsimp only
    omega

def commentedStub : Text :=
  "// fn f(&self, a: &mut \t, b: u8 ) -> &mut \x7b unimplemented!( \"\" ) ;".toList

def commentedDeclaration : Declaration :=
  ⟨⟨['f'], [⟨['a'], "&mut".toList⟩, ⟨['b'], "u8".toList⟩]⟩, ⟨44, 66⟩, 3⟩

def unimplementedMacro : Identifier := ⟨"unimplemented".toList, by decide⟩

theorem converted_unread_comment :
    parse commentedStub 3 = .ok commentedDeclaration ∧
    ∃ t', replaceRegion commentedStub 44 66
        (callText unimplementedMacro.text commentedDeclaration.signature) = .ok t' ∧
      parse t' 3 = .error (.unexpectedBody ['f'] 32) := by
  have found : parse commentedStub 3 = .ok commentedDeclaration := by decide +kernel
  obtain ⟨t', header, ps, q, replaced, named, _, _, listed, _, _, place, unread⟩ :=
    converted_unread found unimplementedMacro
  have headed : (headerAt commentedStub 3).map Match.consumed = some 10 := by decide +kernel
  have long : (parametersAt commentedStub (3 + 10)).consumed = 19 := by decide +kernel
  rw [named, Option.map_some, Option.some.injEq] at headed
  rw [headed] at listed place
  rw [listed] at long
  rw [long] at place
  obtain rfl : q = 32 := by omega
  exact ⟨found, t', replaced, unread⟩

end RecorderStubs
