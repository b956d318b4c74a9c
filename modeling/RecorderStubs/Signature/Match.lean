import RecorderStubs.Signature.Declaration

/-! The parts of a declaration, each looked for at an offset of a whole text. The offset is
clamped into the text, but what was consumed is counted from the offset as it was given. -/
namespace RecorderStubs

structure Match (α : Type) where
  consumed : Int
  value : α
deriving Repr

def matchAt (recognise : Text → Option (α × Text)) (t : Text) (offset : Int) : Option (Match α) :=
  (recognise (textFrom t offset)).map (fun (value, rest) => ⟨offsetIn t rest - offset, value⟩)

def headerAt (t : Text) (offset : Int) : Option (Match Text) := matchAt header? t offset

def parameterAt (t : Text) (offset : Int) : Option (Match Parameter) := matchAt parameter? t offset

/-- Without any parameter nothing is consumed. -/
def parametersAt (t : Text) (offset : Int) : Match (List Parameter) :=
  match parameters (textFrom t offset) with
  | ([], _) => ⟨0, []⟩
  | (ps, rest) => ⟨offsetIn t rest - offset, ps⟩

def tailAt (t : Text) (offset : Int) : Option (Match Span) :=
  matchAt
    (fun u => (tail? u).map (fun (body, rest) => (⟨offsetIn t body, offsetIn t rest⟩, rest))) t offset

end RecorderStubs
