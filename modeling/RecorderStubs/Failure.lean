import RecorderStubs.Signature.Declaration
import RecorderStubs.Text.Position

/-! Failures as they are reported: a kind, a reason, and, for a declaration that cannot be read,
the place. The place is added to the message when both its line and its column are known. -/
namespace RecorderStubs

inductive FailureKind where
  | generation
  | declaration
  | header
  | body
  | recording
  | enumTarget
  | persistence
  | value
  | system
deriving DecidableEq, Repr

namespace FailureKind

def all : List FailureKind :=
  [generation, declaration, header, body, recording, enumTarget, persistence, value, system]

def label : FailureKind → String
  | generation => "StubDelegatorError"
  | declaration => "ParseError"
  | header => "NotAFunctionHeader"
  | body => "UnexpectedBody"
  | recording => "RewriteError"
  | enumTarget => "EnumTargetNotFound"
  | persistence => "PersistFailed"
  | value => "ValueError"
  | system => "OSError"

def ofLabel? (s : String) : Option FailureKind := all.find? (fun k => k.label == s)

def isDeclaration (k : FailureKind) : Bool := [declaration, header, body].contains k
def isRecording (k : FailureKind) : Bool := [recording, enumTarget, persistence].contains k
end FailureKind

structure Place where
  offset : Int
  line : Option Int
  column : Option Int
deriving DecidableEq, Repr

structure Failure where
  kind : FailureKind
  reason : String
  place : Option Place
deriving DecidableEq, Repr

def Failure.message (f : Failure) : String :=
  match f.place with
  | some ⟨_, some line, some column⟩ => f.reason ++ s!" (line {line}, col {column})"
  | _ => f.reason

def Place.of (t : Text) (offset : Int) : Place :=
  let p := positionOf t offset
  ⟨offset, some p.line, some p.column⟩

def ParseError.toFailure (t : Text) : ParseError → Failure
  | .noHeader offset =>
    ⟨.header, "Expected '[unsafe ]fn <name>(&self' at cursor", some (.of t offset)⟩
  | .unexpectedBody name offset =>
    ⟨.body, "Function '" ++ String.ofList name
      ++ "' does not end in an 'unimplemented!(\"...\");' placeholder body", some (.of t offset)⟩

end RecorderStubs
