import RecorderStubs.Signature.Declaration

/-! The two texts that record a method: the call its body delegates to, and the enum variant that
carries its parameters. A variant has braces also when it has no fields. -/
namespace RecorderStubs

def separator : Text := [',', ' ']

def callText (macroName : Text) (s : Signature) : Text :=
  macroName ++ ['!', '('] ++ receiverWord ++ ['.'] ++ s.name ++ ['(']
    ++ separator.intercalate s.parameterNames ++ [')', ')']

def fieldText (p : Parameter) : Text := p.name ++ [':', ' '] ++ p.type

def variantText (s : Signature) : Text :=
  List.replicate 4 ' ' ++ s.name ++ [' ', '\x7b', ' ']
    ++ separator.intercalate (s.parameters.map fieldText) ++ [' ', '\x7d', ',', '\n']

end RecorderStubs
