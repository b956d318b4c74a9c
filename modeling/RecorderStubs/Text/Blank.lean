import RecorderStubs.Text.Ranges

/-! Blank characters: the tabs and line ends of ASCII, its four separators, the space, and the
separators of the other scripts. Zero-width characters are not blank. -/
namespace RecorderStubs

def blankRanges : Ranges := [
  (0x9, 0xd), (0x1c, 0x20), (0x85, 0x85), (0xa0, 0xa0), (0x1680, 0x1680), (0x2000, 0x200a),
  (0x2028, 0x2029), (0x202f, 0x202f), (0x205f, 0x205f), (0x3000, 0x3000)]

def isBlank (c : Char) : Bool := blankRanges.mem c.toNat

def trimStart (t : List Char) : List Char := t.dropWhile isBlank
def trimEnd (t : List Char) : List Char := (t.reverse.dropWhile isBlank).reverse
def trim (t : List Char) : List Char := trimEnd (trimStart t)

end RecorderStubs
