import BpfExporter.Text.Ranges

/-! Blank characters, and text without the blanks at its ends. Two classes are in use: the Unicode
property White_Space, and that property with the four information separators U+001C to U+001F. -/
namespace BpfExporter.Text

def whiteSpaceRanges : List (Nat × Nat) := [
  (0x9,0xd), (0x20,0x20), (0x85,0x85), (0xa0,0xa0), (0x1680,0x1680), (0x2000,0x200a),
  (0x2028,0x2029), (0x202f,0x202f), (0x205f,0x205f), (0x3000,0x3000)]

def isWhiteSpace (c : Char) : Bool := inRanges whiteSpaceRanges c

def isBlank (c : Char) : Bool := isWhiteSpace c || inRanges [(0x1c,0x1f)] c

/-- What is left between the longest runs of `p` at both ends. -/
def trimBoth (p : Char → Bool) (cs : List Char) : List Char :=
  ((cs.dropWhile p).reverse.dropWhile p).reverse

def strip (s : String) : String := String.ofList (trimBoth isBlank s.toList)

end BpfExporter.Text
