/-! Surrogates in texts. A text that was given in units of sixteen bits may hold half of a pair, which is no
character by itself. The half is held as the private character `0x1000` above it, so that texts keep the order of
their code points, and has its own code in quoted text. A text that has such a private character of its own is not
told apart from it. -/
namespace BpfExporter.Text

/-- The halves of pairs. -/
def isSurrogate (code : Nat) : Bool := decide (0xd800 ≤ code) && decide (code ≤ 0xdfff)

/-- The character that holds a code point. -/
def ofCode (code : Nat) : Char := Char.ofNat (if isSurrogate code then 0x1000 + code else code)

/-- The code point that a character holds. -/
def code (c : Char) : Nat :=
  if isSurrogate (c.toNat - 0x1000) then c.toNat - 0x1000 else c.toNat

def holdsSurrogate (c : Char) : Bool := isSurrogate (code c)

def compareChars (a b : String) : Ordering := Ord.compare (a.toList.map Char.toNat) (b.toList.map Char.toNat)

end BpfExporter.Text
