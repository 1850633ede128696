import BpfExporter.HostName.Direction

/-! What is wrong with an international name of a host. -/
namespace BpfExporter.HostName

/-- A character in a label. -/
structure Place where
  label : List Char
  index : Nat
  char : Char
deriving DecidableEq, Repr

namespace Place

/-- The code point of the character, in four digits or more. -/
def code (p : Place) : String :=
  let n := Text.code p.char
  let width := if n < 0x10000 then 4 else if n < 0x100000 then 5 else 6
  String.ofList ('U' :: '+' :: (Text.hexDigits width n).map Char.toUpper)

def shown (p : Place) : String := Text.quoted (String.ofList p.label)

end Place

inductive Fault
  | longName
  | longLabel
  | emptyLabel
  /-- A label in ASCII has nothing after the mark that others stand in it. -/
  | noContent
  /-- A label in ASCII has the mark, and a hyphen at its end. -/
  | unfinished
  /-- A label in ASCII has the mark, and stands for no label. -/
  | unreadable
  | notNormal
  /-- Hyphens are third and fourth. -/
  | hyphens
  /-- A hyphen is first or last. -/
  | outerHyphen
  | firstMark
  | joiner (p : Place)
  /-- The character needs others beside it. -/
  | context (p : Place)
  | character (p : Place)
  | direction (label : List Char) (e : Direction.Fault)
deriving DecidableEq, Repr

def Fault.message : Fault → String
  | .longName => "Domain too long"
  | .longLabel => "Label too long"
  | .emptyLabel => "Empty Label"
  | .noContent => "Malformed A-label, no Punycode eligible content found"
  | .unfinished => "A-label must not end with a hyphen"
  | .unreadable => "Invalid A-label"
  | .notNormal => "Label must be in Normalization Form C"
  | .hyphens => "Label has disallowed hyphens in 3rd and 4th position"
  | .outerHyphen => "Label must not start or end with a hyphen"
  | .firstMark => "Label begins with an illegal combining character"
  | .joiner p => s!"Unknown codepoint adjacent to joiner {p.code} at position {p.index + 1} in {p.shown}"
  | .context p => s!"Codepoint {p.code} not allowed at position {p.index + 1} in {p.shown}"
  | .character p => s!"Codepoint {p.code} at position {p.index + 1} of {p.shown} not allowed"
  | .direction label e => e.message label

end BpfExporter.HostName
