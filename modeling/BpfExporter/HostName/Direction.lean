import BpfExporter.HostName.Letter
import BpfExporter.Text.Mark
import BpfExporter.Text.Quoted

/-! Directions of the international names of hosts. A label with characters that are written from right to
left has one direction throughout, and ends in it. -/
namespace BpfExporter.HostName

inductive Direction
  | left
  | right
  | number
  /-- Digits that only stand in what is written from right to left. -/
  | arabicNumber
  /-- A mark goes with what is before it. -/
  | mark
  | neutral
deriving DecidableEq, Repr

namespace Direction

/-- The characters that are written from right to left, among those that names may have, in intervals that
close over the others. -/
def rightRanges : List (Nat × Nat) := [
  (0x5d0,0x5f4), (0x620,0x64a), (0x66e,0x66f), (0x671,0x6d5), (0x6e5,0x6e6), (0x6ee,0x6ef),
  (0x6fa,0x710), (0x712,0x72f), (0x74d,0x7a5), (0x7b1,0x7ea), (0x7f4,0x7f5), (0x800,0x815),
  (0x81a,0x81a), (0x824,0x824), (0x828,0x828), (0x840,0x858), (0x860,0x88e), (0x8a0,0x8c9),
  (0xfe73,0xfe73), (0x10800,0x10a00), (0x10a10,0x10a35), (0x10a60,0x10ae4), (0x10b00,0x10d23),
  (0x10e80,0x10ea9), (0x10eb0,0x10f45), (0x10f70,0x10f81), (0x10fb0,0x10ff6), (0x1e800,0x1e8c4),
  (0x1e922,0x1e943), (0x1e94b,0x1e959)]

def neutralRanges : List (Nat × Nat) := [
  (0x2d,0x2d), (0xb7,0xb7), (0x2b9,0x2ba), (0x2c6,0x2cf), (0x2ec,0x2ec), (0x375,0x375),
  (0x200c,0x200d), (0x2e2f,0x2e2f), (0x30fb,0x30fb), (0xa67f,0xa67f), (0xa717,0xa71f),
  (0xa788,0xa788)]

/-- The direction of a character that names may have; one that is too new has none. -/
def of? (c : Char) : Option Direction :=
  if isNewer c then none
  else if Text.isNonspacing c then some .mark
  else if Text.inRanges rightRanges c then some .right
  else if Text.inRanges [(0x660,0x669), (0x10d30,0x10d39)] c then some .arabicNumber
  else if Text.inRanges [(0x30,0x39), (0x6f0,0x6f9)] c then some .number
  else if Text.inRanges neutralRanges c then some .neutral
  else some .left

inductive Fault
  | unknown (index : Nat)
  | first
  | misplaced (fromRight : Bool) (index : Nat)
  | mixedNumbers
  | ending
deriving DecidableEq, Repr

def Fault.message (label : List Char) : Fault → String
  | .unknown index =>
    s!"Unknown directionality in label {Text.quoted (String.ofList label)} at position {index + 1}"
  | .first =>
    s!"First codepoint in label {Text.quoted (String.ofList label)} must be directionality L, R or AL"
  | .misplaced fromRight index =>
    let side := if fromRight then "right-to-left" else "left-to-right"
    s!"Invalid direction for codepoint at position {index + 1} in a {side} label"
  | .mixedNumbers => "Can not mix numeral types in a right-to-left label"
  | .ending => "Label ends with illegal codepoint directionality"

/-- What a label in one direction has. -/
def isAllowed (fromRight : Bool) : Direction → Bool
  | .left => !fromRight
  | .right | .arabicNumber => fromRight
  | .number | .mark | .neutral => true

def isEnding (fromRight : Bool) (d : Direction) : Bool :=
  d.isAllowed fromRight && d != .mark && d != .neutral

def isNumber (d : Direction) : Bool := d == .number || d == .arabicNumber

/-- The characters from `index` on, after numbers of one kind; a label from right to left has no others. -/
def checkFrom (fromRight : Bool) (index : Nat) (numbers : Option Direction) :
    List Direction → Except Fault Unit
  | [] => .ok ()
  | d :: ds =>
    if !d.isAllowed fromRight then .error (.misplaced fromRight index)
    else if fromRight && d.isNumber && numbers.any (· != d) then .error .mixedNumbers
    else checkFrom fromRight (index + 1) (if d.isNumber then some d else numbers) ds

def checkAll (ds : List Direction) : Except Fault Unit :=
  let inOne := fun fromRight => match checkFrom fromRight 0 none ds with
    | .error e => .error e
    | .ok () => if (ds.reverse.find? (· != .mark)).any (isEnding fromRight) then .ok () else .error .ending
  if !ds.any fun d => d == .right || d == .arabicNumber then .ok ()
  else match ds.head? with
    | some .right => inOne true
    | some .left => inOne false
    | _ => .error .first

def check (label : List Char) : Except Fault Unit :=
  match label.findIdx? fun c => (of? c).isNone with
  | some index => .error (.unknown index)
  | none => checkAll (label.filterMap of?)

end Direction

end BpfExporter.HostName
