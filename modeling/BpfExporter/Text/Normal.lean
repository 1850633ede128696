import BpfExporter.Text.CombiningClass
import BpfExporter.Text.Composition

/-! The composed normal form of text: marks are in the order of their classes, and what can be composed
is. -/
namespace BpfExporter.Text

/-- The characters that have no place in normal form, because it writes others for them. -/
def replacedRanges : List (Nat × Nat) := [
  (0x340,0x341), (0x343,0x344), (0x374,0x374), (0x37e,0x37e), (0x387,0x387), (0x958,0x95f),
  (0x9dc,0x9dd), (0x9df,0x9df), (0xa33,0xa33), (0xa36,0xa36), (0xa59,0xa5b), (0xa5e,0xa5e),
  (0xb5c,0xb5d), (0xf43,0xf43), (0xf4d,0xf4d), (0xf52,0xf52), (0xf57,0xf57), (0xf5c,0xf5c),
  (0xf69,0xf69), (0xf73,0xf73), (0xf75,0xf76), (0xf78,0xf78), (0xf81,0xf81), (0xf93,0xf93),
  (0xf9d,0xf9d), (0xfa2,0xfa2), (0xfa7,0xfa7), (0xfac,0xfac), (0xfb9,0xfb9), (0x1f71,0x1f71),
  (0x1f73,0x1f73), (0x1f75,0x1f75), (0x1f77,0x1f77), (0x1f79,0x1f79), (0x1f7b,0x1f7b),
  (0x1f7d,0x1f7d), (0x1fbb,0x1fbb), (0x1fbe,0x1fbe), (0x1fc9,0x1fc9), (0x1fcb,0x1fcb),
  (0x1fd3,0x1fd3), (0x1fdb,0x1fdb), (0x1fe3,0x1fe3), (0x1feb,0x1feb), (0x1fee,0x1fef),
  (0x1ff9,0x1ff9), (0x1ffb,0x1ffb), (0x1ffd,0x1ffd), (0x2000,0x2001), (0x2126,0x2126),
  (0x212a,0x212b), (0x2329,0x232a), (0x2adc,0x2adc), (0xf900,0xfa0d), (0xfa10,0xfa10),
  (0xfa12,0xfa12), (0xfa15,0xfa1e), (0xfa20,0xfa20), (0xfa22,0xfa22), (0xfa25,0xfa26),
  (0xfa2a,0xfa6d), (0xfa70,0xfad9), (0xfb1d,0xfb1d), (0xfb1f,0xfb1f), (0xfb2a,0xfb36),
  (0xfb38,0xfb3c), (0xfb3e,0xfb3e), (0xfb40,0xfb41), (0xfb43,0xfb44), (0xfb46,0xfb4e),
  (0x1d15e,0x1d164), (0x1d1bb,0x1d1c0), (0x2f800,0x2fa1d)]

def splitAll (cs : List Char) : List Char :=
  cs.flatMap fun c => match split? c with
    | some (a, b) => [a, b]
    | none => [c]

/-- A character is composed three times at most. -/
def decompose (cs : List Char) : List Char := splitAll (splitAll (splitAll cs))

def insertMark (c : Char) : List Char → List Char
  | [] => [c]
  | d :: ds =>
    if 0 < combiningClass d && combiningClass d < combiningClass c then d :: insertMark c ds
    else c :: d :: ds

def orderMarks (cs : List Char) : List Char := cs.foldr insertMark []

/-- Composes the characters after `first` with it. One whose class the last of `marks` reaches, which stand
between them in reverse, is cut off. -/
def composeAfter (first : Char) (marks : List Char) : List Char → List Char
  | [] => first :: marks.reverse
  | c :: cs =>
    let isCut := marks.head?.any fun m => combiningClass c ≤ combiningClass m
    match if isCut then none else compose? first c with
    | some composite => composeAfter composite marks cs
    | none =>
      if combiningClass c = 0 then first :: marks.reverse ++ composeAfter c [] cs
      else composeAfter first (c :: marks) cs

def compose (cs : List Char) : List Char :=
  let marks := cs.takeWhile (combiningClass · != 0)
  match cs.drop marks.length with
  | [] => marks
  | c :: rest => marks ++ composeAfter c [] rest

def isNormal (cs : List Char) : Bool :=
  !cs.any (inRanges replacedRanges) && compose (orderMarks (decompose cs)) == cs

end BpfExporter.Text
