import BpfExporter.Binary64.Shortest

/-! Decimal text with a fixed count of places after the point: the exact value rounded to the last
place, a half to the even digit. -/
namespace BpfExporter.Binary64

/-- The digits of `n`, at least `width` of them. -/
def paddedDigits (width n : Nat) : List Char :=
  let digits := Nat.toDigits 10 n
  List.replicate (width - digits.length) '0' ++ digits

/-- The magnitude `num / den` with one place after the point or more. -/
def fixedDigits (places num den : Nat) : List Char :=
  let digits := paddedDigits (places + 1) (roundDiv (num * Nat.pow 10 places) den)
  let n := digits.length - places
  digits.take n ++ '.' :: digits.drop n

def fixed (places : Nat) : Binary64 → String
  | .nan => "nan"
  | .infinite s => String.ofList (sign s ++ ['i', 'n', 'f'])
  | .finite s m e =>
    let (num, den) := ratio m e
    String.ofList (sign s ++ fixedDigits places num den)

end BpfExporter.Binary64
