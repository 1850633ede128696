import BpfExporter.Binary64

/-! The shortest decimal text of a binary floating-point number: the fewest digits that read back as the
number, and of those the nearest ones. -/
namespace BpfExporter.Binary64

/-- The power `k` of ten with `10 ^ (k - 1) ≤ num / den < 10 ^ k`, for a positive quotient. -/
def decimalTop (num den : Nat) : Int :=
  let k : Int := ((Nat.toDigits 10 num).length : Int) - (Nat.toDigits 10 den).length
  if num * Nat.pow 10 (-k).toNat < den * Nat.pow 10 k.toNat then k else k + 1

/-- Of the two multiples of `10 ^ (-places)` next to a positive number, the nearer one that rounds to
the number, a tie to the even one; none where neither rounds to it. Quarters of the mantissa's unit
bound what rounds to it, the bounds included for an even mantissa; below a power of two the lower bound
is half as far. -/
def onGrid? (mantissa : Nat) (exponent places : Int) : Option Nat :=
  let mid := 4 * mantissa
  let low := mid - (if mantissa = Nat.pow 2 52 ∧ minExponent < exponent then 1 else 2)
  let high := mid + 2
  let unit := Nat.pow 2 (exponent - 2).toNat * Nat.pow 10 places.toNat
  let step := Nat.pow 10 (-places).toNat * Nat.pow 2 (2 - exponent).toNat
  let below := mid * unit / step
  let inside (c : Nat) : Bool :=
    if mantissa % 2 = 0 then decide (low * unit ≤ c * step) && decide (c * step ≤ high * unit)
    else decide (low * unit < c * step) && decide (c * step < high * unit)
  let down := mid * unit - below * step
  let up := (below + 1) * step - mid * unit
  match inside below, inside (below + 1) with
  | true, false => some below
  | false, true => some (below + 1)
  | false, false => none
  | true, true =>
    if down < up then some below
    else if up < down then some (below + 1)
    else some (below + below % 2)

/-- Digits and the place of the point before them: `0.d₁d₂… * 10 ^ point`. -/
def shortestDigits (mantissa : Nat) (exponent : Int) : List Char × Int :=
  let (num, den) := ratio mantissa exponent
  let top := decimalTop num den
  let found := (List.range 17).findSome? fun (i : Nat) =>
    let places : Int := i + 1 - top
    (onGrid? mantissa exponent places).map fun c => (c, places)
  match found with
  | none => ([], 0)
  | some (c, places) =>
    let digits := Nat.toDigits 10 c
    ((digits.reverse.dropWhile (· == '0')).reverse, digits.length - places)

def exponentText (e : Int) : List Char :=
  let digits := Nat.toDigits 10 e.natAbs
  'e' :: (if e < 0 then '-' else '+') :: (if digits.length < 2 then '0' :: digits else digits)

/-- Positional from `0.0001` to below `10 ^ 16`, with a digit on each side of the point; else one digit
before the point and a power of ten of two digits or more. -/
def layout (digits : List Char) (point : Int) : List Char :=
  if point < -3 ∨ 16 < point then
    match digits with
    | [] => []
    | [d] => d :: exponentText (point - 1)
    | d :: ds => d :: '.' :: ds ++ exponentText (point - 1)
  else if point ≤ 0 then '0' :: '.' :: (List.replicate (-point).toNat '0' ++ digits)
  else
    let n := point.toNat
    let fraction := digits.drop n
    digits.take n ++ List.replicate (n - digits.length) '0' ++
      '.' :: (if fraction.isEmpty then ['0'] else fraction)

def sign (negative : Bool) : List Char := if negative then ['-'] else []

def shortest : Binary64 → String
  | .nan => "nan"
  | .infinite s => String.ofList (sign s ++ ['i', 'n', 'f'])
  | .finite s m e =>
    if m = 0 then String.ofList (sign s ++ ['0', '.', '0'])
    else
      let (digits, point) := shortestDigits m e
      String.ofList (sign s ++ layout digits point)

end BpfExporter.Binary64
