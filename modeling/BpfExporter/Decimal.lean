import BpfExporter.Numeral

/-! Decimal numbers in scientific form, and the texts that denote them: digits with an optional point
among or around them, then an optional power of ten. -/
namespace BpfExporter

/-- The number `coefficient * 10 ^ exponent`, negated where `negative`. -/
structure Decimal where
  negative : Bool
  coefficient : Nat
  exponent : Int
deriving DecidableEq, Repr

namespace Decimal

/-- The power of ten after the digits: nothing, or `e` or `E` and a signed run of digits. -/
def readExponent? : List Char → Option Int
  | [] => some 0
  | c :: cs =>
    if c = 'e' || c = 'E' then
      let (negative, ds) := Numeral.splitSign cs
      if ds.isEmpty || !ds.all Char.isDigit then none
      else some (Numeral.signed negative (Numeral.decimalValue ds))
    else none

def splitFraction : List Char → List Char × List Char
  | '.' :: cs => (cs.takeWhile Char.isDigit, cs.dropWhile Char.isDigit)
  | cs => ([], cs)

/-- Reads `[+-] digits [. digits] [e [+-] digits]`, with a digit before or after the point. -/
def read? (cs : List Char) : Option Decimal :=
  let (negative, cs) := Numeral.splitSign cs
  let whole := cs.takeWhile Char.isDigit
  let (fraction, rest) := splitFraction (cs.dropWhile Char.isDigit)
  if whole.isEmpty && fraction.isEmpty then none
  else (readExponent? rest).map fun e =>
    ⟨negative, Numeral.decimalValue (whole ++ fraction), e - fraction.length⟩

end Decimal

end BpfExporter
