import BpfExporter.Text.Blank
import BpfExporter.Text.Digit

/-! Integers written in digits. Strict numerals hold ASCII digits alone and are refused above a fixed
length; canonical numerals are strict ones without needless zeros, so that every integer has one; lenient
numerals admit white space around, a sign, digits of any script and single underscores between digits. -/
namespace BpfExporter.Numeral

def value (base : Nat) (digit : Char → Nat) (cs : List Char) : Nat :=
  cs.foldl (fun n c => base * n + digit c) 0

def decimalDigit (c : Char) : Nat := c.toNat - 48

def decimalValue (cs : List Char) : Nat := value 10 decimalDigit cs

/-- No numeral of more digits is converted to an integer. -/
def maxDigits : Nat := 4300

/-- A numeral of `count` digits, which is above `maxDigits`. -/
structure TooLong where
  count : Nat
deriving DecidableEq, Repr

/-- What is said of an integer of too many digits, with what was found. -/
def limitMessage (found : String) : String :=
  s!"Exceeds the limit ({maxDigits} digits) for integer string conversion{found}" ++
    "; use sys.set_int_max_str_digits() to increase the limit"

def TooLong.message (e : TooLong) : String := limitMessage s!": value has {e.count} digits"

/-- The digits of an integer, no more than `maxDigits`. -/
def write? (n : Int) : Option String :=
  let digits := toString n.natAbs
  if digits.length ≤ maxDigits then some (if n < 0 then "-" ++ digits else digits) else none

def readNat (cs : List Char) : Except TooLong Nat :=
  if cs.length ≤ maxDigits then .ok (decimalValue cs) else .error ⟨cs.length⟩

/-- A sign, if there is one, and what follows it. -/
def splitSign : List Char → Bool × List Char
  | '-' :: cs => (true, cs)
  | '+' :: cs => (false, cs)
  | cs => (false, cs)

def signed (negative : Bool) (n : Nat) : Int := if negative then -(n : Int) else n

def isSigned (cs : List Char) : Bool :=
  let digits := (splitSign cs).2
  !digits.isEmpty && digits.all Char.isDigit

/-- The value of a text that is `isSigned`. -/
def readSigned (cs : List Char) : Except TooLong Int :=
  (readNat (splitSign cs).2).map (signed (splitSign cs).1)

/-- Why a text is no canonical numeral. -/
inductive CanonicalError
  | malformed
  | tooLong
deriving DecidableEq, Repr

def isNonzeroDigit (c : Char) : Bool := c.isDigit && c != '0'

/-- A minus in front, if there is one, and what follows it. -/
def splitMinus : List Char → Bool × List Char
  | '-' :: cs => (true, cs)
  | cs => (false, cs)

/-- Reads an optional minus, then `0` alone or digits of which the first is not `0`. More than `maxDigits`
digits in front are refused for their length, whatever follows. -/
def readCanonical (cs : List Char) : Except CanonicalError Int :=
  let (negative, body) := splitMinus cs
  let digits := body.takeWhile Char.isDigit
  if body = ['0'] then .ok 0
  else if !body.head?.any isNonzeroDigit then .error .malformed
  else if maxDigits < digits.length then .error .tooLong
  else if digits.length < body.length then .error .malformed
  else .ok (signed negative (decimalValue digits))

/-- The digits of a group in which single underscores may stand between two digits. -/
def ungroup (isDigit : Char → Bool) : List Char → Option (List Char)
  | [] => none
  | [c] => if isDigit c then some [c] else none
  | c :: '_' :: cs => if isDigit c then (ungroup isDigit cs).map (c :: ·) else none
  | c :: cs => if isDigit c then (ungroup isDigit cs).map (c :: ·) else none

def isHexDigit (c : Char) : Bool :=
  c.isDigit || (decide ('a' ≤ c) && decide (c ≤ 'f')) || (decide ('A' ≤ c) && decide (c ≤ 'F'))

def hexDigitValue (c : Char) : Nat :=
  if c.isDigit then c.toNat - 48 else if c.toNat < 97 then c.toNat - 55 else c.toNat - 87

/-- The text without white space around it and with ASCII digits in place of those of other scripts. -/
def plainDigits (s : String) : List Char :=
  (Text.trimBoth Text.isWhiteSpace s.toList).map Text.asciiDigit

/-- The text without its underscores, each of which has to stand between two digits. -/
def dropUnderscores? : List Char → Option (List Char)
  | [] => some []
  | '_' :: _ => none
  | c :: '_' :: d :: cs =>
    if c.isDigit && d.isDigit then (dropUnderscores? (d :: cs)).map (c :: ·) else none
  | c :: cs => (dropUnderscores? cs).map (c :: ·)

/-- A lenient decimal numeral of at most `maxDigits` digits. -/
def readLenient? (s : String) : Option Int :=
  let (negative, cs) := splitSign (plainDigits s)
  match ungroup Char.isDigit cs with
  | some ds => (readNat ds).toOption.map (signed negative)
  | none => none

/-- What follows the mark `0x` and one underscore, where they stand in front. -/
def dropHexMark : List Char → List Char
  | '0' :: x :: cs =>
    if x = 'x' || x = 'X' then
      match cs with
      | '_' :: ds => ds
      | ds => ds
    else '0' :: x :: cs
  | cs => cs

/-- A lenient hexadecimal numeral, with or without the mark `0x`. -/
def readHex? (s : String) : Option Int :=
  let (negative, cs) := splitSign (plainDigits s)
  (ungroup isHexDigit (dropHexMark cs)).map fun ds => signed negative (value 16 hexDigitValue ds)

end BpfExporter.Numeral
