import BpfExporter.Instant

/-! Texts that denote an instant: a date with a time of day and an optional offset from UTC, a bare date,
or a decimal number of seconds since the epoch. -/
namespace BpfExporter.Instant

/-- Why a text denotes no instant. -/
inductive TextError
  /-- The text has none of the forms, or a part of it is out of range. -/
  | malformed
  /-- The text has a form, but its year is 0. -/
  | yearZero
deriving DecidableEq, Repr

def isLeapYear (y : Nat) : Bool := y % 4 == 0 && (y % 100 != 0 || y % 400 == 0)

def daysInMonth (y m : Nat) : Nat :=
  if m = 2 then (if isLeapYear y then 29 else 28)
  else if m = 4 ∨ m = 6 ∨ m = 9 ∨ m = 11 then 30 else 31

/-- The days from the start of 1970 to a date. Years are counted from March, so that the day added by a
leap year comes last. -/
def daysFromEpoch (y m d : Nat) : Int :=
  let year : Int := if m ≤ 2 then (y : Int) - 1 else y
  let month : Int := ((m : Int) + 9) % 12
  let dayOfYear := (153 * month + 2) / 5 + d - 1
  365 * year + Int.fdiv year 4 - Int.fdiv year 100 + Int.fdiv year 400 + dayOfYear - 719468

structure Date where
  year : Nat
  month : Nat
  day : Nat
deriving DecidableEq, Repr

abbrev DayTime := Nat

def digits2? (a b : Char) : Option Nat :=
  if a.isDigit && b.isDigit then some (Numeral.decimalValue [a, b]) else none

/-- Reads `YYYY-MM-DD`. -/
def readDate? : List Char → Option (Date × List Char)
  | y1 :: y2 :: y3 :: y4 :: '-' :: m1 :: m2 :: '-' :: d1 :: d2 :: cs =>
    if [y1, y2, y3, y4, m1, m2, d1, d2].all Char.isDigit then
      let y := Numeral.decimalValue [y1, y2, y3, y4]
      let m := Numeral.decimalValue [m1, m2]
      let d := Numeral.decimalValue [d1, d2]
      if 1 ≤ m ∧ m ≤ 12 ∧ 1 ≤ d ∧ d ≤ daysInMonth y m then some (⟨y, m, d⟩, cs) else none
    else none
  | _ => none

/-- The digits of a fraction of a second as microseconds; digits after the sixth are dropped. -/
def fractionOfSecond (ds : List Char) : Nat :=
  Numeral.decimalValue (ds.take 6) * Nat.pow 10 (6 - ds.length)

/-- Reads what may follow the minutes: `:SS`, then a point or a comma and digits. -/
def readSeconds? : List Char → Option (Nat × List Char)
  | ':' :: a :: b :: cs =>
    match digits2? a b with
    | none => none
    | some s =>
      if 59 < s then none
      else match cs with
        | p :: rest =>
          if p = '.' || p = ',' then
            let ds := rest.takeWhile Char.isDigit
            if ds.isEmpty then none
            else some (s * 1000000 + fractionOfSecond ds, rest.dropWhile Char.isDigit)
          else some (s * 1000000, cs)
        | [] => some (s * 1000000, cs)
  | ':' :: _ => none
  | cs => some (0, cs)

/-- Reads `HH:MM` and the seconds after it. -/
def readTime? : List Char → Option (DayTime × List Char)
  | h1 :: h2 :: ':' :: m1 :: m2 :: cs =>
    match digits2? h1 h2, digits2? m1 m2 with
    | some h, some m =>
      if 23 < h || 59 < m then none
      else (readSeconds? cs).map fun r => ((h * 60 + m) * 60000000 + r.1, r.2)
    | _, _ => none
  | _ => none

/-- The seconds of an offset `HH:MM` or `HHMM` that stands at the end. -/
def readOffset? : List Char → Option Nat
  | [h1, h2, ':', m1, m2] | [h1, h2, m1, m2] =>
    match digits2? h1 h2, digits2? m1 m2 with
    | some h, some m => if 23 < h || 59 < m then none else some ((h * 60 + m) * 60)
    | _, _ => none
  | _ => none

/-- Reads the zone at the end: none, `Z`, or a signed offset from UTC. -/
def readZone? : List Char → Option Int
  | [] => some 0
  | c :: cs =>
    if c = 'Z' || c = 'z' then (if cs.isEmpty then some 0 else none)
    else if c = '+' then (readOffset? cs).map fun n => (n : Int)
    else if c = '-' || c = '\u2212' then (readOffset? cs).map fun n => -(n : Int)
    else none

def ofDate (date : Date) (time : DayTime) (offset : Int) : Except TextError Instant :=
  if date.year = 0 then .error .yearZero
  else .ok ⟨daysFromEpoch date.year date.month date.day * 86400000000 + time - offset * 1000000⟩

/-- Reads a date and, after `T`, `t`, a space or an underscore, a time of day. -/
def readIso? (cs : List Char) : Option (Except TextError Instant) :=
  match readDate? cs with
  | none => none
  | some (date, []) => some (ofDate date 0 0)
  | some (date, c :: rest) =>
    if c = 'T' || c = 't' || c = ' ' || c = '_' then
      match readTime? rest with
      | none => none
      | some (time, zone) => (readZone? zone).map (ofDate date time)
    else none

/-- Numbers of a magnitude above this count milliseconds, all others seconds. -/
def secondsLimit : Nat := 20000000000

/-- The instant `micros` after the epoch, for years up to 9999. -/
def ofTextMicros (micros : Int) : Except TextError Instant :=
  let second := Int.fdiv micros 1000000
  if second < -62167219200 ∨ lastSecond < second then .error .malformed
  else if second < firstSecond then .error .yearZero
  else .ok ⟨micros⟩

/-- The microseconds of a binary number of seconds, its fraction rounded to the nearest one. -/
def roundedMicros : Binary64 → Int
  | .finite s m e =>
    let (num, den) := Binary64.ratio m e
    let whole := Int.fdiv (Numeral.signed s num) den
    let (n, d) := fractionMicros (Numeral.signed s num - whole * den).toNat den
    whole * 1000000 + (2 * n + d) / (2 * d)
  | _ => 0

/-- The instant of a binary number of seconds, or of milliseconds above the limit. Those are exact up to
the rounding to the nearest microsecond, of two the later. -/
def ofTextNumber : Binary64 → Except TextError Instant
  | .finite s m e =>
    let (num, den) := Binary64.ratio m e
    if secondsLimit * den < num then
      ofTextMicros (Int.fdiv (2000 * Numeral.signed s num + den) (2 * den))
    else ofTextMicros (roundedMicros (.finite s m e))
  | _ => .error .malformed

/-- Reads digits as whole seconds or milliseconds; or a decimal with a point, which may have a power of
ten. -/
def readNumber? (cs : List Char) : Option (Except TextError Instant) :=
  let (negative, body) := Numeral.splitSign cs
  let whole := body.takeWhile Char.isDigit
  let n := Numeral.decimalValue whole
  match body.dropWhile Char.isDigit with
  | [] =>
    if whole.isEmpty then none
    else some (ofTextMicros (Numeral.signed negative (if secondsLimit < n then n * 1000 else n * 1000000)))
  | '.' :: _ => (Decimal.read? cs).map fun x => ofTextNumber (Binary64.ofDecimal x)
  | _ => none

/-- The instant that a text denotes; a text without a zone is in UTC. -/
def ofText (s : String) : Except TextError Instant :=
  match readIso? s.toList with
  | some r => r
  | none => (readNumber? s.toList).getD (.error .malformed)

end BpfExporter.Instant
