import BpfExporter.Binary64

/-! Points in time, in microseconds since the start of 1970 in UTC, and how an epoch second becomes one.
Dates are those of the Gregorian calendar, extended to the years 1 to 9999. All clocks are aware of their zone: a clock
without one is left out, and so is the difference of two readings of one zone by its wall clock, which is off where
the zone changes its offset in between. -/
namespace BpfExporter

structure Instant where
  micros : Int
deriving DecidableEq, Repr

namespace Instant

/-- The first second of year 1 and the last second of year 9999. -/
def firstSecond : Int := -62135596800

def lastSecond : Int := 253402300799

/-- Why a number of seconds is no instant. -/
inductive EpochError
  /-- The number is not one, or its year is not in 1 to 9999. -/
  | outOfCalendar
  /-- The seconds do not fit 64 bits. -/
  | overflow
  /-- The seconds fit 64 bits, but their year does not fit 32. -/
  | yearOverflow
deriving DecidableEq, Repr

/-- The bounds beyond which the year of a second, counted from 1900, does not fit 32 bits. -/
def firstYearSecond : Int := -67768040609740800

def lastYearSecond : Int := 67768036191676799

/-- The instant `micros` after the epoch, when its second is in range. Seconds above `last` do not fit
64 bits. -/
def ofMicros (last micros : Int) : Except EpochError Instant :=
  let second := Int.fdiv micros 1000000
  if second < -0x8000000000000000 ∨ last < second then .error .overflow
  else if second < firstYearSecond ∨ lastYearSecond < second then .error .yearOverflow
  else if second < firstSecond ∨ lastSecond < second then .error .outOfCalendar
  else .ok ⟨micros⟩

def ofSeconds (n : Int) : Except EpochError Instant := ofMicros 0x7fffffffffffffff (n * 1000000)

/-- The part of a positive quotient after the point, in millionths, as a binary number. -/
def fractionMicros (num den : Nat) : Nat × Nat :=
  match (Binary64.ofRatio false (num % den) den).mul (Binary64.ofRatio false 1000000 1) with
  | .finite _ m e => Binary64.ratio m e
  | _ => (0, 1)

/-- The instant a floating-point number of seconds after the epoch, its fraction rounded to the nearest
microsecond, a half to the even one. The last second of 64 bits is here the number nearest to it, which
is `2 ^ 63`. -/
def ofFloatSeconds : Binary64 → Except EpochError Instant
  | .nan => .error .outOfCalendar
  | .infinite _ => .error .overflow
  | .finite s m e =>
    let (num, den) := Binary64.ratio m e
    let (n, d) := fractionMicros num den
    ofMicros 0x8000000000000000 (Numeral.signed s (num / den * 1000000 + roundDiv n d))

/-- The nanoseconds from `loaded` to `now`, in whole microseconds; none when `loaded` is in the future. -/
def elapsedNanos? (loaded now : Instant) : Option Int :=
  if now.micros < loaded.micros then none else some ((now.micros - loaded.micros) * 1000)

theorem elapsedNanos?_nonneg {loaded now : Instant} {n : Int} (h : elapsedNanos? loaded now = some n) :
    0 ≤ n := by
  unfold elapsedNanos? at h
  split at h <;> simp at h
  omega

end Instant

end BpfExporter
