import BpfExporter.Text.Surrogate

/-! Text in ASCII letters, digits and hyphens. The ASCII characters come first; the others follow in the
order of their code points, each as the distance from the one before, counted over code points and places.
A distance is written in digits of base 36, whose weights adapt to the distances so far. -/
namespace BpfExporter.Text.Punycode

def digit (n : Nat) : Char := Char.ofNat (if n < 26 then 97 + n else 22 + n)

def digitValue? (c : Char) : Option Nat :=
  if c.isAlpha then some (c.toLower.toNat - 97) else if c.isDigit then some (c.toNat - 22) else none

/-- What a digit at this place must reach if another is to follow. -/
def threshold (bias place : Nat) : Nat := max 1 (min 26 (place - bias))

theorem threshold_pos (bias place : Nat) : 0 < threshold bias place := by
  simp only [threshold]
  omega

/-- A distance from its least digit on; places go up by 36. -/
def distance (bias place n : Nat) : List Char :=
  let t := threshold bias place
  if n < t then [digit n]
  else digit (t + (n - t) % (36 - t)) :: distance bias (place + 36) ((n - t) / (36 - t))
termination_by n
decreasing_by
  have hpos := threshold_pos bias place
  have hle := Nat.div_le_self (n - threshold bias place) (36 - threshold bias place)
  omega

def scale (n place : Nat) : Nat × Nat :=
  if 455 < n then scale (n / 35) (place + 36) else (n, place)
termination_by n

/-- The bias after a distance, the first of which counts for little; `count` characters are written. -/
def adapt (n count : Nat) (isFirst : Bool) : Nat :=
  let n := if isFirst then n / 700 else n / 2
  let (n, place) := scale (n + n / count) 0
  place + 36 * n / (n + 38)

/-- The state between two characters: `count` are written, and the next code point is at least `next`. -/
structure State where
  output : List Char
  distance : Nat
  bias : Nat
  count : Nat
  next : Nat

/-- Passes a character of the text, and writes the distance to it where it is the one looked for. -/
def State.pass (basic code : Nat) (s : State) (c : Char) : State :=
  if c.toNat < code then { s with distance := s.distance + 1 }
  else if c.toNat = code then
    { s with
      output := s.output ++ Punycode.distance s.bias 36 s.distance
      distance := 0
      bias := adapt s.distance (s.count + 1) (s.count == basic)
      count := s.count + 1 }
  else s

def State.write (cs : List Char) (basic : Nat) (s : State) (code : Nat) : State :=
  let s := { s with distance := s.distance + (code - s.next) * (s.count + 1) }
  let s := cs.foldl (State.pass basic code) s
  { s with distance := s.distance + 1, next := code + 1 }

def encode (cs : List Char) : List Char :=
  let basic := cs.filter fun c => decide (c.toNat < 128)
  let codes := ((cs.map Char.toNat).filter (128 ≤ ·)).mergeSort.eraseDups
  let start : State := ⟨[], 0, 72, basic.length, 128⟩
  (if basic.isEmpty then [] else basic ++ ['-']) ++
    (codes.foldl (State.write cs basic.length) start).output

/-- A distance in front of digits, and what follows it. Its next digit counts `weight` times, and `sum` is
read. -/
def readDistance (bias place weight sum : Nat) : List Char → Option (Nat × List Char)
  | [] => none
  | c :: cs => match digitValue? c with
    | none => none
    | some n =>
      let t := threshold bias place
      if n < t then some (sum + n * weight, cs)
      else readDistance bias (place + 36) (weight * (36 - t)) (sum + n * weight) cs

theorem length_readDistance {bias place weight sum : Nat} {cs : List Char} {r : Nat × List Char}
    (h : readDistance bias place weight sum cs = some r) : r.2.length < cs.length := by
  induction cs generalizing place weight sum with
  | nil => simp [readDistance] at h
  | cons c cs ih =>
    simp only [readDistance] at h
    split at h
    · simp at h
    · split at h
      · simp only [Option.some.injEq] at h
        simp [← h]
      · exact Nat.lt_succ_of_lt (ih h)

/-- Puts a character into the output for each distance. The next one comes at `place` or after it, and is
of the code point `next` or a greater one. -/
def insertAll (output : List Char) (place next bias : Nat) (isFirst : Bool) (cs : List Char) :
    Option (List Char) :=
  if cs.isEmpty then some output
  else match h : readDistance bias 36 1 0 cs with
    | none => none
    | some (n, rest) =>
      let count := output.length + 1
      let next := next + (place + n) / count
      let place := (place + n) % count
      if 0x10ffff < next then none
      else insertAll (output.take place ++ ofCode next :: output.drop place) (place + 1) next
        (adapt n count isFirst) false rest
termination_by cs.length
decreasing_by exact length_readDistance h

def decode? (cs : List Char) : Option (List Char) :=
  let digits := (cs.reverse.takeWhile (· != '-')).reverse
  insertAll (cs.take (cs.length - digits.length - 1)) 0 128 72 true digits

end BpfExporter.Text.Punycode
