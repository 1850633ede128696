import BpfExporter.Text.Quoted

/-! UTF-8 read byte by byte. A reader holds at most one sequence that has begun; what makes a byte
acceptable depends on that sequence alone, so text may be cut into chunks anywhere. The first two bytes of
a surrogate are held too, and refused with the byte after them or at the end. A text with surrogates has no
bytes. -/
namespace BpfExporter.Utf8

/-- A sequence that has begun: the bits read so far, the interval in which the next byte lies, the count
of bytes after that one, and for reports the first byte and the count of bytes read. -/
structure Partial where
  bits : Nat
  low : Nat
  high : Nat
  more : Nat
  first : UInt8
  read : Nat
deriving DecidableEq, Repr

/-- The bytes held begin a surrogate: the interval of the next byte is empty. -/
def Partial.isSurrogate (p : Partial) : Bool := decide (p.high < p.low)

inductive Reason
  | invalidStart
  | invalidContinuation
  | unexpectedEnd
deriving DecidableEq, Repr

def Reason.message : Reason → String
  | .invalidStart => "invalid start byte"
  | .invalidContinuation => "invalid continuation byte"
  | .unexpectedEnd => "unexpected end of data"

/-- What a byte leads to: a character, or a sequence that goes on. -/
inductive Progress
  | char (c : Char)
  | wait (p : Partial)
deriving DecidableEq, Repr

/-- The first byte of a sequence. The interval of the second byte keeps out overlong forms, surrogates
and what is above U+10FFFF. -/
def begin? (b : UInt8) : Option Progress :=
  let n := b.toNat
  if n < 0x80 then some (.char (Char.ofNat n))
  else if n < 0xc2 then none
  else if n < 0xe0 then some (.wait ⟨n - 0xc0, 0x80, 0xbf, 0, b, 1⟩)
  else if n < 0xf0 then
    some (.wait ⟨n - 0xe0, if n = 0xe0 then 0xa0 else 0x80, if n = 0xed then 0x9f else 0xbf, 1, b, 1⟩)
  else if n < 0xf5 then
    some (.wait ⟨n - 0xf0, if n = 0xf0 then 0x90 else 0x80, if n = 0xf4 then 0x8f else 0xbf, 2, b, 1⟩)
  else none

def continue? (p : Partial) (b : UInt8) : Option Progress :=
  let n := b.toNat
  let surrogate := p.first = 0xed ∧ p.read = 1 ∧ 0xa0 ≤ n ∧ n ≤ 0xbf
  if p.low ≤ n ∧ n ≤ p.high then
    let bits := p.bits * 64 + (n - 0x80)
    match p.more with
    | 0 => some (.char (Char.ofNat bits))
    | more + 1 => some (.wait ⟨bits, 0x80, 0xbf, more, p.first, p.read + 1⟩)
  else if surrogate then some (.wait ⟨0, 1, 0, 0, p.first, 2⟩)
  else none

def Partial.endReason (p : Partial) : Reason :=
  if p.isSurrogate then .invalidContinuation else .unexpectedEnd

def Partial.faultCount (p : Partial) : Nat := if p.isSurrogate then 1 else p.read

/-- A malformed sequence: where it starts, its first byte, and the count of its bytes. -/
structure Fault where
  reason : Reason
  position : Nat
  byte : UInt8
  count : Nat
deriving DecidableEq, Repr

/-- The fault of a whole text, with the place and the bytes of the sequence. -/
def Fault.message (e : Fault) : String :=
  if e.count = 1 then
    s!"'utf-8' codec can't decode byte 0x{hexByte e.byte} in position {e.position}: {e.reason.message}"
  else
    s!"'utf-8' codec can't decode bytes in position {e.position}-{e.position + e.count - 1}: " ++
      e.reason.message
where
  hexByte (b : UInt8) : String := String.ofList [Nat.digitChar (b.toNat / 16), Nat.digitChar (b.toNat % 16)]

/-- The characters of a chunk that follows what is pending, and what is pending after it. -/
def decode (pos : Nat) (pending : Option Partial) : List UInt8 → Except Fault (List Char × Option Partial)
  | [] => .ok ([], pending)
  | b :: bs =>
    let next := match pending with
      | none => begin? b
      | some p => continue? p b
    match next with
    | some (.char c) => (decode (pos + 1) none bs).map fun r => (c :: r.1, r.2)
    | some (.wait p) => decode (pos + 1) (some p) bs
    | none => match pending with
      | none => .error ⟨.invalidStart, pos, b, 1⟩
      | some p => .error ⟨.invalidContinuation, pos - p.read, p.first, p.faultCount⟩

def decodeAll (bytes : List UInt8) : Except Fault (List Char) :=
  match decode 0 none bytes with
  | .error e => .error e
  | .ok (cs, none) => .ok cs
  | .ok (_, some p) => .error ⟨p.endReason, bytes.length - p.read, p.first, p.faultCount⟩

/-- The first surrogates of a text, which stand side by side. -/
structure Unwritable where
  code : Nat
  position : Nat
  count : Nat
deriving DecidableEq, Repr

def Unwritable.message (e : Unwritable) : String :=
  if e.count = 1 then
    s!"'utf-8' codec can't encode character {Text.quoted (Text.ofCode e.code).toString} in position " ++
      s!"{e.position}: surrogates not allowed"
  else
    s!"'utf-8' codec can't encode characters in position {e.position}-{e.position + e.count - 1}: " ++
      "surrogates not allowed"

def unwritable? (s : String) : Option Unwritable :=
  let before := s.toList.takeWhile (!Text.holdsSurrogate ·)
  match s.toList.drop before.length with
  | [] => none
  | c :: cs => some ⟨Text.code c, before.length, 1 + (cs.takeWhile Text.holdsSurrogate).length⟩

end BpfExporter.Utf8
