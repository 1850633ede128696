import BpfExporter.Json
import BpfExporter.Text.Surrogate

/-! Tokens of JSON text. The text is cut into tokens without regard to where they stand; a token that is
malformed carries its own fault, which counts only where a value or a name is expected. -/
namespace BpfExporter.Json

/-- The bounds of a reader: the digits of an integer, and the lists and objects that may be open at once.
Without a bound every JSON text is read. -/
structure Limits where
  digits : Option Nat := none
  depth : Option Nat := none

def Limits.standard : Limits := ⟨some Numeral.maxDigits, some 984⟩

/-- A list or an object begins inside as many others as may be open. -/
inductive TooDeep
  | array
  | object
deriving DecidableEq, Repr

def TooDeep.message (e : TooDeep) : String :=
  let container := match e with
    | .array => "array"
    | .object => "object"
  s!"maximum recursion depth exceeded while decoding a JSON {container} from a unicode string"

/-- Why a text is no JSON text, or goes beyond the bounds of its reader. -/
inductive ReadError
  | malformed (what : String) (position : Nat)
  | tooLong (e : Numeral.TooLong)
  | tooDeep (e : TooDeep)
deriving DecidableEq, Repr

inductive Token
  | openArray | closeArray | openObject | closeObject | comma | colon
  | value (v : Json)
  | text (s : String)
  /-- A value or a name with a fault in it. -/
  | broken (isText : Bool) (e : ReadError)
  /-- A character that begins no token. -/
  | junk

def isGap (c : Char) : Bool := c == ' ' || c == '\t' || c == '\n' || c == '\r'

/-- The character that `\c` stands for in a string. -/
def escaped? : Char → Option Char
  | '"' => some '"'
  | '\\' => some '\\'
  | '/' => some '/'
  | 'b' => some '\x08'
  | 'f' => some '\x0c'
  | 'n' => some '\n'
  | 'r' => some '\r'
  | 't' => some '\t'
  | _ => none

def hex4? (a b c d : Char) : Option Nat :=
  if [a, b, c, d].all Numeral.isHexDigit then some (Numeral.value 16 Numeral.hexDigitValue [a, b, c, d])
  else none

/-- A unit of sixteen bits that comes first, or second, in a pair. -/
def isHighUnit (n : Nat) : Bool := decide (0xd800 ≤ n) && decide (n ≤ 0xdbff)

def isLowUnit (n : Nat) : Bool := decide (0xdc00 ≤ n) && decide (n ≤ 0xdfff)

def pairChar (high low : Nat) : Char := Char.ofNat (0x10000 + (high - 0xd800) * 0x400 + (low - 0xdc00))

/-- What a string literal is made of: characters, and units of sixteen bits in hexadecimal digits. -/
inductive Piece
  | char (c : Char)
  | unit (n : Nat)

/-- The characters of pieces, with two units that make a pair as one character. Half of a pair stays a
surrogate. -/
def joinUnits : List Piece → List Char
  | [] => []
  | .char c :: ps => c :: joinUnits ps
  | .unit n :: .unit m :: ps =>
    if isHighUnit n && isLowUnit m then pairChar n m :: joinUnits ps
    else Text.ofCode n :: joinUnits (.unit m :: ps)
  | .unit n :: ps => Text.ofCode n :: joinUnits ps

/-- The rest of a string literal up to its closing quote: its pieces, and the position after the quote.
`start` is the position of the opening quote, `pos` that of the first character, and `acc` holds the
pieces read, in reverse. -/
def scanText (start pos : Nat) (acc : List Piece) : List Char → Except ReadError (List Piece × Nat)
  | [] => .error (.malformed "Unterminated string starting at" start)
  | '"' :: _ => .ok (acc.reverse, pos + 1)
  | ['\\'] => .error (.malformed "Unterminated string starting at" start)
  | '\\' :: 'u' :: a :: b :: c :: d :: x :: cs => match hex4? a b c d with
    | some n => scanText start (pos + 6) (.unit n :: acc) (x :: cs)
    | none => .error (.malformed "Invalid \\uXXXX escape" (pos + 1))
  | '\\' :: 'u' :: _ => .error (.malformed "Invalid \\uXXXX escape" (pos + 1))
  | '\\' :: x :: cs => match escaped? x with
    | some c => scanText start (pos + 2) (.char c :: acc) cs
    | none => .error (.malformed "Invalid \\escape" pos)
  | x :: cs =>
    if x.toNat < 0x20 then .error (.malformed "Invalid control character at" pos)
    else scanText start (pos + 1) (.char x :: acc) cs

/-- The longest numeral in front: its whole part with the sign, and what else belongs to it. -/
def splitNumber? (cs : List Char) : Option (List Char × List Char) :=
  let (minus, body) := match cs with
    | '-' :: r => (['-'], r)
    | r => ([], r)
  let whole := match body with
    | '0' :: _ => ['0']
    | r => r.takeWhile Char.isDigit
  if whole.isEmpty then none
  else
    let afterWhole := body.drop whole.length
    let fraction := match afterWhole with
      | '.' :: r => if (r.takeWhile Char.isDigit).isEmpty then [] else '.' :: r.takeWhile Char.isDigit
      | _ => []
    let power := match afterWhole.drop fraction.length with
      | e :: r =>
        if e = 'e' || e = 'E' then
          let sign := match r with
            | '+' :: _ => ['+']
            | '-' :: _ => ['-']
            | _ => []
          let ds := (r.drop sign.length).takeWhile Char.isDigit
          if ds.isEmpty then [] else e :: sign ++ ds
        else []
      | [] => []
    some (minus ++ whole, fraction ++ power)

def numberToken (limits : Limits) (whole rest : List Char) : Token :=
  if rest.isEmpty then
    let (negative, ds) := Numeral.splitSign whole
    if limits.digits.any (· < ds.length) then .broken false (.tooLong ⟨ds.length⟩)
    else .value (.int (Numeral.signed negative (Numeral.decimalValue ds)))
  else .value (.float (((Decimal.read? (whole ++ rest)).map Binary64.ofDecimal).getD .nan))

def words : List (String × Json) := [
  ("null", .null), ("true", .bool true), ("false", .bool false), ("NaN", .float .nan),
  ("Infinity", .float (.infinite false)), ("-Infinity", .float (.infinite true))]

/-- The token in front of `c :: cs` and the count of characters of `cs` that belong to it. -/
def scanToken (limits : Limits) (pos : Nat) (c : Char) (cs : List Char) : Token × Nat :=
  match c with
  | '[' => (.openArray, 0)
  | ']' => (.closeArray, 0)
  | '\x7b' => (.openObject, 0)
  | '\x7d' => (.closeObject, 0)
  | ',' => (.comma, 0)
  | ':' => (.colon, 0)
  | '"' => match scanText pos (pos + 1) [] cs with
    | .ok (pieces, next) => (.text (String.ofList (joinUnits pieces)), next - (pos + 1))
    | .error e => (.broken true e, 0)
  | _ => match words.find? fun w => w.1.toList.isPrefixOf (c :: cs) with
    | some (w, v) => (.value v, w.length - 1)
    | none => match splitNumber? (c :: cs) with
      | some (whole, rest) => (numberToken limits whole rest, whole.length + rest.length - 1)
      | none => (.junk, 0)

def tokens (limits : Limits) (pos : Nat) : List Char → List (Nat × Token)
  | [] => []
  | c :: cs =>
    if isGap c then tokens limits (pos + 1) cs
    else
      let (t, n) := scanToken limits pos c cs
      (pos, t) :: tokens limits (pos + 1 + n) (cs.drop n)
termination_by cs => cs.length
decreasing_by all_goals simp; try omega

end BpfExporter.Json
