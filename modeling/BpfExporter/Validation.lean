import BpfExporter.Json
import BpfExporter.Text.Blank

/-! Checks of loosely typed values. A value is taken for an integer, a text or another scalar where its
meaning is plain; what is refused is an issue at a path, and a check of several parts reports the issues
of all of them. -/
namespace BpfExporter.Validation

inductive Problem
  | missing | modelType
  | intType | intParsing | intParsingSize | intFromFloat | finiteNumber
  | greaterThanEqual | lessThanEqual
  | stringType | dictType | listType | pathType
  | boolType | boolParsing | floatType | floatParsing
  | valueError | datetimeType | datetimeParsing | datetimeFromDateParsing
deriving DecidableEq, Repr

def Problem.name : Problem → String
  | .missing => "missing"
  | .modelType => "model_type"
  | .intType => "int_type"
  | .intParsing => "int_parsing"
  | .intParsingSize => "int_parsing_size"
  | .intFromFloat => "int_from_float"
  | .finiteNumber => "finite_number"
  | .greaterThanEqual => "greater_than_equal"
  | .lessThanEqual => "less_than_equal"
  | .stringType => "string_type"
  | .dictType => "dict_type"
  | .listType => "list_type"
  | .pathType => "path_type"
  | .boolType => "bool_type"
  | .boolParsing => "bool_parsing"
  | .floatType => "float_type"
  | .floatParsing => "float_parsing"
  | .valueError => "value_error"
  | .datetimeType => "datetime_type"
  | .datetimeParsing => "datetime_parsing"
  | .datetimeFromDateParsing => "datetime_from_date_parsing"

/-- What is wrong, and the names and indexes that lead to it. -/
structure Issue where
  path : List String
  problem : Problem
deriving DecidableEq, Repr

def Issue.message (i : Issue) : String := String.intercalate "." i.path ++ ": " ++ i.problem.name

abbrev Checked (α : Type) := Except (List Issue) α

def Checked.at (path : List String) : Except Problem α → Checked α
  | .ok a => .ok a
  | .error p => .error [⟨path, p⟩]

def Checked.of {α : Type} (a : α) : Checked α := .ok a

/-- Applies a checked function to a checked argument; the issues of both are kept. -/
def Checked.ap : Checked (α → β) → Checked α → Checked β
  | .ok f, .ok a => .ok (f a)
  | .ok _, .error js => .error js
  | .error is, .ok _ => .error is
  | .error is, .error js => .error (is ++ js)

/-- Checks every member of a list; the issues of all are kept. -/
def Checked.all {β : Type} (f : α → Checked β) : List α → Checked (List β)
  | [] => .ok []
  | a :: as => Checked.of List.cons |>.ap (f a) |>.ap (Checked.all f as)

theorem Checked.all_eq_ok {f : α → Checked β} {as : List α} {bs : List β} :
    Checked.all f as = .ok bs ↔ as.map f = bs.map .ok := by
  induction as generalizing bs with
  | nil => cases bs <;> simp [Checked.all]
  | cons a as ih =>
    cases bs with
    | nil => cases ha : f a <;> cases h : Checked.all f as <;> simp [Checked.all, ha, h, Checked.of, Checked.ap]
    | cons b bs =>
      have ih' := @ih bs
      cases ha : f a <;> cases h : Checked.all f as <;> simp_all [Checked.all, Checked.of, Checked.ap]

/-- The text without its underscores; none where it has none, or one at an end, or two in a row. -/
def withoutUnderscores? (cs : List Char) : Option (List Char) :=
  let doubled := (cs.zip cs.tail).contains ('_', '_')
  if cs.head? == some '_' || cs.getLast? == some '_' || doubled || !cs.contains '_' then none
  else some (cs.filter (· != '_'))

/-- The text, which begins with a digit, without the zeros in front and the underscores among them. What
follows them is a digit, a minus, or a point, which keeps the last of them; of zeros alone the last is
left. -/
def withoutZeros? (cs : List Char) : Option (List Char) :=
  let isFiller := fun (c : Char) => c == '0' || c == '_'
  if cs.head? = some '0' then
    let last := (cs.takeWhile isFiller).getLast?.toList
    match cs.dropWhile isFiller with
    | [] => some last
    | '.' :: rest => some (last ++ '.' :: rest)
    | c :: rest => if Numeral.isNonzeroDigit c || c == '-' then some (c :: rest) else none
  else if cs.head?.any Numeral.isNonzeroDigit then some cs
  else none

/-- The text without a point at the end and the zeros, at least one, after it. -/
def withoutFraction (cs : List Char) : List Char :=
  let zeros := (cs.dropWhile (· != '.')).drop 1
  if !zeros.isEmpty && zeros.all (· == '0') then cs.takeWhile (· != '.') else cs

/-- The canonical numeral that a text is taken for: white space around it, a plus, zeros in front, a
fraction of zeros and underscores between digits are dropped, in this order. A minus stays in front. -/
def canonical? (cs : List Char) : Option (List Char) :=
  let (negative, body) := Numeral.splitSign (Text.trimBoth Text.isWhiteSpace cs)
  (withoutZeros? body).map fun ds =>
    let ds := (withoutUnderscores? (withoutFraction ds)).getD (withoutFraction ds)
    if negative then '-' :: ds else ds

/-- Reads a canonical numeral, or else the one that the text is taken for. Only the text itself, as it
stands, is refused for its length. -/
def readInt (s : String) : Except Problem Int :=
  match Numeral.readCanonical s.toList with
  | .ok n => .ok n
  | .error .tooLong => .error .intParsingSize
  | .error .malformed => match (canonical? s.toList).map Numeral.readCanonical with
    | some (.ok n) => .ok n
    | _ => .error .intParsing

/-- The integer that a number equals, in 64 bits. -/
def intOfFloat (x : Binary64) : Except Problem Int :=
  match x with
  | .finite _ _ _ => match x.toInt? with
    | none => .error .intFromFloat
    | some n => if -0x8000000000000000 < n ∧ n < 0x8000000000000000 then .ok n else .error .intParsingSize
  | _ => .error .finiteNumber

def int : Json → Except Problem Int
  | .int n => .ok n
  | .bool b => .ok (if b then 1 else 0)
  | .float x => intOfFloat x
  | .str s => readInt s
  | _ => .error .intType

def intBetween (low high : Int) (v : Json) : Except Problem { n : Int // low ≤ n ∧ n ≤ high } :=
  match int v with
  | .ok n =>
    if hlow : n < low then .error .greaterThanEqual
    else if hhigh : high < n then .error .lessThanEqual
    else .ok ⟨n, Int.not_lt.1 hlow, Int.not_lt.1 hhigh⟩
  | .error p => .error p

def string : Json → Except Problem String
  | .str s => .ok s
  | _ => .error .stringType

def readBool (s : String) : Except Problem Bool :=
  let word := String.ofList (s.toList.map Char.toLower)
  if ["1", "on", "t", "true", "y", "yes"].contains word then .ok true
  else if ["0", "off", "f", "false", "n", "no"].contains word then .ok false
  else .error .boolParsing

/-- Integers of 64 bits may be meant for truth values, though only 0 and 1 are. -/
def boolOfInt (n : Int) : Except Problem Bool :=
  if n = 1 then .ok true
  else if n = 0 then .ok false
  else if -0x8000000000000000 ≤ n ∧ n < 0x8000000000000000 then .error .boolParsing
  else .error .boolType

def bool : Json → Except Problem Bool
  | .bool b => .ok b
  | .str s => readBool s
  | .int n => boolOfInt n
  | .float x => match intOfFloat x with
    | .ok n => boolOfInt n
    | .error _ => .error .boolType
  | _ => .error .boolType

/-- Reads a number between blanks; or, with nothing around it, a number whose underscores are single and
do not stand at an end. -/
def readFloat (s : String) : Except Problem Binary64 :=
  match Binary64.read? (Text.trimBoth Text.isWhiteSpace s.toList) with
  | some x => .ok x
  | none => match (withoutUnderscores? s.toList).bind Binary64.read? with
    | some x => .ok x
    | none => .error .floatParsing

def float : Json → Except Problem Binary64
  | .float x => .ok x
  | .int n => match Binary64.ofInt? n with
    | some x => .ok x
    | none => .error .floatType
  | .bool b => .ok (Binary64.ofRatio false (if b then 1 else 0) 1)
  | .str s => readFloat s
  | _ => .error .floatType

/-- A list of texts; an issue names the index of its member. -/
def strings (name : String) : Json → Checked (List String)
  | .arr items => Checked.all (fun m => Checked.at [name, toString m.2] (string m.1)) items.zipIdx
  | _ => .error [⟨[name], .listType⟩]

end BpfExporter.Validation
