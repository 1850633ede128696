import BpfExporter.Exposition.Fold
import BpfExporter.Binary64.Fixed

/-! The table of the busiest programs. Shares and rates are binary floating-point numbers; a number too
large to be one ends the table. -/
namespace BpfExporter.TopTable

/-- Why a table has no rows. -/
inductive RowError
  /-- An integer has no binary floating-point number. -/
  | tooLarge
  /-- An integer has too many digits to be written. -/
  | tooLong
  /-- What is to limit the rows is no number. -/
  | limit
  | floatDivisionByZero
  | integerDivisionByZero
deriving DecidableEq, Repr

def RowError.message : RowError → String
  | .tooLarge => "int too large to convert to float"
  | .tooLong => Numeral.limitMessage ""
  | .limit => "slice indices must be integers or None or have an __index__ method"
  | .floatDivisionByZero => "float division by zero"
  | .integerDivisionByZero => "integer division or modulo by zero"

def padLeft (width : Nat) (s : String) : String :=
  String.ofList (List.replicate (width - s.length) ' ' ++ s.toList)

def padRight (width : Nat) (s : String) : String :=
  String.ofList (s.toList ++ List.replicate (width - s.length) ' ')

/-- The first `width` characters, filled up to as many. -/
def cell (width : Nat) (s : String) : String := padRight width (String.ofList (s.toList.take width))

def header : String :=
  padLeft 6 "ID" ++ "  " ++ padRight 16 "TYPE" ++ " " ++ padRight 20 "NAME" ++ " " ++ padLeft 7 "CPU%" ++
    " " ++ padLeft 10 "EVENTS/s" ++ " " ++ padLeft 10 "AVG ns"

def toFloat (n : Int) : Except RowError Binary64 :=
  match Binary64.ofInt? n with
  | some x => .ok x
  | none => .error .tooLarge

/-- Division of floating-point numbers, which neither zero divides. -/
def divide (x : Binary64) : Binary64 → Except RowError Binary64
  | .finite _ 0 _ => .error .floatDivisionByZero
  | y => .ok (x.div y)

def floorDivide (a b : Int) : Except RowError Int :=
  if b = 0 then .error .integerDivisionByZero else .ok (Int.fdiv a b)

/-- The factor times an amount per period; zero where no time has passed. -/
def perPeriod (factor : Nat) (amount period : Int) : Except RowError Binary64 :=
  if period ≤ 0 then .ok (Binary64.zero false)
  else do
    let a ← toFloat amount
    let p ← toFloat period
    divide ((Binary64.ofRatio false factor 1).mul a) p

/-- The mean time of a run, rounded down; zero where there was none. -/
def average (r : ProgramRecord) : Except RowError Int :=
  if r.runCountDelta = 0 then .ok 0 else floorDivide r.runTimeDelta r.runCountDelta

def write (n : Int) : Except RowError String :=
  match Numeral.write? n with
  | some s => .ok s
  | none => .error .tooLong

def row (r : ProgramRecord) : Except RowError String := do
  let cpu ← perPeriod 100 r.runTimeDelta r.period
  let rate ← perPeriod 1000000000 r.runCountDelta r.period
  let mean ← average r
  let id ← write r.id
  let mean ← write mean
  return padLeft 6 id ++ "  " ++ cell 16 r.bpfType ++ " " ++ cell 20 r.name ++ " " ++
    padLeft 6 (cpu.fixed 2) ++ "% " ++ padLeft 10 (rate.fixed 1) ++ " " ++ padLeft 10 mean

/-- The records by their run-time delta, greatest first; equal ones keep their order. -/
def ranked (records : List ProgramRecord) : List ProgramRecord :=
  records.mergeSort fun a b => decide (b.runTimeDelta ≤ a.runTimeDelta)

/-- How many rows are shown. -/
inductive Limit
  /-- The first `n`; a negative number leaves out as many at the end. -/
  | first (n : Int)
  | unlimited
  /-- What is given is no number. -/
  | unusable
deriving DecidableEq, Repr

/-- The first `n` members; a negative number leaves out as many at the end. -/
def upTo (n : Int) (xs : List α) : List α :=
  if 0 ≤ n then xs.take n.toNat else xs.take (xs.length - n.natAbs)

def Limit.take (xs : List α) : Limit → Except RowError (List α)
  | .first n => .ok (upTo n xs)
  | .unlimited => .ok xs
  | .unusable => .error .limit

def rowsOf : List ProgramRecord → Except RowError (List String)
  | [] => .ok []
  | r :: rs => match row r with
    | .error e => .error e
    | .ok s => (rowsOf rs).map (s :: ·)

def rows (records : List ProgramRecord) (limit : Limit) : Except RowError (List String) :=
  match limit.take (ranked records) with
  | .error e => .error e
  | .ok shown => rowsOf shown

def Limit.default : Limit := .first 20

def text (records : List ProgramRecord) (limit : Limit) : Except RowError String :=
  (rows records limit).map fun rs => String.intercalate "\n" (header :: rs) ++ "\n\n"

end BpfExporter.TopTable
