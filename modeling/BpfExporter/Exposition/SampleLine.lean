import BpfExporter.Kind
import BpfExporter.Text.Blank

/-! Sample lines: `name value` or `name{labels} value`. -/
namespace BpfExporter.Exposition

/-- A sample as it was read, with the number of its line. -/
structure Sample where
  family : String
  type : MetricType
  labels : List (String × String)
  value : Int
  line : Nat
deriving DecidableEq, Repr

/-- The name of a metric in front of a text; empty where none stands there. -/
def splitMetricName (cs : List Char) : List Char × List Char :=
  let isStart := fun (c : Char) => c.isAlpha || c == '_' || c == ':'
  let isNext := fun (c : Char) => c.isAlphanum || c == '_' || c == ':'
  match cs with
  | [] => ([], [])
  | c :: _ => if isStart c then (cs.takeWhile isNext, cs.dropWhile isNext) else ([], cs)

/-- The text before the last blank, that blank, and the text after it. -/
def cutLastBlank? (cs : List Char) : Option (List Char × Char × List Char) :=
  let after := (cs.reverse.takeWhile fun c => !Text.isBlank c).reverse
  match cs.reverse.dropWhile fun c => !Text.isBlank c with
  | [] => none
  | b :: before => some (before.reverse, b, after)

/-- The parts of a sample line. -/
structure SampleLine where
  name : String
  labels : List Char
  value : List Char
deriving DecidableEq, Repr

/-- Reads `name value` or `name{labels} value`, where the value holds no blank and one space stands
before it. -/
def SampleLine.read? (line : List Char) : Option SampleLine :=
  match cutLastBlank? line with
  | some (before, ' ', value) =>
    let (name, rest) := splitMetricName before
    if name.isEmpty || value.isEmpty then none
    else match rest with
      | [] => some ⟨String.ofList name, [], value⟩
      | '\x7b' :: body =>
        if body.getLast? = some '\x7d' then some ⟨String.ofList name, body.dropLast, value⟩ else none
      | _ => none
  | _ => none

end BpfExporter.Exposition
