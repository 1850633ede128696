import BpfExporter.Kind
import BpfExporter.Json

/-! Metrics as they are exposed: a name, a help text, a type, a unit and samples. -/
namespace BpfExporter.Exposition

structure MetricSample where
  name : String
  labels : List (String × Json)
  value : Json

structure Metric where
  name : String
  help : String
  type : String
  unit : String
  samples : List MetricSample

/-- Why no metric can be made. -/
inductive MetricError
  | emptyName
  | invalidType (type : String)
deriving DecidableEq, Repr

def MetricError.message : MetricError → String
  | .emptyName => "metric name cannot be empty"
  | .invalidType type => "Invalid metric type: " ++ type

def endsWith (name ending : String) : Bool := ending.toList.isSuffixOf name.toList

/-- The name with its unit, which is added unless the name ends with it already. -/
def withUnit (name unit : String) : String :=
  if unit.isEmpty || endsWith name ("_" ++ unit) then name else name ++ "_" ++ unit

def metricTypes : List String :=
  ["counter", "gauge", "summary", "histogram", "gaugehistogram", "unknown", "info", "stateset"]

/-- A metric of any type; `untyped` is another word for `unknown`. -/
def Metric.make (name help type unit : String) (samples : List MetricSample) :
    Except MetricError Metric :=
  let name := withUnit name unit
  let type := if type = "untyped" then "unknown" else type
  if name.isEmpty then .error .emptyName
  else if metricTypes.contains type then .ok ⟨name, help, type, unit, samples⟩
  else .error (.invalidType type)

/-- The name without one `_total` at its end. -/
def dropTotal (name : String) : String :=
  if endsWith name "_total" then String.ofList (name.toList.take (name.length - 6)) else name

/-- The name that a family of a base name, a unit and a type is exposed by. -/
def exposedName (base unit : String) : MetricType → String
  | .counter => withUnit (dropTotal base) unit
  | .gauge => withUnit base unit

def sampleName (name : String) : MetricType → String
  | .counter => name ++ "_total"
  | .gauge => name

/-- The names that a metric lays claim to. -/
def claimedNames (name : String) : MetricType → List String
  | .counter => [name, name ++ "_total", name ++ "_created"]
  | .gauge => [name]

end BpfExporter.Exposition
