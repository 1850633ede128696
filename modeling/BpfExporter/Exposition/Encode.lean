import BpfExporter.Exposition.LabelText
import BpfExporter.Exposition.Metric

/-! Writing of the exposition text: for each metric its HELP, TYPE and UNIT lines and a line per sample,
and at the end `# EOF`. Values are integers, unsigned of 64 bits in counters and signed in all else. -/
namespace BpfExporter.Exposition

def inRange (t : MetricType) (v : Int) : Bool :=
  match t with
  | .counter => decide (0 ≤ v) && decide (v ≤ 0xffffffffffffffff)
  | .gauge => decide (-0x8000000000000000 ≤ v) && decide (v ≤ 0x7fffffffffffffff)

/-- The range in which values of a type are held: that of counters, or that of gauges for all others. -/
def rangeOf (type : String) : MetricType := if type = "counter" then .counter else .gauge

@[simp] theorem rangeOf_name (t : MetricType) : rangeOf t.name = t := by cases t <;> rfl

inductive EncodeError
  | notInteger (value : Json)
  | outOfRange (t : MetricType) (value : Int)
  | unsupportedType (type name : String)
  /-- A metric could not be produced. -/
  | collection (text : String)

def EncodeError.message : EncodeError → String
  | .notInteger v => "expected an integer sample value, got " ++ v.inspect
  | .outOfRange .counter v => s!"counter value {v} outside the unsigned 64-bit range"
  | .outOfRange .gauge v => s!"gauge value {v} outside the signed 64-bit range"
  | .unsupportedType type name => s!"unsupported metric type '{type}' for {name}"
  | .collection text => "failed to collect metric families: " ++ text

/-- Why a sample is not written. -/
inductive SampleError
  | refused (e : EncodeError)
  /-- A label, or a value that is to be named in its refusal, has too many digits to be written. -/
  | tooLong

def SampleError.message : SampleError → String
  | .refused e => e.message
  | .tooLong => Numeral.limitMessage ""

/-- The refusal of a value, which names it. -/
def refuseValue (value : Json) (e : EncodeError) : SampleError :=
  if value.isWritable then .refused e else .tooLong

def formatValue (type : String) (value : Json) : Except SampleError String :=
  match value with
  | .int n =>
    if inRange (rangeOf type) n then .ok (toString n)
    else .error (refuseValue value (.outOfRange (rangeOf type) n))
  | v => .error (refuseValue v (.notInteger v))

def formatLabels (labels : List (String × Json)) : Except SampleError String :=
  if labels.all fun p => p.2.isWritable then .ok (LabelText.format labels) else .error .tooLong

def encodeSample (type : String) (s : MetricSample) : Except SampleError String :=
  match formatLabels s.labels with
  | .error e => .error e
  | .ok labels => (formatValue type s.value).map fun v => s.name ++ labels ++ " " ++ v ++ "\n"

def encodeSamples (type : String) : List MetricSample → Except SampleError String
  | [] => .ok ""
  | s :: ss => match encodeSample type s with
    | .error e => .error e
    | .ok line => (encodeSamples type ss).map (line ++ ·)

def encodeHead (m : Metric) : String :=
  "# HELP " ++ m.name ++ " " ++ Escape.helpText m.help ++ "\n" ++
  "# TYPE " ++ m.name ++ " " ++ m.type ++ "\n" ++
  (if m.unit.isEmpty then "" else "# UNIT " ++ m.name ++ " " ++ m.unit ++ "\n")

def encodeMetric (m : Metric) : Except SampleError String :=
  if (MetricType.ofName? m.type).isNone then .error (.refused (.unsupportedType m.type m.name))
  else (encodeSamples m.type m.samples).map (encodeHead m ++ ·)

/-- What is no refusal of the encoder itself is told as a failure to produce the metrics. -/
def SampleError.inEncoding : SampleError → EncodeError
  | .refused e => e
  | .tooLong => .collection (SampleError.message .tooLong)

/-- The text of metrics one after another. What stands in place of a metric that cannot be produced is
the reason; the first fault ends the work. -/
def encode : List (Except String Metric) → Except EncodeError String
  | [] => .ok "# EOF\n"
  | .error reason :: _ => .error (.collection reason)
  | .ok m :: ms => match encodeMetric m with
    | .error e => .error e.inEncoding
    | .ok text => (encode ms).map (text ++ ·)

def contentType : String := "application/openmetrics-text; version=1.0.0; charset=utf-8"

end BpfExporter.Exposition
