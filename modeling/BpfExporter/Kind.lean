/-! The kinds of kernel object that are listed, and the metric kinds of each with their fixed tables. A
metric kind belongs to one subject by its type, so a program metric is never stored among map metrics. -/
namespace BpfExporter

inductive Subject
  | prog | map | link
deriving DecidableEq, Repr

def Subject.name : Subject → String
  | .prog => "prog"
  | .map => "map"
  | .link => "link"

inductive MetricType
  | counter | gauge
deriving DecidableEq, Repr

def MetricType.name : MetricType → String
  | .counter => "counter"
  | .gauge => "gauge"

def MetricType.ofName? : String → Option MetricType
  | "counter" => some .counter
  | "gauge" => some .gauge
  | _ => none

@[simp] theorem MetricType.ofName?_name (t : MetricType) : ofName? t.name = some t := by
  cases t <;> rfl

theorem MetricType.ofName?_eq_some {s : String} {t : MetricType} :
    ofName? s = some t ↔ s = t.name := by
  constructor
  · intro h
    unfold ofName? at h
    split at h <;> simp at h <;> subst h <;> rfl
  · rintro rfl; simp

/-- What a family is registered with. An empty unit means none. -/
structure Spec where
  name : String
  help : String
  unit : String
  type : MetricType
deriving DecidableEq, Repr

inductive ProgMetric
  | sizeJitted | sizeTranslated | uptime | runTime | runCount | verifiedInstructions | memoryLocked
deriving DecidableEq, Repr

inductive MapMetric
  | keySize | valueSize | maxEntries
deriving DecidableEq, Repr

inductive LinkMetric
  | attached
deriving DecidableEq, Repr

inductive Kind
  | prog (k : ProgMetric)
  | map (k : MapMetric)
  | link (k : LinkMetric)
deriving DecidableEq, Repr

namespace Kind

def subject : Kind → Subject
  | .prog _ => .prog
  | .map _ => .map
  | .link _ => .link

def all : Subject → List Kind
  | .prog => [.prog .sizeJitted, .prog .sizeTranslated, .prog .uptime, .prog .runTime, .prog .runCount,
      .prog .verifiedInstructions, .prog .memoryLocked]
  | .map => [.map .keySize, .map .valueSize, .map .maxEntries]
  | .link => [.link .attached]

theorem mem_all (k : Kind) : k ∈ all k.subject := by
  cases k with
  | prog k => cases k <;> simp [all, subject]
  | map k => cases k <;> simp [all, subject]
  | link k => cases k; simp [all, subject]

theorem mem_all_iff {k : Kind} {s : Subject} : k ∈ all s ↔ k.subject = s := by
  constructor
  · have hall : ∀ s, ∀ k ∈ all s, k.subject = s := by
      intro s
      cases s <;> decide
    exact hall s k
  · rintro rfl
    exact mem_all k

def value : Kind → String
  | .prog .sizeJitted => "size_jitted"
  | .prog .sizeTranslated => "size_translated"
  | .prog .uptime => "uptime"
  | .prog .runTime => "run_time"
  | .prog .runCount => "run_count"
  | .prog .verifiedInstructions => "verified_instructions"
  | .prog .memoryLocked => "memory_locked"
  | .map .keySize => "key_size"
  | .map .valueSize => "value_size"
  | .map .maxEntries => "max_entries"
  | .link .attached => "attached"

def name : Kind → String
  | .prog .sizeJitted => "SIZE_JITTED"
  | .prog .sizeTranslated => "SIZE_TRANSLATED"
  | .prog .uptime => "UPTIME"
  | .prog .runTime => "RUN_TIME"
  | .prog .runCount => "RUN_COUNT"
  | .prog .verifiedInstructions => "VERIFIED_INSTRUCTIONS"
  | .prog .memoryLocked => "MEMORY_LOCKED"
  | .map .keySize => "KEY_SIZE"
  | .map .valueSize => "VALUE_SIZE"
  | .map .maxEntries => "MAX_ENTRIES"
  | .link .attached => "ATTACHED"

/-- The fixed table: what each kind is exposed as. -/
def spec : Kind → Spec
  | .prog .sizeJitted =>
    ⟨"size_jitted", "Size of program's JIT-compiled machine code", "bytes", .gauge⟩
  | .prog .sizeTranslated => ⟨"size_translated", "Size of program's translated bytecode", "bytes", .gauge⟩
  | .prog .uptime => ⟨"uptime", "Duration program has been loaded", "nanoseconds", .counter⟩
  | .prog .runTime =>
    ⟨"run_time", "Accumulated duration the program has actively ran", "nanoseconds", .counter⟩
  | .prog .runCount => ⟨"execution", "Accumulated execution count of the program", "count", .counter⟩
  | .prog .verifiedInstructions =>
    ⟨"verified_instruction", "Number of verified instructions in the program", "count", .gauge⟩
  | .prog .memoryLocked =>
    ⟨"memory_locked", "Amount of memory allocated and locked for the program", "bytes", .gauge⟩
  | .map .keySize => ⟨"key_size", "Size of map key", "bytes", .gauge⟩
  | .map .valueSize => ⟨"value_size", "Size of map value", "bytes", .gauge⟩
  | .map .maxEntries => ⟨"max_entries", "Maximum entries map can hold", "count", .gauge⟩
  | .link .attached => ⟨"attached", "Link object attached to a program", "", .gauge⟩

def ofName? (s : Subject) (name : String) : Option Kind := (all s).find? fun k => k.name == name

@[simp] theorem ofName?_name (k : Kind) : ofName? k.subject k.name = some k := by
  cases k with
  | prog k => cases k <;> rfl
  | map k => cases k <;> rfl
  | link k => cases k; rfl

end Kind

def Subject.kindClass : Subject → String
  | .prog => "ProgMetric"
  | .map => "MapMetric"
  | .link => "LinkMetric"

end BpfExporter
