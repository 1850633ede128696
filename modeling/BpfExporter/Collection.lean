import BpfExporter.Family
import BpfExporter.KindArg

/-! The families of one subject, all under one path of names and with label sets of one shape. -/
namespace BpfExporter

/-- Why a registration or an update is refused. -/
inductive ConfigurationError
  | notAKind (value : Json)
  | alreadyRegistered (subject : Subject) (kind : Kind)
  | wrongLabels (subject given : Subject)
  /-- The names, in ascending order, that are taken. -/
  | namesTaken (names : List String)
  /-- The client library refuses the name, with the text. -/
  | nameRefused (text : String)
  | noSource
  /-- The inspected value is no kind of the subject. -/
  | notOfSubject (value : String) (subject : Subject)
  | unknownName (subject : Subject) (name : String)

def ConfigurationError.message : ConfigurationError → String
  | .notAKind v => v.inspect ++ " is not a metric kind"
  | .alreadyRegistered s k => s!"{s.name} metric {k.name} already registered"
  | .wrongLabels s g => s!"{s.name} metrics take {s.labelClass}, got {g.labelClass}"
  | .namesTaken names => "Duplicated timeseries in CollectorRegistry: \x7b" ++
      String.intercalate ", " (names.map Text.quoted) ++ "\x7d"
  | .nameRefused text => text
  | .noSource => "no data source attached to the registry"
  | .notOfSubject v s => s!"{v} is not a {s.kindClass}"
  | .unknownName s n => s!"unknown {s.name} metric '{n}' (valid: " ++
      String.intercalate ", " ((Kind.all s).map Kind.name) ++ ")"

/-- A registration is refused for its configuration or because its type is none. -/
inductive RegisterError
  | configuration (e : ConfigurationError)
  | invalidType (type : Json)

def RegisterError.message : RegisterError → String
  | .configuration e => e.message
  | .invalidType t => t.inspect ++ " is not a valid MetricType"

def MetricType.ofJson (v : Json) : Except RegisterError MetricType :=
  match v with
  | .str s => match ofName? s with
    | some t => .ok t
    | none => .error (.invalidType v)
  | _ => .error (.invalidType v)

/-- What a family is to be registered with, before its type is known to be one. -/
structure Registration where
  type : Json
  name : String
  help : String
  unit : String

/-- Why a collection refuses an operation. -/
inductive CollectionError
  | register (e : RegisterError)
  /-- What stands for a kind cannot be compared. -/
  | notComparable (arg : KindArg)
  /-- What is registered already is no kind, so there is no name to speak of it. -/
  | nameless (arg : KindArg)

def CollectionError.message : CollectionError → String
  | .register e => e.message
  | .notComparable arg => "unhashable type: " ++ Text.quoted arg.className
  | .nameless arg => Text.quoted arg.className ++ " object has no attribute 'name'"

structure Collection where
  subject : Subject
  path : String
  families : Families KindArg

namespace Collection

def empty (subject : Subject) (path : String) : Collection := ⟨subject, path, []⟩

def family? (c : Collection) (kind : KindArg) : Except CollectionError (Option (Family KindArg)) :=
  if kind.isComparable then .ok (c.families.find? kind) else .error (.notComparable kind)

def contains (c : Collection) (kind : KindArg) : Except CollectionError Bool :=
  (c.family? kind).map Option.isSome

def alreadyRegistered (c : Collection) : KindArg → CollectionError
  | .kind k => .register (.configuration (.alreadyRegistered c.subject k))
  | arg => .nameless arg

/-- Adds an empty family for a kind that has none. -/
def register (c : Collection) (kind : KindArg) (r : Registration) :
    Except CollectionError (Family KindArg × Collection) :=
  match c.contains kind, MetricType.ofJson r.type with
  | .error e, _ => .error e
  | .ok true, _ => .error (c.alreadyRegistered kind)
  | .ok false, .error e => .error (.register e)
  | .ok false, .ok t =>
    let f := Family.make c.path kind ⟨r.name, r.help, r.unit, t⟩
    .ok (f, { c with families := c.families ++ [f] })

/-- Takes the family of a kind away. Nothing is compared when there are no families. -/
def unregister (c : Collection) (kind : KindArg) : Except CollectionError Collection :=
  if kind.isComparable || c.families.isEmpty then .ok { c with families := c.families.erase kind }
  else .error (.notComparable kind)

/-- Stores a value; what is not registered is passed over, which the answer tells. -/
def update (c : Collection) (kind : KindArg) (labels : LabelSet) (value : Json) :
    Except CollectionError (Bool × Collection) :=
  match c.contains kind with
  | .error e => .error e
  | .ok false => .ok (false, c)
  | .ok true =>
    if labels.subject ≠ c.subject then
      .error (.register (.configuration (.wrongLabels c.subject labels.subject)))
    else .ok (true, { c with families := c.families.store kind labels value })

/-- A metric is shown only under a name. -/
def shown {κ : Type} (f : Family κ) (m : Except String Exposition.Metric) : Except String Exposition.Metric :=
  if f.exposedName.isEmpty then .error Exposition.MetricError.emptyName.message else m

def clear (c : Collection) : Collection := { c with families := c.families.clear }

def kindsOf (c : Collection) (t : MetricType) : List KindArg :=
  (c.families.filter fun f => f.spec.type = t).map Family.kind

end Collection

end BpfExporter
