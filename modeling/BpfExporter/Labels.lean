import BpfExporter.Kind
import BpfExporter.Snapshot
import BpfExporter.Json.Display
import BpfExporter.Text.Surrogate

/-! Label sets: the identity of one observed kernel object. Each subject has label sets of its own shape;
those of one shape are ordered by their labels in turn, texts by code point. -/
namespace BpfExporter

structure ProgLabels where
  id : Int
  programType : String
  name : String
  tag : Int
deriving DecidableEq, Repr

structure MapLabels where
  id : Int
  mapType : String
  name : String
deriving DecidableEq, Repr

/-- A link is identified by the program it attaches. -/
structure LinkLabels where
  id : Int
  linkType : String
  progId : Int
deriving DecidableEq, Repr

inductive LabelSet
  | prog (l : ProgLabels)
  | map (l : MapLabels)
  | link (l : LinkLabels)
deriving DecidableEq, Repr

namespace LabelSet

def subject : LabelSet → Subject
  | .prog _ => .prog
  | .map _ => .map
  | .link _ => .link

def pairs : LabelSet → List (String × Json)
  | .prog l => [("id", .int l.id), ("program_type", .str l.programType), ("name", .str l.name),
      ("tag", .int l.tag)]
  | .map l => [("id", .int l.id), ("map_type", .str l.mapType), ("name", .str l.name)]
  | .link l => [("id", .int l.id), ("link_type", .str l.linkType), ("prog_id", .int l.progId)]

/-- Every label has a text. -/
def isWritable (l : LabelSet) : Bool := l.pairs.all fun p => p.2.isWritable

def ofSnapshot (s : Snapshot) : Subject → LabelSet
  | .prog => .prog ⟨s.id, s.typeName, s.name, (s.tag.getD 0 : Nat)⟩
  | .map => .map ⟨s.id, s.typeName, s.name⟩
  | .link => .link ⟨s.id, s.typeName, (s.valueOf? "prog_id").getD 0⟩

@[simp] theorem subject_ofSnapshot (s : Snapshot) (x : Subject) : (ofSnapshot s x).subject = x := by
  cases x <;> rfl

/-- Label by label; label sets of different shapes come in the order of their subjects. -/
def compare : LabelSet → LabelSet → Ordering
  | .prog a, .prog b => (Ord.compare a.id b.id).then <| (Text.compareChars a.programType b.programType).then <|
      (Text.compareChars a.name b.name).then (Ord.compare a.tag b.tag)
  | .map a, .map b =>
    (Ord.compare a.id b.id).then <|
      (Text.compareChars a.mapType b.mapType).then (Text.compareChars a.name b.name)
  | .link a, .link b =>
    (Ord.compare a.id b.id).then <| (Text.compareChars a.linkType b.linkType).then
      (Ord.compare a.progId b.progId)
  | .prog _, _ => .lt
  | _, .prog _ => .gt
  | .map _, .link _ => .lt
  | .link _, .map _ => .gt

end LabelSet

namespace Subject

def labelClass : Subject → String
  | .prog => "ProgLabels"
  | .map => "MapLabels"
  | .link => "LinkLabels"

def labelNames : Subject → List String
  | .prog => ["id", "program_type", "name", "tag"]
  | .map => ["id", "map_type", "name"]
  | .link => ["id", "link_type", "prog_id"]

/-- The label that holds the object's name. An object without one is not fully set up and is passed
over. -/
def nameLabel? : Subject → Option String
  | .prog => some "name"
  | .map => some "name"
  | .link => none

end Subject

theorem LabelSet.names_pairs (l : LabelSet) : l.pairs.map Prod.fst = l.subject.labelNames := by
  cases l <;> rfl

end BpfExporter
