import BpfExporter.Kind
import BpfExporter.Json.Display

/-! What is handed in as a metric kind: a kind, or some other value, which the registry refuses. A single
collection takes any value for a kind that it can compare. -/
namespace BpfExporter

def Json.integer? : Json → Option Int
  | .bool b => some (if b then 1 else 0)
  | .int n => some n
  | .float x => x.toInt?
  | _ => none

/-- Equality of values that are no lists and no objects; numbers are compared by what they stand for. -/
def Json.same (a b : Json) : Bool :=
  match a.integer?, b.integer? with
  | some m, some n => m == n
  | none, none => match a, b with
    | .null, .null => true
    | .str s, .str t => s == t
    | .float x, .float y => x == y
    | _, _ => false
  | _, _ => false

def Json.className : Json → String
  | .null => "NoneType"
  | .bool _ => "bool"
  | .int _ => "int"
  | .float _ => "float"
  | .str _ => "str"
  | .arr _ => "list"
  | .obj _ => "dict"

inductive KindArg
  | kind (k : Kind)
  | foreign (v : Json)

namespace KindArg

instance : BEq KindArg where
  beq
    | .kind a, .kind b => a == b
    | .foreign a, .foreign b => a.same b
    | _, _ => false

@[simp] theorem kind_beq_kind (a b : Kind) : (kind a == kind b) = (a == b) := rfl

/-- The value can be compared with others: it is no list and no object. -/
def isComparable : KindArg → Bool
  | .foreign (.arr _) | .foreign (.obj _) => false
  | _ => true

def inspect : KindArg → String
  | .kind k => s!"<{k.subject.kindClass}.{k.name}: " ++ Text.quoted k.value ++ ">"
  | .foreign v => v.inspect

def className : KindArg → String
  | .kind k => k.subject.kindClass
  | .foreign v => v.className

end KindArg

end BpfExporter
