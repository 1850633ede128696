import BpfExporter.Binary64

/-! Values of the JSON data model, with integers and floating-point numbers kept apart. The fields of an
object stand in the order in which their names first came. -/
namespace BpfExporter

inductive Json
  | null
  | bool (b : Bool)
  | int (n : Int)
  | float (x : Binary64)
  | str (s : String)
  | arr (items : List Json)
  | obj (fields : List (String × Json))
deriving Repr

namespace Json

instance : Inhabited Json := ⟨.null⟩

def field? (name : String) : Json → Option Json
  | .obj fields => (fields.find? fun f => f.1 == name).map Prod.snd
  | _ => none

/-- The value of a field, `null` where there is none. -/
def fieldD (name : String) (v : Json) : Json := (v.field? name).getD .null

end Json

end BpfExporter
