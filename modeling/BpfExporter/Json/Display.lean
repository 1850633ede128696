import BpfExporter.Json
import BpfExporter.Numeral
import BpfExporter.Binary64.Shortest
import BpfExporter.Text.Quoted

/-! The text of a JSON value in labels and in error messages. Inside lists and objects, and wherever a
value is inspected, texts stand in quotes; shown by itself a text is its own text. -/
namespace BpfExporter.Json

mutual

def inspect : Json → String
  | .null => "None"
  | .bool true => "True"
  | .bool false => "False"
  | .int n => toString n
  | .float x => x.shortest
  | .str s => Text.quoted s
  | .arr items => "[" ++ String.intercalate ", " (inspectItems items) ++ "]"
  | .obj fields => "\x7b" ++ String.intercalate ", " (inspectFields fields) ++ "\x7d"

def inspectItems : List Json → List String
  | [] => []
  | v :: vs => inspect v :: inspectItems vs

def inspectFields : List (String × Json) → List String
  | [] => []
  | (k, v) :: fs => (Text.quoted k ++ ": " ++ inspect v) :: inspectFields fs

end

def display : Json → String
  | .str s => s
  | v => v.inspect

mutual

/-- The value has a text: no integer in it has more digits than are ever written. -/
def isWritable : Json → Bool
  | .int n => (Numeral.write? n).isSome
  | .arr items => areWritable items
  | .obj fields => fieldsAreWritable fields
  | .null | .bool _ | .float _ | .str _ => true

def areWritable : List Json → Bool
  | [] => true
  | v :: vs => isWritable v && areWritable vs

def fieldsAreWritable : List (String × Json) → Bool
  | [] => true
  | (_, v) :: fs => isWritable v && fieldsAreWritable fs

end

@[simp] theorem isWritable_int (n : Int) : (Json.int n).isWritable = (Numeral.write? n).isSome := by rw [isWritable]

@[simp] theorem isWritable_str (s : String) : (Json.str s).isWritable = true := by rw [isWritable]

end BpfExporter.Json
