import BpfExporter.Source
import BpfExporter.Json.Reader
import BpfExporter.Json.Display

/-! The listing that the `bpftool` command prints: how it is called, what becomes of its outcome, and how
one of its objects is put into the shape of a record. -/
namespace BpfExporter

/-- Where the command is found and how many seconds it may take. -/
structure Bpftool where
  path : String
  timeout : Json

namespace Bpftool

/-- How a run of the command ended. -/
inductive Outcome
  | notFound
  | timedOut
  | systemError (text : String)
  | finished (code : Int) (output errors : String)

def command (b : Bpftool) (s : Subject) : List String := [b.path, "--json", s.name, "show"]

def commandLine (b : Bpftool) (s : Subject) : String := String.intercalate " " (b.command s)

def numberKeys : Subject → List String
  | .prog => ["run_time_ns", "run_cnt", "bytes_xlated", "bytes_jited", "bytes_memlock", "verified_insns"]
  | .map => ["bytes_key", "bytes_value", "max_entries", "bytes_memlock"]
  | .link => ["prog_id"]

def numbers (s : Subject) (object : Json) : List (String × Json) :=
  (numberKeys s).filterMap fun key => match object.field? key with
    | some (.int n) => some (key, .int n)
    | _ => none

def textOf (key : String) (object : Json) : String := ((object.field? key).getD (.str "")).display

def normalize (s : Subject) (object : Json) : Json :=
  .obj [("id", object.fieldD "id"), ("type_name", .str (textOf "type" object)),
    ("name", .str (textOf "name" object)), ("tag", object.fieldD "tag"),
    ("numeric_fields", .obj (numbers s object)), ("loaded_at", object.fieldD "loaded_at")]

def isObject : Json → Bool
  | .obj _ => true
  | _ => false

/-- The objects that the command printed; no output is an empty list. -/
def objects (s : Subject) (output : String) : Except ListingFailure (List Json) :=
  let text := if output.isEmpty then "[]" else output
  match Json.read .standard text with
  | .ok (.arr items) => .ok (items.filter isObject)
  | .ok _ => .error (.adapter ⟨s.name, "bpftool did not return a JSON list"⟩)
  | .error (.tooLong e) => .error (.numeral e)
  | .error (.tooDeep e) => .error (.nesting e)
  | .error e => .error (.adapter ⟨s.name, "invalid JSON from bpftool: " ++ e.message text⟩)

/-- The records of a listing in the order in which they were printed. -/
def list (b : Bpftool) (s : Subject) : Outcome → Except ListingFailure (List Json)
  | .notFound => .error (.adapter ⟨s.name, b.path ++ " not found"⟩)
  | .timedOut =>
    .error (.adapter ⟨s.name, b.commandLine s ++ " timed out after " ++ b.timeout.display ++ "s"⟩)
  | .systemError text => .error (.system text)
  | .finished code output errors =>
    if code ≠ 0 then
      .error (.adapter ⟨s.name, s!"{b.commandLine s} exited with {code}: {Text.strip errors}"⟩)
    else (objects s output).map fun os => os.map (normalize s)

def source (b : Bpftool) (outcome : Subject → Outcome) : Source := fun s =>
  (b.list s (outcome s)).map fun records => records.map Record.raw

end Bpftool

end BpfExporter
