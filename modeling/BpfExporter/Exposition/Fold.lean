import BpfExporter.Exposition.Decoder
import BpfExporter.ProgramRecord
import BpfExporter.Assoc
import BpfExporter.Snapshot

/-! Program records from samples. Every sample of a known family of programs writes one field of the
record of its id; the records come in the order of their ids. -/
namespace BpfExporter.Exposition

abbrev Records := List (Int × ProgramRecord)

def belowPath? (path name : String) : Option String :=
  let start := (path ++ "_").toList
  if start.isPrefixOf name.toList then some (String.ofList (name.toList.drop start.length)) else none

def Sample.field? (path : String) (s : Sample) : Option ProgramRecord.Field :=
  (belowPath? path s.family).bind ProgramRecord.fieldOf?

def Sample.label (s : Sample) (name : String) : String := (Assoc.get? name s.labels).getD ""

/-- The id of a program: ASCII digits of a number of 32 bits. -/
def Sample.id (s : Sample) : Except DecodeError Nat :=
  let cs := (s.label "id").toList
  if cs.isEmpty || !cs.all Char.isDigit then .error (.parse s.line (.idLabel s.family))
  else match Numeral.readNat cs with
    | .error e => .error (.numeral e)
    | .ok n => if Snapshot.maxId < n then .error (.parse s.line (.idLabel s.family)) else .ok n

def Sample.newRecord (s : Sample) (id : Nat) : ProgramRecord :=
  { id := id, bpfType := s.label "program_type", name := s.label "name" }

def foldSample (path : String) (records : Records) (s : Sample) : Except DecodeError Records :=
  match s.field? path with
  | none => .ok records
  | some field => match s.id with
    | .error e => .error e
    | .ok id =>
      let record := (Assoc.get? (id : Int) records).getD (s.newRecord id)
      .ok (Assoc.set (id : Int) (record.set s.value field) records)

def gather (path : String) (records : Records) : List Sample → Except DecodeError Records
  | [] => .ok records
  | s :: ss => match foldSample path records s with
    | .error e => .error e
    | .ok records' => gather path records' ss

/-- The records of the programs among samples, with the records before them as their baseline. -/
def foldPrograms (path : String) (previous : Records) (samples : List Sample) :
    Except DecodeError Records :=
  (gather path [] samples).map fun records =>
    (records.mergeSort fun a b => decide (a.1 ≤ b.1)).map fun r =>
      (r.1, r.2.carryOver (Assoc.get? r.1 previous))

namespace Decoder

def records (d : Decoder) (path : String) (previous : Records) : Except DecodeError Records :=
  match d.close with
  | .error e => .error e
  | .ok samples => foldPrograms path previous samples

end Decoder

def decode (chunk : Chunk) (path : String) (previous : Records) : Except DecodeError Records :=
  match Decoder.start.feed chunk with
  | (.error e, _) => .error e
  | (.ok _, d) => d.records path previous

/-- The path of program families that is read when no other is given. -/
def defaultPath : String := "bpf_prog"

end BpfExporter.Exposition
