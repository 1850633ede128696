import BpfExporter.Snapshot
import BpfExporter.Instant.Text
import BpfExporter.Validation

/-! The check that a raw record is a snapshot. A record is refused with all its issues; an epoch second
that is no time of the calendar at all is not an issue of the record but an error of its own. -/
namespace BpfExporter.Snapshot

open Validation (Problem Issue Checked)

/-- An epoch second that does not fit the words of a calendar time. -/
inductive ClockError
  | overflow
  | yearOverflow
deriving DecidableEq, Repr

def ClockError.message : ClockError → String
  | .overflow => "timestamp out of range for platform time_t"
  | .yearOverflow => "[Errno 75] Value too large for defined data type"

inductive CheckError
  | invalid (issues : List Issue)
  | clock (e : ClockError)

def checkId (v : Json) : Checked { n : Nat // n ≤ maxId } :=
  match v.field? "id" with
  | none => .error [⟨["id"], .missing⟩]
  | some w => Checked.at ["id"] ((Validation.intBetween 0 maxId w).map fun n => ⟨n.1.toNat, Int.toNat_le.2 n.2.2⟩)

def checkText (name : String) (v : Json) : Checked String :=
  match v.field? name with
  | none => .ok ""
  | some w => Checked.at [name] (Validation.string w)

def tagNumber : Json → Except Problem Json
  | .str s => match Numeral.readHex? s with
    | some n => .ok (.int n)
    | none => .error .valueError
  | v => .ok v

def checkTag (v : Json) : Checked { tag : Option Nat // ∀ t ∈ tag, t ≤ maxTag } :=
  match v.fieldD "tag" with
  | .null => .ok ⟨none, le_maxTag_of_mem_none⟩
  | w => Checked.at ["tag"] <| match tagNumber w with
    | .ok n => (Validation.intBetween 0 maxTag n).map fun n =>
      ⟨some n.1.toNat, fun _ ht => Option.some.inj ht ▸ Int.toNat_le.2 n.2.2⟩
    | .error p => .error p

abbrev BoundedField := { f : String × Int // minField ≤ f.2 ∧ f.2 ≤ maxField }

def checkField (f : String × Json) : Checked BoundedField :=
  Checked.at ["numeric_fields", f.1]
    ((Validation.intBetween minField maxField f.2).map fun n => ⟨(f.1, n.1), n.2⟩)

def checkFields (v : Json) : Checked (List BoundedField) :=
  match v.field? "numeric_fields" with
  | none => .ok []
  | some (.obj fields) => Checked.all checkField fields
  | some _ => .error [⟨["numeric_fields"], .dictType⟩]

/-- The instant of an epoch second, or the issue that it is outside the years of the calendar. -/
def ofEpoch : Except Instant.EpochError Instant → Except ClockError (Checked (Option Instant))
  | .ok t => .ok (.ok (some t))
  | .error .outOfCalendar => .ok (.error [⟨["loaded_at"], .valueError⟩])
  | .error .overflow => .error .overflow
  | .error .yearOverflow => .error .yearOverflow

def checkLoadedAt (v : Json) : Except ClockError (Checked (Option Instant)) :=
  match v.fieldD "loaded_at" with
  | .null => .ok (.ok none)
  | .int n => ofEpoch (Instant.ofSeconds n)
  | .float x => ofEpoch (Instant.ofFloatSeconds x)
  | .str s => .ok <| match Instant.ofText s with
    | .ok t => .ok (some t)
    | .error .yearZero => .error [⟨["loaded_at"], .datetimeParsing⟩]
    | .error .malformed => .error [⟨["loaded_at"], .datetimeFromDateParsing⟩]
  | _ => .ok (.error [⟨["loaded_at"], .datetimeType⟩])

def ofParts (id : { n : Nat // n ≤ maxId }) (typeName name : String)
    (tag : { tag : Option Nat // ∀ t ∈ tag, t ≤ maxTag }) (fields : List BoundedField)
    (loadedAt : Option Instant) : Snapshot where
  id := id
  typeName := typeName
  name := name
  tag := tag
  fields := fields.map Subtype.val
  loadedAt := loadedAt
  id_le := id.2
  tag_le := tag.2
  fields_bounds := List.forall_mem_map.2 fun f _ => f.2

/-- The snapshot of a raw record. Names that a snapshot does not have are passed over. -/
def check (v : Json) : Except CheckError Snapshot :=
  match v with
  | .obj _ => match checkLoadedAt v with
    | .error e => .error (.clock e)
    | .ok loadedAt =>
      let parts := Checked.of ofParts
        |>.ap (checkId v)
        |>.ap (checkText "type_name" v)
        |>.ap (checkText "name" v)
        |>.ap (checkTag v)
        |>.ap (checkFields v)
        |>.ap loadedAt
      parts.mapError .invalid
  | _ => .error (.invalid [⟨[], .modelType⟩])

end BpfExporter.Snapshot
