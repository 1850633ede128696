import BpfExporter.Kind
import BpfExporter.Json.Token
import BpfExporter.Snapshot.Check

/-! Sources of snapshots. A source lists the records of each subject or fails for the subject; loading a
listing keeps the records that are snapshots and passes over the others. -/
namespace BpfExporter

/-- The failure of a whole subject. -/
structure AdapterError where
  subject : String
  reason : String
deriving DecidableEq, Repr

def AdapterError.message (e : AdapterError) : String := s!"[{e.subject}] {e.reason}"

inductive Record
  | raw (v : Json)
  | ready (s : Snapshot)

/-- Why a source has no listing: it says so itself, an operation failed with a text, a numeral was too long to
convert, or lists and objects stood too deep in one another. Interrupts and exits, which are no failures of a listing
and end whoever asked for it, and failures whose text cannot be made are left out. -/
inductive ListingFailure
  | adapter (e : AdapterError)
  | system (text : String)
  | numeral (e : Numeral.TooLong)
  | nesting (e : Json.TooDeep)

abbrev Listing := Except ListingFailure (List Record)

abbrev Source := Subject → Listing

/-- What a source yields for a subject, one record after another, up to its end or its failure. -/
inductive Yield
  | done
  | failed (f : ListingFailure)
  | record (r : Record) (rest : Yield)

/-- The listing of what is yielded. A failure is one of all of it, however much came before. -/
def Yield.listing : Yield → Listing
  | .done => .ok []
  | .failed f => .error f
  | .record r rest => rest.listing.map (r :: ·)

def ListingFailure.forSubject (s : Subject) : ListingFailure → AdapterError
  | .adapter e => e
  | .system text => ⟨s.name, "listing failed: " ++ text⟩
  | .numeral e => ⟨s.name, "listing failed: " ++ e.message⟩
  | .nesting e => ⟨s.name, "listing failed: " ++ e.message⟩

namespace Record

/-- The snapshot of a record; none where the record is to be passed over. -/
def load? : Record → Except Snapshot.ClockError (Option Snapshot)
  | .ready s => .ok (some s)
  | .raw v => match Snapshot.check v with
    | .ok s => .ok (some s)
    | .error (.invalid _) => .ok none
    | .error (.clock e) => .error e

/-- The snapshots among records, up to the first whose time is an error. -/
def loadAll : List Record → Except Snapshot.ClockError (List Snapshot)
  | [] => .ok []
  | r :: rs => match r.load? with
    | .error e => .error e
    | .ok s? => (loadAll rs).map (s?.toList ++ ·)

end Record

inductive LoadError
  | adapter (e : AdapterError)
  | clock (e : Snapshot.ClockError)

def Listing.load (s : Subject) (l : Listing) : Except LoadError (List Snapshot) :=
  match l with
  | .error f => .error (.adapter (f.forSubject s))
  | .ok records => match Record.loadAll records with
    | .ok snapshots => .ok snapshots
    | .error e => .error (.clock e)

end BpfExporter
