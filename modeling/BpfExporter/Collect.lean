import BpfExporter.Registry
import BpfExporter.Source

/-! Collection: what the snapshots of a pass store in the families. A listing is loaded as a whole before
a family is touched, so a subject whose listing fails keeps what it has. -/
namespace BpfExporter

/-- The number of a snapshot that a kind shows, for the kinds that show one. -/
def Kind.field? : Kind → Option String
  | .prog .sizeJitted => some "bytes_jited"
  | .prog .sizeTranslated => some "bytes_xlated"
  | .prog .runTime => some "run_time_ns"
  | .prog .runCount => some "run_cnt"
  | .prog .verifiedInstructions => some "verified_insns"
  | .prog .memoryLocked => some "bytes_memlock"
  | .map .keySize => some "bytes_key"
  | .map .valueSize => some "bytes_value"
  | .map .maxEntries => some "max_entries"
  | .prog .uptime | .link .attached => none

/-- A value that a snapshot provides for a kind. A `guarded` one is stored only in a family whose type
has room for it. -/
structure Reading where
  kind : Kind
  value : Int
  guarded : Bool

namespace Snapshot

def numberReadings (s : Snapshot) (kinds : List Kind) : List Reading :=
  kinds.filterMap fun k => (k.field?.bind s.valueOf?).map fun v => ⟨k, v, true⟩

def readings (s : Snapshot) (now : Instant) : Subject → List Reading
  | .prog => ((s.uptimeNanos? now).map fun v => (⟨.prog .uptime, v, false⟩ : Reading)).toList ++
      s.numberReadings (Kind.all .prog)
  | .map => s.numberReadings (Kind.all .map)
  | .link => [⟨.link .attached, 1, false⟩]

/-- The object is set up, which one of a subject with names is only when it has a name. -/
def isNamed (s : Snapshot) (subject : Subject) : Bool := subject.nameLabel?.isNone || !s.name.isEmpty

end Snapshot

namespace Families

/-- Stores a reading in the family of its kind, if there is one with room for it. -/
def observe (labels : LabelSet) (fs : Families Kind) (r : Reading) : Families Kind :=
  match fs.find? r.kind with
  | none => fs
  | some f =>
    if r.guarded && !Exposition.inRange f.spec.type r.value then fs
    else fs.store r.kind labels (.int r.value)

def observeSnapshot (subject : Subject) (now : Instant) (fs : Families Kind) (s : Snapshot) :
    Families Kind :=
  (s.readings now subject).foldl (observe (LabelSet.ofSnapshot s subject)) fs

def observeAll (subject : Subject) (now : Instant) (fs : Families Kind) (snapshots : List Snapshot) :
    Families Kind :=
  (snapshots.filter (·.isNamed subject)).foldl (observeSnapshot subject now) fs

/-- The snapshots one after another, with the count of those that are applied. An object that is not set up
is passed over. -/
def applyEach (subject : Subject) (now : Instant) (fs : Families Kind) : List Snapshot → Nat × Families Kind
  | [] => (0, fs)
  | s :: ss =>
    if s.isNamed subject then
      let (applied, fs') := applyEach subject now (fs.observeSnapshot subject now s) ss
      (applied + 1, fs')
    else applyEach subject now fs ss

theorem applyEach_eq (subject : Subject) (now : Instant) (fs : Families Kind) (snapshots : List Snapshot) :
    fs.applyEach subject now snapshots =
      (snapshots.countP (·.isNamed subject), fs.observeAll subject now snapshots) := by
  induction snapshots generalizing fs with
  | nil => rfl
  | cons s ss ih => cases h : s.isNamed subject <;> simp [applyEach, observeAll, h, ih]

end Families

inductive CollectError
  | configuration (e : ConfigurationError)
  | clock (e : Snapshot.ClockError)

def CollectError.message : CollectError → String
  | .configuration e => e.message
  | .clock e => e.message

namespace Registry

/-- The pass of one subject over its listing, with the count of the snapshots that are applied. -/
def collectSubject (source : Source) (now : Instant) (fs : Families Kind) (s : Subject) :
    Except LoadError Nat × Families Kind :=
  match (source s).load s with
  | .error e => (.error e, fs)
  | .ok snapshots =>
    let (applied, fs') := fs.applyEach s now snapshots
    (.ok applied, fs')

theorem collectSubject_eq (source : Source) (now : Instant) (fs : Families Kind) (s : Subject) :
    collectSubject source now fs s = match (source s).load s with
      | .error e => (.error e, fs)
      | .ok snapshots => (.ok (snapshots.countP (·.isNamed s)), fs.observeAll s now snapshots) := by
  simp only [collectSubject, Families.applyEach_eq]

/-- The passes of subjects one after another. The failure of a listing is noted and costs its subject
alone; a time that is an error ends the collection. -/
def collectEach (source : Source) (now : Instant) (fs : Families Kind) :
    List Subject → Except Snapshot.ClockError (List AdapterError) × Families Kind
  | [] => (.ok [], fs)
  | s :: ss => match collectSubject source now fs s with
    | (.error (.clock e), fs') => (.error e, fs')
    | (.error (.adapter e), fs') =>
      let (errors, fs'') := collectEach source now fs' ss
      (errors.map (e :: ·), fs'')
    | (.ok _, fs') => collectEach source now fs' ss

theorem collectEach_cons (source : Source) (now : Instant) (fs : Families Kind) (s : Subject)
    (ss : List Subject) : collectEach source now fs (s :: ss) = match (source s).load s with
      | .error (.clock e) => (.error e, fs)
      | .error (.adapter e) =>
        ((collectEach source now fs ss).1.map (e :: ·), (collectEach source now fs ss).2)
      | .ok snapshots => collectEach source now (fs.observeAll s now snapshots) ss := by
  rw [collectEach, collectSubject_eq]
  cases (source s).load s with
  | ok snapshots => rfl
  | error e => cases e <;> rfl

def collect (r : Registry) (source : Option Source) (now : Instant) :
    Except CollectError (List AdapterError) × Registry :=
  match source with
  | none => (.error (.configuration .noSource), r)
  | some source =>
    let (errors, fs) := collectEach source now r.families r.subjects
    (errors.mapError .clock, { r with families := fs })

end Registry

/-- The text of a cycle and the failures in it. -/
structure Scrape where
  text : String
  errors : List AdapterError

inductive ScrapeError
  | collect (e : CollectError)
  | encode (e : Exposition.EncodeError)

def ScrapeError.message : ScrapeError → String
  | .collect e => e.message
  | .encode e => e.message

/-- One cycle: collect, then export, which leaves every family empty. A failed collection ends the cycle
before the export. -/
def Registry.scrape (r : Registry) (source : Option Source) (now : Instant) :
    Except ScrapeError Scrape × Registry :=
  match r.collect source now with
  | (.error e, r') => (.error (.collect e), r')
  | (.ok errors, r') => match r'.exportText with
    | (.ok text, r'') => (.ok ⟨text, errors⟩, r'')
    | (.error e, r'') => (.error (.encode e), r'')

end BpfExporter
