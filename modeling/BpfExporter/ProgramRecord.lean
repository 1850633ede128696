/-! Records of programs: the current counters of one program beside those of the scrape before, which are
the baseline of its deltas. -/
namespace BpfExporter

structure ProgramRecord where
  id : Int
  bpfType : String
  name : String
  runTime : Int := 0
  prevRunTime : Int := 0
  runCount : Int := 0
  prevRunCount : Int := 0
  uptime : Int := 0
  prevUptime : Int := 0
  memoryLocked : Int := 0
  sizeJitted : Int := 0
  sizeTranslated : Int := 0
  verifiedInstructions : Int := 0
deriving DecidableEq, Repr

namespace ProgramRecord

/-- The fields that are read from samples. -/
inductive Field
  | runTime | runCount | uptime | memoryLocked | sizeJitted | sizeTranslated | verifiedInstructions
deriving DecidableEq, Repr

/-- The fields by the names of their families under the path of a program's families. -/
def fieldOf? : String → Option Field
  | "run_time_nanoseconds" => some .runTime
  | "execution_count" => some .runCount
  | "uptime_nanoseconds" => some .uptime
  | "memory_locked_bytes" => some .memoryLocked
  | "size_jitted_bytes" => some .sizeJitted
  | "size_translated_bytes" => some .sizeTranslated
  | "verified_instruction_count" => some .verifiedInstructions
  | _ => none

theorem fieldOf?_inj {a b : String} {f : Field} (ha : fieldOf? a = some f) (hb : fieldOf? b = some f) :
    a = b := by
  unfold fieldOf? at ha hb
  split at ha <;> cases ha <;> split at hb <;> cases hb <;> rfl

def set (r : ProgramRecord) (v : Int) : Field → ProgramRecord
  | .runTime => { r with runTime := v }
  | .runCount => { r with runCount := v }
  | .uptime => { r with uptime := v }
  | .memoryLocked => { r with memoryLocked := v }
  | .sizeJitted => { r with sizeJitted := v }
  | .sizeTranslated => { r with sizeTranslated := v }
  | .verifiedInstructions => { r with verifiedInstructions := v }

def get (r : ProgramRecord) : Field → Int
  | .runTime => r.runTime
  | .runCount => r.runCount
  | .uptime => r.uptime
  | .memoryLocked => r.memoryLocked
  | .sizeJitted => r.sizeJitted
  | .sizeTranslated => r.sizeTranslated
  | .verifiedInstructions => r.verifiedInstructions

@[simp] theorem get_set (r : ProgramRecord) (v : Int) (f g : Field) :
    (r.set v f).get g = if f = g then v else r.get g := by
  cases f <;> cases g <;> rfl

@[simp] theorem id_set (r : ProgramRecord) (v : Int) (f : Field) : (r.set v f).id = r.id := by
  cases f <;> rfl

theorem set_set_comm (r : ProgramRecord) (v w : Int) {f g : Field} (h : f ≠ g) :
    (r.set v f).set w g = (r.set w g).set v f := by
  cases f <;> cases g <;> simp [set] at h ⊢

def runTimeDelta (r : ProgramRecord) : Int := r.runTime - r.prevRunTime

def runCountDelta (r : ProgramRecord) : Int := r.runCount - r.prevRunCount

def period (r : ProgramRecord) : Int := r.uptime - r.prevUptime

/-- The records are of one program; an id alone may be that of an earlier one. -/
def sameEntity (r s : ProgramRecord) : Bool := r.id = s.id && r.bpfType = s.bpfType && r.name = s.name

/-- The earlier value of a counter, or the current one where the counter went backwards. -/
def baseline (earlier current : Int) : Int := if earlier ≤ current then earlier else current

/-- The record with the counters of an earlier one as its baseline; where that is of another program, or
there is none, the current counters are the baseline. -/
def carryOver (r : ProgramRecord) (previous : Option ProgramRecord) : ProgramRecord :=
  match previous.filter r.sameEntity with
  | none => { r with prevRunTime := r.runTime, prevRunCount := r.runCount, prevUptime := r.uptime }
  | some p => { r with
      prevRunTime := baseline p.runTime r.runTime
      prevRunCount := baseline p.runCount r.runCount
      prevUptime := baseline p.uptime r.uptime }

theorem baseline_le (earlier current : Int) : baseline earlier current ≤ current := by
  unfold baseline; split <;> omega

/-- No counter runs backwards against its baseline. -/
theorem carryOver_deltas (r : ProgramRecord) (previous : Option ProgramRecord) :
    0 ≤ (r.carryOver previous).runTimeDelta ∧ 0 ≤ (r.carryOver previous).runCountDelta ∧
      0 ≤ (r.carryOver previous).period := by
  unfold carryOver
  cases previous.filter r.sameEntity with
  | none => simp [runTimeDelta, runCountDelta, period]
  | some p =>
    have h₁ := baseline_le p.runTime r.runTime
    have h₂ := baseline_le p.runCount r.runCount
    have h₃ := baseline_le p.uptime r.uptime
    simp only [runTimeDelta, runCountDelta, period]
    omega

end ProgramRecord

end BpfExporter
