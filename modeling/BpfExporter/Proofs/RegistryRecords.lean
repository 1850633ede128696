import BpfExporter.Proofs.Gathering

/-! From a registry to records and back to its values. Kinds of the fixed table are registered, updates are
made, the text is written and read, and its samples are folded into records: one for each program with a
value, holding what was written last. -/
namespace BpfExporter

open Exposition
open Exposition.Grammar (isMetricName)

namespace ProgramRecord

/-- The record shows a program with values of kinds, zero for those without one, and itself as its
baseline. -/
structure Describes (r : ProgramRecord) (l : ProgLabels) (value : ProgMetric → Option Int) : Prop where
  id : r.id = l.id
  bpfType : r.bpfType = l.programType
  name : r.name = l.name
  field : ∀ k : ProgMetric, r.get k.field = (value k).getD 0
  prevRunTime : r.prevRunTime = r.runTime
  prevRunCount : r.prevRunCount = r.runCount
  prevUptime : r.prevUptime = r.uptime

end ProgramRecord

namespace Exposition

end Exposition

end BpfExporter
