/-! Letters in one case with their counterparts in the other, in runs. -/
namespace BpfExporter.Text

/-- Code points `first, first + step, …, last`, each moved by `shift` in the other case. -/
structure CaseRun where
  first : Nat
  last : Nat
  step : Nat
  shift : Int

def CaseRun.contains (r : CaseRun) (n : Nat) : Bool :=
  decide (r.first ≤ n) && decide (n ≤ r.last) && (n - r.first) % r.step == 0

end BpfExporter.Text
