import BpfExporter.Exposition.Metric

/-! The client library that holds the metrics of a process. It names a metric, or refuses the name, and keeps names
for the metrics that lay claim to them. Which names it takes is up to its version, so the library is a parameter
of what is done through it. -/
namespace BpfExporter.Exposition

structure ClientLibrary where
  /-- The name of a metric of a type, a base name and a unit, or the text of the refusal. -/
  metricName : MetricType → String → String → Except String String
  /-- The names that are kept for a metric of a type and a name. -/
  reserved : MetricType → String → List String

namespace ClientLibrary

def unrestricted : ClientLibrary where
  metricName t base unit := .ok (exposedName base unit t)
  reserved t name := claimedNames name t

end ClientLibrary

end BpfExporter.Exposition
