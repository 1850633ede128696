import BpfExporter.Proofs.Rendering
import BpfExporter.Proofs.ProgramFold

/-! Records gathered from samples. Along the samples of values, the records that have been begun are those
of the programs that have had a value, and each holds what was written last to its fields. -/
namespace BpfExporter

open Exposition

namespace ProgramRecord

end ProgramRecord

namespace Exposition

end Exposition

end BpfExporter
