import BpfExporter.Command.Job
import BpfExporter.Command.Options

/-! The command that ranks programs by the time they ran between two cycles. -/
namespace BpfExporter.Command.Top

/-- Seconds between two cycles, those of the settings where none are given; the rows of a table; and how
many tables to print, zero meaning without end. -/
structure Options where
  interval : Option Json := none
  limit : TopTable.Limit := .default
  count : Int := 0

def flags : List Flag :=
  [⟨"--interval", .real, "Seconds between scrapes"⟩, ⟨"--limit", .integer, "Rows to display"⟩]

def help (command : String) : String := helpText command "Rank BPF programs by CPU usage" flags

def Options.ofArguments (args : List String) : Except Stop Options :=
  (parse flags args).map fun values =>
    { interval := Assoc.get? "--interval" values
      limit := match Assoc.get? "--limit" values with
        | some (.int n) => .first n
        | some _ => .unusable
        | none => .default }

def kinds : List Kind := [.prog .uptime, .prog .runTime, .prog .runCount]

def start (o : Options) (s : Settings) : Except Failure (Job × Registry) :=
  match (Registry.empty s.registryPrefix).registerAll .prog (kinds.map KindArg.kind) with
  | (.error e, _) => .error (.start (.register e))
  | (.ok (), r) => .ok (⟨Bpftool.ofSettings s, .table o.limit, r.subjectPath .prog,
      o.interval.getD (.float s.printInterval), o.count⟩, r)

end BpfExporter.Command.Top
