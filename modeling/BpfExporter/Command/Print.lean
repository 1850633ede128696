import BpfExporter.Command.Job
import BpfExporter.Command.Options

/-! The command that prints the exposition text of one cycle after another. -/
namespace BpfExporter.Command.Print

/-- Seconds between two cycles, those of the settings where none are given, and how many cycles to print;
zero means without end. -/
structure Options where
  interval : Option Json := none
  count : Int := 0

def flags : List Flag :=
  [⟨"--interval", .real, "Seconds between scrapes"⟩,
    ⟨"--count", .integer, "Stop after N scrapes (0 = forever)"⟩]

def help (command : String) : String := helpText command "Print BPF metrics periodically" flags

def Options.ofArguments (args : List String) : Except Stop Options :=
  (parse flags args).map fun values =>
    { interval := Assoc.get? "--interval" values
      count := match Assoc.get? "--count" values with
        | some (.int n) => n
        | _ => 0 }

def logLevels : List String := ["CRITICAL", "FATAL", "ERROR", "WARN", "WARNING", "INFO", "DEBUG", "NOTSET"]

/-- The log level is looked at before the metric kinds are. -/
def start (o : Options) (s : Settings) : Except Failure (Job × Registry) :=
  let level := Text.upper s.logLevel
  if !logLevels.contains level then .error (.unknownLevel level)
  else match Registry.ofSettings s with
    | .error e => .error (.start (.register e))
    | .ok r => .ok (⟨Bpftool.ofSettings s, .text, r.subjectPath .prog,
        o.interval.getD (.float s.printInterval), o.count⟩, r)

end BpfExporter.Command.Print
