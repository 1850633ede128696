import BpfExporter.Command.Print
import BpfExporter.Command.Top
import BpfExporter.Json.Reader

/-! The command line: `print` and `top`. Settings come from the environment. Every line of standard input
is a frame, so a pause lasts until the next line. -/
namespace BpfExporter.Command

def readEnvironment : IO (List (String × String)) :=
  Settings.fields.filterMapM fun field => do
    let name := (Settings.variablePrefix ++ field).toUpper
    return (← IO.getEnv name).map fun text => (name, text)

def fail (message : String) : IO UInt32 := do
  IO.eprintln message
  return 1

/-- Makes a pass for each line until the job is done or the input ends. -/
partial def work (j : Job) (s : State) (input : IO.FS.Stream) : IO UInt32 := do
  if j.isDone s then return 0
  let line ← input.getLine
  if line.isEmpty then return 0
  match Json.read {} line with
  | .error e => fail (e.message line)
  | .ok frame => match j.pass s (Frame.ofJson frame) with
    | .error e => fail e.message
    | .ok p =>
      for e in p.errors do IO.eprintln e.message
      IO.print (p.output.getD "")
      (← IO.getStdout).flush
      work j p.state input

def runCommand (start : Settings → Except Failure (Job × Registry)) : IO UInt32 := do
  match Settings.load (← readEnvironment) [] with
  | .error e => fail e.message
  | .ok settings => match start settings with
    | .error e => fail e.message
    | .ok (j, r) => work j (State.start r) (← IO.getStdin)

def usage : String :=
  "usage: bpf-exporter print [--interval SECONDS] [--count N]\n" ++
  "       bpf-exporter top [--interval SECONDS] [--limit N]"

def stop (help : String) (e : Stop) : IO UInt32 := do
  IO.print (e.output help)
  if e = .usage then IO.eprintln usage
  return UInt32.ofNat e.exitCode

def runArguments : List String → IO UInt32
  | "print" :: args => match Print.Options.ofArguments args with
    | .ok o => runCommand (Print.start o)
    | .error e => stop (Print.help "bpf-exporter print") e
  | "top" :: args => match Top.Options.ofArguments args with
    | .ok o => runCommand (Top.start o)
    | .error e => stop (Top.help "bpf-exporter top") e
  | _ => stop usage .usage

end BpfExporter.Command

def main (args : List String) : IO UInt32 := BpfExporter.Command.runArguments args
