import BpfExporter.Bpftool

/-! Frames: what the clock and `bpftool` give a command between two pauses, and their form as JSON. -/
namespace BpfExporter

/-- An outcome as JSON: `not_found`, `timeout`, or `os_error` with its text; else `stdout`, `stderr` and
`returncode`, each of which may be missing. -/
def Bpftool.Outcome.ofJson (v : Json) : Bpftool.Outcome :=
  let text := fun (name : String) => match v.field? name with
    | some (.str s) => s
    | _ => ""
  let code := match v.field? "returncode" with
    | some (.int n) => n
    | _ => 0
  match v.field? "not_found", v.field? "timeout", v.field? "os_error" with
  | some (.bool true), _, _ => .notFound
  | _, some (.bool true), _ => .timedOut
  | _, _, some (.str reason) => .systemError reason
  | _, _, _ => .finished code (text "stdout") (text "stderr")

/-- The outcomes of an object with one member for each subject. A member that is missing is an empty
listing. -/
def Bpftool.Outcome.ofMembers (v : Json) (s : Subject) : Bpftool.Outcome :=
  match v.field? s.name with
  | some o => ofJson o
  | none => .finished 0 "[]" ""

namespace Command

structure Frame where
  now : Instant
  outcome : Subject → Bpftool.Outcome

/-- A frame as JSON: the time in microseconds under `now_us`, and the outcome of each subject. -/
def Frame.ofJson (v : Json) : Frame :=
  let micros := match v.field? "now_us" with
    | some (.int n) => n
    | _ => 0
  ⟨⟨micros⟩, Bpftool.Outcome.ofMembers v⟩

end Command

end BpfExporter
