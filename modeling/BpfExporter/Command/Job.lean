import BpfExporter.Command.Frame
import BpfExporter.Exporter
import BpfExporter.TopTable

/-! Jobs: commands that read the kernel's objects, show something of them, pause and begin again, until
they have shown as much as they were asked for. -/
namespace BpfExporter.Command

/-- Why a job cannot begin or go on. -/
inductive Failure
  | start (e : StartError)
  | unknownLevel (name : String)
  | scrape (e : ScrapeError)
  | decode (e : Exposition.DecodeError)
  | row (e : TopTable.RowError)

def Failure.message : Failure → String
  | .start e => e.message
  | .unknownLevel name => "Unknown level: " ++ Text.quoted name
  | .scrape e => e.message
  | .decode e => e.message
  | .row e => e.message

/-- What is shown of a cycle: its text, or the table of the busiest programs since the cycle before, of
so many rows. -/
inductive View
  | text
  | table (limit : TopTable.Limit)

structure Job where
  tool : Bpftool
  view : View
  /-- The path of the families of programs. -/
  path : String
  /-- Seconds between two passes. -/
  pause : Json
  /-- How often the view is to be shown; zero means without end. -/
  count : Int

/-- A job in the midst of its work. -/
structure State where
  registry : Registry
  /-- The records of the pass before. -/
  previous : Exposition.Records
  shown : Nat

def State.start (r : Registry) : State := ⟨r, [], 0⟩

namespace Job

def isDone (j : Job) (s : State) : Bool := j.count ≠ 0 && decide (j.count ≤ s.shown)

/-- After a pass the table pauses in any case, the text only if there is more to come. -/
def stopsAfter (j : Job) (s : State) : Bool :=
  match j.view with
  | .text => j.isDone s
  | .table _ => false

/-- What the view has of a text: the output, if there is one yet, and the records in the text. -/
def output (j : Job) (previous : Exposition.Records) (text : String) :
    Except Failure (Option String × Exposition.Records) :=
  match j.view with
  | .text => .ok (some text, previous)
  | .table limit => match Exposition.decode (.text text) j.path previous with
    | .error e => .error (.decode e)
    | .ok records =>
      if previous.isEmpty then .ok (none, records)
      else match TopTable.text (records.map Prod.snd) limit with
        | .error e => .error (.row e)
        | .ok table => .ok (some table, records)

/-- One pass: what it shows, the failures of sources in it, and the state after it. -/
structure Pass where
  output : Option String
  errors : List AdapterError
  state : State

def pass (j : Job) (s : State) (f : Frame) : Except Failure Pass :=
  match s.registry.scrape (some (j.tool.source f.outcome)) f.now with
  | (.error e, _) => .error (.scrape e)
  | (.ok result, r) => match j.output s.previous result.text with
    | .error e => .error e
    | .ok (out, records) => .ok ⟨out, result.errors, ⟨r, records, s.shown + out.toList.length⟩⟩

/-- The command lines of a pass: a time that is an error keeps the subjects after it from being read. -/
def commandLines (j : Job) (f : Frame) : List Subject → List String
  | [] => []
  | s :: ss =>
    j.tool.commandLine s :: match Listing.load s (j.tool.source f.outcome s) with
      | .error (.clock _) => []
      | _ => commandLines j f ss

end Job

inductive Ending
  | returned (shown : Nat)
  /-- The job was stopped in the pause after the last frame. -/
  | stopped
  | failed (e : Failure)

/-- What a job has done: what it wrote, its pauses, the commands it ran, and how it ended. -/
structure Transcript where
  output : String
  pauses : List Json
  commands : List String
  ending : Ending

namespace Job

/-- A job over frames, each of which lasts until the next pause. The pause after the last frame does not
end. -/
def run (j : Job) (s : State) : List Frame → Transcript
  | [] => ⟨"", [], [], .stopped⟩
  | f :: fs =>
    if j.isDone s then ⟨"", [], [], .returned s.shown⟩
    else
      let commands := j.commandLines f s.registry.subjects
      match j.pass s f with
      | .error e => ⟨"", [], commands, .failed e⟩
      | .ok p =>
        let out := p.output.getD ""
        if j.stopsAfter p.state then ⟨out, [], commands, .returned p.state.shown⟩
        else
          let rest := run j p.state fs
          ⟨out ++ rest.output, j.pause :: rest.pauses, commands ++ rest.commands, rest.ending⟩

end Job

def Transcript.ofStart (frames : List Frame) : Except Failure (Job × Registry) → Transcript
  | .error e => ⟨"", [], [], .failed e⟩
  | .ok (j, r) =>
    if j.isDone (State.start r) then ⟨"", [], [], .returned 0⟩ else j.run (State.start r) frames

end BpfExporter.Command
