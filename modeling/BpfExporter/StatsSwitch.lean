import BpfExporter.Source
import BpfExporter.Utf8
import BpfExporter.Text.Quoted

/-! The switch of the kernel's run-time statistics: a file that holds `1` while they are counted. -/
namespace BpfExporter

/-- A file, or the place of one; without its directory it cannot be written. -/
structure StatsFile where
  directoryExists : Bool
  content : Option (List UInt8)
deriving DecidableEq, Repr

namespace StatsFile

/-- The switch cannot be read, or what it holds is no text. -/
inductive ReadError
  | adapter (e : AdapterError)
  | encoding (e : Utf8.Fault)
deriving DecidableEq, Repr

def failure (verb path : String) : AdapterError :=
  ⟨"bpf_stats", s!"cannot {verb} {path}: [Errno 2] No such file or directory: {Text.quoted path}"⟩

def write (f : StatsFile) (path text : String) : Except AdapterError Unit × StatsFile :=
  if f.directoryExists then (.ok (), { f with content := some text.toUTF8.toList })
  else (.error (failure "write" path), f)

def enable (f : StatsFile) (path : String) : Except AdapterError Unit × StatsFile := f.write path "1"

def disable (f : StatsFile) (path : String) : Except AdapterError Unit × StatsFile := f.write path "0"

def unifyLineEnds : List Char → List Char
  | '\r' :: '\n' :: cs => '\n' :: unifyLineEnds cs
  | '\r' :: cs => '\n' :: unifyLineEnds cs
  | c :: cs => c :: unifyLineEnds cs
  | [] => []

def read (f : StatsFile) (path : String) : Except ReadError (List Char) :=
  match f.directoryExists, f.content with
  | true, some bytes => ((Utf8.decodeAll bytes).map unifyLineEnds).mapError .encoding
  | _, _ => .error (.adapter (failure "read" path))

/-- The file holds `1`, blanks around it apart. -/
def isEnabled (f : StatsFile) (path : String) : Except ReadError Bool :=
  (f.read path).map fun cs => Text.trimBoth Text.isBlank cs = ['1']

end StatsFile

/-- The file while a service runs that is to count statistics, and after it has ended: the switch is put
back only if it could be set. -/
def StatsFile.duringService (f : StatsFile) (wanted : Bool) (path : String) : StatsFile × StatsFile :=
  if wanted then
    match f.enable path with
    | (.ok (), on) => (on, (on.disable path).2)
    | (.error _, g) => (g, g)
  else (f, f)

end BpfExporter
