import BpfExporter.Exporter
import BpfExporter.Json.Writer
import BpfExporter.RequestTarget
import BpfExporter.Utf8

/-! The service that answers requests: `/metrics` runs one cycle and answers with its text, `/health`
tells that the service is up. The service counts its cycles and the failures of sources in them. -/
namespace BpfExporter

/-- What the service counts of itself. -/
structure Counters where
  scrapes : Nat := 0
  progErrors : Nat := 0
  mapErrors : Nat := 0
  linkErrors : Nat := 0
deriving DecidableEq, Repr

namespace Counters

def countError (c : Counters) (e : AdapterError) : Counters :=
  if e.subject = "prog" then { c with progErrors := c.progErrors + 1 }
  else if e.subject = "map" then { c with mapErrors := c.mapErrors + 1 }
  else if e.subject = "link" then { c with linkErrors := c.linkErrors + 1 }
  else c

def countScrape (c : Counters) (errors : List AdapterError) : Counters :=
  errors.foldl countError { c with scrapes := c.scrapes + 1 }

end Counters

structure Request where
  method : String
  target : String

structure Response where
  status : Nat
  contentType : String
  body : String

/-- The exporter is made when the first request needs it. -/
structure Service where
  exporter : Except StartError Exporter
  counters : Counters

/-- An error that is not answered. -/
inductive ServiceError
  | target (e : RequestTarget.Fault)
  | start (e : StartError)
  | collect (e : CollectError)
  | text (e : Utf8.Unwritable)

namespace Service

def json (status : Nat) (body : Json) : Response := ⟨status, "application/json", body.write⟩

def detail (status : Nat) (text : String) : Response := json status (.obj [("detail", .str text)])

inductive Route
  | metrics
  | health

/-- The route of a path. Slashes at the end do not count, nor does one line feed before them. -/
def route? (path : List Char) : Option Route :=
  let cs := (path.reverse.dropWhile (· == '/')).reverse
  let cs := if cs.getLast? = some '\n' then cs.dropLast else cs
  if cs = "/metrics".toList then some .metrics
  else if cs = "/health".toList then some .health
  else none

/-- One cycle and its answer. A cycle whose text cannot be made is answered with the reason; a text that was
made has to have bytes. -/
def metrics (s : Service) (now : Instant) : Except ServiceError Response × Service :=
  match s.exporter with
  | .error e => (.error (.start e), s)
  | .ok x => match x.scrape now with
    | (.error (.collect e), x') => (.error (.collect e), { s with exporter := .ok x' })
    | (.error (.encode e), x') => (.ok (detail 500 e.message), { s with exporter := .ok x' })
    | (.ok result, x') =>
      (match Utf8.unwritable? result.text with
        | some e => .error (.text e)
        | none => .ok ⟨200, Exposition.contentType, result.text⟩,
        { exporter := .ok x', counters := s.counters.countScrape result.errors })

/-- The answer to a request, whose method counts in any case. One that asks for the head alone has no
body. -/
def respond (s : Service) (now : Instant) (q : Request) : Except ServiceError Response × Service :=
  let method := q.method.toUpper
  let answer := fun (r : Response) => (.ok (if method = "HEAD" then { r with body := "" } else r), s)
  match RequestTarget.path q.target with
  | .error e => (.error (.target e), s)
  | .ok path => match route? path with
    | none => answer (detail 404 "Not Found")
    | some route =>
      if method ≠ "GET" then answer (detail 405 "Method Not Allowed")
      else match route with
        | .metrics => s.metrics now
        | .health => answer (json 200 (.obj [("status", .str "ok")]))

end Service

end BpfExporter
