import BpfExporter.Exposition.Decoder

/-! The decoder with its variables apart: the state it is in, the section that is open, whose type is a text, and
the samples committed so far. Nothing in their types keeps them in step. -/
namespace BpfExporter.Exposition

inductive ReaderState
  | awaitingSection
  | awaitingType
  | inSection
  | complete
deriving DecidableEq, Repr

def ReaderState.name : ReaderState → String
  | .awaitingSection => "AWAITING_SECTION"
  | .awaitingType => "AWAITING_TYPE"
  | .inSection => "IN_SECTION"
  | .complete => "COMPLETE"

structure ReadSample where
  family : String
  type : String
  labels : List (String × String)
  value : Int
  line : Nat
deriving DecidableEq, Repr

structure ReadSection where
  family : String
  help : String
  /-- Empty as long as no TYPE line was read. -/
  type : String := ""
  unit : String := ""
  samples : List ReadSample := []
deriving DecidableEq, Repr

/-- The variables that lines change. -/
structure Reading where
  state : ReaderState
  openSection? : Option ReadSection
  samples : List ReadSample
deriving DecidableEq, Repr

def ReadSection.readSample (s : ReadSection) (lineNumber : Nat) (line : List Char) : Except LineError ReadSample :=
  let expected := if s.type = "counter" then s.family ++ "_total" else s.family
  match SampleLine.read? line with
  | none => .error (.malformed (.sample (String.ofList line)))
  | some parts =>
    if parts.name ≠ expected then .error (.malformed (.foreignSample parts.name s.family))
    else if !Numeral.isSigned parts.value then
      .error (.malformed (.notNumeric (String.ofList parts.value)))
    else match Numeral.readSigned parts.value with
      | .error e => .error (.numeral e)
      | .ok value =>
        if s.type = "counter" ∧ value < 0 then .error (.malformed (.negativeCounter value))
        else match LabelText.read parts.labels with
          | .error e => .error (.malformed (.labels e))
          | .ok labels => .ok ⟨s.family, s.type, labels, value, lineNumber⟩

namespace Reading

def start : Reading := ⟨.awaitingSection, none, []⟩

def refuse (x : Reading) (why : Malformed) : Except LineError Unit × Reading := (.error (.malformed why), x)

def closeSection (x : Reading) : Reading :=
  match x.openSection? with
  | none => x
  | some s => { x with samples := x.samples ++ s.samples, openSection? := none }

def takeEnd (x : Reading) : Except LineError Unit × Reading :=
  if x.state = .awaitingType then x.refuse .helpWithoutType
  else (.ok (), { x.closeSection with state := .complete })

/-- The section before is closed first, and stays closed when the help text is refused. -/
def takeHelp (x : Reading) (name text : List Char) : Except LineError Unit × Reading :=
  if x.state = .awaitingType then x.refuse .helpWithoutType
  else match Escape.unescape text with
    | .error e => x.closeSection.refuse (.badEscape e)
    | .ok help => (.ok (), { x.closeSection with
        openSection? := some { family := String.ofList name, help := String.ofList help }
        state := .awaitingType })

def takeType (x : Reading) (name text : String) : Except LineError Unit × Reading :=
  match x.state, x.openSection? with
  | .awaitingType, some s =>
    if name ≠ s.family then x.refuse (.typeInside name s.family)
    else if text = "counter" ∨ text = "gauge" then
      (.ok (), { x with openSection? := some { s with type := text }, state := .inSection })
    else x.refuse (.unsupportedType text)
  | _, _ => x.refuse (.typeWithoutHelp name)

def takeUnit (x : Reading) (name text : String) : Except LineError Unit × Reading :=
  match x.state, x.openSection? with
  | .inSection, some s =>
    if !s.unit.isEmpty || !s.samples.isEmpty then x.refuse .unitMisplaced
    else if name ≠ s.family then x.refuse (.unitInside name s.family)
    else (.ok (), { x with openSection? := some { s with unit := text } })
  | _, _ => x.refuse .unitMisplaced

def takeMetadata (x : Reading) (line : List Char) : Except LineError Unit × Reading :=
  if line = "# EOF".toList then x.takeEnd
  else match cutSpaces 3 line with
    | ['#'] :: keyword :: name :: text =>
      let text := text.flatten
      if keyword = "HELP".toList then x.takeHelp name text
      else if keyword = "TYPE".toList then x.takeType (String.ofList name) (String.ofList text)
      else if keyword = "UNIT".toList then x.takeUnit (String.ofList name) (String.ofList text)
      else x.refuse (.unknownKeyword (String.ofList keyword))
    | _ => x.refuse (.metadata (String.ofList line))

def takeSample (x : Reading) (lineNumber : Nat) (line : List Char) : Except LineError Unit × Reading :=
  match x.state, x.openSection? with
  | .inSection, some s => match s.readSample lineNumber line with
    | .error e => (.error e, x)
    | .ok sample => (.ok (), { x with openSection? := some { s with samples := s.samples ++ [sample] } })
  | _, _ => x.refuse (.sampleOutside (String.ofList line))

def take (x : Reading) (lineNumber : Nat) (line : List Char) : Except LineError Unit × Reading :=
  if line.head? = some '#' then x.takeMetadata line else x.takeSample lineNumber line

end Reading

structure Reader where
  /-- The sequence of bytes that has begun. -/
  pending : Option Utf8.Partial
  /-- The line that has begun. -/
  buffer : List Char
  lineNumber : Nat
  reading : Reading
deriving DecidableEq, Repr

namespace Reader

def start : Reader := ⟨none, [], 0, Reading.start⟩

def complete (r : Reader) : Bool := r.reading.state = .complete

def takeLines (r : Reader) : List (List Char) → Except DecodeError Unit × Reader
  | [] => (.ok (), r)
  | line :: lines =>
    let n := r.lineNumber + 1
    if r.complete then (.error (.parse n .dataAfterEnd), { r with lineNumber := n })
    else match r.reading.take n line with
      | (.error e, x) => (.error (e.at n), { r with lineNumber := n, reading := x })
      | (.ok (), x) => takeLines { r with lineNumber := n, reading := x } lines

def feedChars (r : Reader) (cs : List Char) : Except DecodeError Bool × Reader :=
  let (lines, rest) := Decoder.cutLines (r.buffer ++ cs)
  match takeLines { r with buffer := rest } lines with
  | (.error e, r') => (.error e, r')
  | (.ok (), r') =>
    if r'.complete && !r'.buffer.isEmpty then (.error (.parse (r'.lineNumber + 1) .dataAfterEnd), r')
    else (.ok r'.complete, r')

def feed (r : Reader) : Chunk → Except DecodeError Bool × Reader
  | .text s => r.feedChars s.toList
  | .bytes bs => match Utf8.decode 0 r.pending bs with
    | .error e => (.error (.parse (r.lineNumber + 1) (.invalidUtf8 e.reason)), r)
    | .ok (cs, pending) => { r with pending := pending }.feedChars cs

def close (r : Reader) : Except DecodeError (List ReadSample) :=
  match r.pending with
  | some p => .error (.parse (r.lineNumber + 1) (.truncatedUtf8 p.endReason))
  | none =>
    if r.complete then .ok r.reading.samples
    else if r.buffer = "# EOF".toList then .error (.parse (r.lineNumber + 1) .endWithoutNewline)
    else .error (.parse r.lineNumber .noEnd)

end Reader

end BpfExporter.Exposition
