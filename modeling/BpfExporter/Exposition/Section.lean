import BpfExporter.Exposition.Fault
import BpfExporter.Exposition.Metric
import BpfExporter.Exposition.SampleLine

/-! The sections of an exposition text, read line by line. HELP begins a section, TYPE and UNIT describe
it, and its samples follow; they are committed when the section is closed, by the next HELP or by
`# EOF`. A line that is refused leaves everything as it is, but for a HELP line with a bad escape, which
has closed the section before it. -/
namespace BpfExporter.Exposition

/-- A section whose type is known. -/
structure Section where
  family : String
  type : MetricType
  unit : List Char
  samples : List Sample
deriving DecidableEq, Repr

/-- Where the reading stands. -/
inductive Stage
  | awaitingSection
  /-- A HELP line has named a family. -/
  | awaitingType (family : String)
  | inSection (s : Section)
  /-- The section was closed by a HELP line that was then refused. -/
  | betweenSections
  | complete
deriving DecidableEq, Repr

def Stage.name : Stage → String
  | .awaitingSection => "AWAITING_SECTION"
  | .awaitingType _ => "AWAITING_TYPE"
  | .inSection _ | .betweenSections => "IN_SECTION"
  | .complete => "COMPLETE"

def Stage.openSamples : Stage → List Sample
  | .inSection s => s.samples
  | _ => []

/-- The stage that is left when a section has been closed and no other begun. -/
def Stage.withoutSection : Stage → Stage
  | .inSection _ => .betweenSections
  | s => s

/-- The stage and the committed samples. -/
structure Progress where
  stage : Stage
  samples : List Sample
deriving DecidableEq, Repr

namespace Progress

def start : Progress := ⟨.awaitingSection, []⟩

def closed (p : Progress) : List Sample := p.samples ++ p.stage.openSamples

end Progress

/-- Cuts a text at its first `n` spaces. -/
def cutSpaces : Nat → List Char → List (List Char)
  | 0, cs => [cs]
  | n + 1, cs => match cs.dropWhile (· != ' ') with
    | [] => [cs]
    | _ :: rest => cs.takeWhile (· != ' ') :: cutSpaces n rest

def Section.readSample (s : Section) (lineNumber : Nat) (line : List Char) : Except LineError Sample :=
  match SampleLine.read? line with
  | none => .error (.malformed (.sample (String.ofList line)))
  | some parts =>
    if parts.name ≠ sampleName s.family s.type then
      .error (.malformed (.foreignSample parts.name s.family))
    else if !Numeral.isSigned parts.value then
      .error (.malformed (.notNumeric (String.ofList parts.value)))
    else match Numeral.readSigned parts.value with
      | .error e => .error (.numeral e)
      | .ok value =>
        if s.type = .counter ∧ value < 0 then .error (.malformed (.negativeCounter value))
        else match LabelText.read parts.labels with
          | .error e => .error (.malformed (.labels e))
          | .ok labels => .ok ⟨s.family, s.type, labels, value, lineNumber⟩

/-- What becomes of a line: it is taken or refused, and the progress after it. -/
abbrev Step := Except LineError Unit × Progress

namespace Progress

def refuse (p : Progress) (why : Malformed) : Step := (.error (.malformed why), p)

def advance (p : Progress) : Step := (.ok (), p)

def takeEnd (p : Progress) : Step :=
  match p.stage with
  | .awaitingType _ => refuse p .helpWithoutType
  | _ => advance ⟨.complete, p.closed⟩

def takeHelp (p : Progress) (name text : List Char) : Step :=
  match p.stage with
  | .awaitingType _ => refuse p .helpWithoutType
  | _ => match Escape.unescape text with
    | .error e => refuse ⟨p.stage.withoutSection, p.closed⟩ (.badEscape e)
    | .ok _ => advance ⟨.awaitingType (String.ofList name), p.closed⟩

def takeType (p : Progress) (name text : List Char) : Step :=
  let name := String.ofList name
  match p.stage with
  | .awaitingType family =>
    if name ≠ family then refuse p (.typeInside name family)
    else match MetricType.ofName? (String.ofList text) with
      | none => refuse p (.unsupportedType (String.ofList text))
      | some t => advance { p with stage := .inSection ⟨family, t, [], []⟩ }
  | _ => refuse p (.typeWithoutHelp name)

def takeUnit (p : Progress) (name text : List Char) : Step :=
  let name := String.ofList name
  match p.stage with
  | .inSection s =>
    if !s.unit.isEmpty || !s.samples.isEmpty then refuse p .unitMisplaced
    else if name ≠ s.family then refuse p (.unitInside name s.family)
    else advance { p with stage := .inSection { s with unit := text } }
  | _ => refuse p .unitMisplaced

/-- A line of four parts or three, the last of which is then taken for empty. -/
def takeMetadata (p : Progress) (line : List Char) : Step :=
  match cutSpaces 3 line with
  | ['#'] :: keyword :: name :: text =>
    let text := text.flatten
    if keyword = "HELP".toList then takeHelp p name text
    else if keyword = "TYPE".toList then takeType p name text
    else if keyword = "UNIT".toList then takeUnit p name text
    else refuse p (.unknownKeyword (String.ofList keyword))
  | _ => refuse p (.metadata (String.ofList line))

def takeSample (p : Progress) (lineNumber : Nat) (line : List Char) : Step :=
  match p.stage with
  | .inSection s => match s.readSample lineNumber line with
    | .error e => (.error e, p)
    | .ok sample => advance { p with stage := .inSection { s with samples := s.samples ++ [sample] } }
  | _ => refuse p (.sampleOutside (String.ofList line))

def take (p : Progress) (lineNumber : Nat) (line : List Char) : Step :=
  if line = "# EOF".toList then takeEnd p
  else if line.head? = some '#' then takeMetadata p line
  else takeSample p lineNumber line

end Progress

end BpfExporter.Exposition
