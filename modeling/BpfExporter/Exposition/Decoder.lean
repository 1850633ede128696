import BpfExporter.Exposition.Section

/-! The decoder of exposition text. It is fed with chunks cut anywhere: what follows the last newline is
kept until its line is whole, and the bytes of a character until it is whole. A refused line leaves the
decoder usable; the lines after it in its chunk are lost. -/
namespace BpfExporter.Exposition

/-- A chunk of text or of bytes. -/
inductive Chunk
  | text (s : String)
  | bytes (bs : List UInt8)

structure Decoder where
  /-- The sequence of bytes that has begun. -/
  pending : Option Utf8.Partial
  /-- The line that has begun. -/
  buffer : List Char
  /-- The count of lines read. -/
  lineNumber : Nat
  progress : Progress
deriving DecidableEq, Repr

namespace Decoder

def start : Decoder := ⟨none, [], 0, Progress.start⟩

def complete (d : Decoder) : Bool := d.progress.stage = .complete

def samples (d : Decoder) : List Sample := d.progress.samples

/-- Cuts a text at its newlines: the whole lines, and what follows the last newline. -/
def cutLines : List Char → List (List Char) × List Char
  | [] => ([], [])
  | '\n' :: cs => ([] :: (cutLines cs).1, (cutLines cs).2)
  | c :: cs => match cutLines cs with
    | ([], rest) => ([], c :: rest)
    | (line :: lines, rest) => ((c :: line) :: lines, rest)

def takeLines (d : Decoder) : List (List Char) → Except DecodeError Unit × Decoder
  | [] => (.ok (), d)
  | line :: lines =>
    let n := d.lineNumber + 1
    if d.complete then (.error (.parse n .dataAfterEnd), { d with lineNumber := n })
    else match d.progress.take n line with
      | (.error e, p) => (.error (e.at n), { d with lineNumber := n, progress := p })
      | (.ok (), p) => takeLines { d with lineNumber := n, progress := p } lines

def feedChars (d : Decoder) (cs : List Char) : Except DecodeError Bool × Decoder :=
  let (lines, rest) := cutLines (d.buffer ++ cs)
  match takeLines { d with buffer := rest } lines with
  | (.error e, d') => (.error e, d')
  | (.ok (), d') =>
    if d'.complete && !d'.buffer.isEmpty then (.error (.parse (d'.lineNumber + 1) .dataAfterEnd), d')
    else (.ok d'.complete, d')

/-- Feeds a chunk. Bytes that are no UTF-8 are refused as a whole. -/
def feed (d : Decoder) : Chunk → Except DecodeError Bool × Decoder
  | .text s => d.feedChars s.toList
  | .bytes bs => match Utf8.decode 0 d.pending bs with
    | .error e => (.error (.parse (d.lineNumber + 1) (.invalidUtf8 e.reason)), d)
    | .ok (cs, pending) => { d with pending := pending }.feedChars cs

/-- The samples at the end of the input, which must be the end of the text. -/
def close (d : Decoder) : Except DecodeError (List Sample) :=
  match d.pending with
  | some p => .error (.parse (d.lineNumber + 1) (.truncatedUtf8 p.endReason))
  | none =>
    if d.complete then .ok d.samples
    else if d.buffer = "# EOF".toList then .error (.parse (d.lineNumber + 1) .endWithoutNewline)
    else .error (.parse d.lineNumber .noEnd)

end Decoder

end BpfExporter.Exposition
