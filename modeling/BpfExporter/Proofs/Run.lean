import BpfExporter.Proofs.Lines

/-! The decoder as a run over lines. Of a decoder, only the count of lines and the progress take part in
the reading of a line; the buffer and the bytes that are pending wait beside it. -/
namespace BpfExporter.Exposition

open Decoder (cutLines)

namespace Progress

/-- Takes the lines after the first `n`, up to the first that is refused. With the answer come the count
of lines read and the progress. -/
def run (n : Nat) (p : Progress) : List (List Char) → Except DecodeError Unit × Nat × Progress
  | [] => (.ok (), n, p)
  | line :: lines =>
    if p.stage = .complete then (.error (.parse (n + 1) .dataAfterEnd), n + 1, p)
    else match p.take (n + 1) line with
      | (.error e, p') => (.error (e.at (n + 1)), n + 1, p')
      | (.ok (), p') => run (n + 1) p' lines

@[simp] theorem run_nil (n : Nat) (p : Progress) : run n p [] = (.ok (), n, p) := rfl

theorem run_complete {p : Progress} (h : p.stage = .complete) (n : Nat) (line : List Char)
    (lines : List (List Char)) :
    run n p (line :: lines) = (.error (.parse (n + 1) .dataAfterEnd), n + 1, p) := by
  simp [run, h]

theorem run_of_ok {n : Nat} {p p' : Progress} {line : List Char} (hp : p.stage ≠ .complete)
    (h : p.take (n + 1) line = (.ok (), p')) (lines : List (List Char)) :
    run n p (line :: lines) = run (n + 1) p' lines := by
  simp [run, hp, h]

theorem run_of_error {n : Nat} {p p' : Progress} {line : List Char} {e : LineError}
    (hp : p.stage ≠ .complete) (h : p.take (n + 1) line = (.error e, p')) (lines : List (List Char)) :
    run n p (line :: lines) = (.error (e.at (n + 1)), n + 1, p') := by
  simp [run, hp, h]

theorem run_append (n : Nat) (p : Progress) (ls ms : List (List Char)) :
    run n p (ls ++ ms) = match run n p ls with
      | (.error e, q) => (.error e, q)
      | (.ok (), n', p') => run n' p' ms := by
  induction ls generalizing n p with
  | nil => rfl
  | cons line ls ih =>
    by_cases hp : p.stage = .complete
    · simp [run_complete hp]
    · cases h : p.take (n + 1) line with
      | mk r p' =>
        cases r with
        | error e => simp [run_of_error hp h]
        | ok u => simp [run_of_ok hp h, ih]

end Progress

namespace Decoder

theorem takeLines_eq_run (d : Decoder) (lines : List (List Char)) :
    d.takeLines lines = ((d.progress.run d.lineNumber lines).1,
      { d with lineNumber := (d.progress.run d.lineNumber lines).2.1
               progress := (d.progress.run d.lineNumber lines).2.2 }) := by
  induction lines generalizing d with
  | nil => rfl
  | cons line lines ih =>
    by_cases hp : d.progress.stage = .complete
    · simp [takeLines, complete, hp, Progress.run_complete hp]
    · cases h : d.progress.take (d.lineNumber + 1) line with
      | mk r p =>
        cases r with
        | error e => simp [takeLines, complete, hp, h, Progress.run_of_error hp h]
        | ok u => simp [takeLines, complete, hp, h, Progress.run_of_ok hp h, ih]

/-- Feeding is a run over the lines that have become whole; nothing may follow the end of the text. -/
theorem feedChars_eq_run (d : Decoder) (cs : List Char) :
    d.feedChars cs =
      match d.progress.run d.lineNumber (cutLines (d.buffer ++ cs)).1 with
      | (.error e, n, p) => (.error e, ⟨d.pending, (cutLines (d.buffer ++ cs)).2, n, p⟩)
      | (.ok (), n, p) =>
        if p.stage = .complete ∧ (cutLines (d.buffer ++ cs)).2 ≠ [] then
          (.error (.parse (n + 1) .dataAfterEnd), ⟨d.pending, (cutLines (d.buffer ++ cs)).2, n, p⟩)
        else (.ok (decide (p.stage = .complete)), ⟨d.pending, (cutLines (d.buffer ++ cs)).2, n, p⟩) := by
  rw [feedChars]
  simp only [takeLines_eq_run]
  cases h : d.progress.run d.lineNumber (cutLines (d.buffer ++ cs)).1 with
  | mk r q =>
    cases r with
    | error e => rfl
    | ok u => simp [complete]

end Decoder

end BpfExporter.Exposition
