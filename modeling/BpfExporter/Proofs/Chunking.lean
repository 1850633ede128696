import BpfExporter.Proofs.Run
import BpfExporter.Proofs.Utf8

/-! Chunks of a text. However a text is cut, between its characters or between its bytes, the decoder
ends where it would end with the text fed at once. -/
namespace BpfExporter.Exposition

open Decoder (cutLines)

namespace Decoder

/-- Feeds a chunk and those after it, up to the first that is refused. -/
def feedEach (d : Decoder) (c : Chunk) : List Chunk → Except DecodeError Bool × Decoder
  | [] => d.feed c
  | c' :: cs => match d.feed c with
    | (.error e, d') => (.error e, d')
    | (.ok _, d') => feedEach d' c' cs

/-- What shows after feeding: the last status and all that can be asked for, or the refusal and what was
read before it. -/
inductive Outcome
  | fed (complete : Bool) (progress : Progress) (close : Except DecodeError (List Sample))
  | refused (e : DecodeError) (progress : Progress)

def outcome : Except DecodeError Bool × Decoder → Outcome
  | (.ok complete, d) => .fed complete d.progress d.close
  | (.error e, d) => .refused e d.progress

end Decoder

/-- The chunks of a text that is cut between its characters, or between its bytes. -/
inductive Chunk.Cuts (s : String) : List Chunk → Prop
  | texts (parts : List String) (h : String.join parts = s) : Cuts s (parts.map .text)
  | bytes (parts : List (List UInt8)) (h : parts.flatten = Utf8.encode s) : Cuts s (parts.map .bytes)

namespace Decoder

@[simp] theorem outcome_error (e : DecodeError) (d : Decoder) :
    outcome (.error e, d) = .refused e d.progress := rfl

theorem feedChars_append_of_ok {d d' : Decoder} {xs : List Char} {b : Bool}
    (h : d.feedChars xs = (.ok b, d')) (ys : List Char) :
    d.feedChars (xs ++ ys) = d'.feedChars ys := by
  rw [feedChars_eq_run] at h
  cases hr : d.progress.run d.lineNumber (cutLines (d.buffer ++ xs)).1 with
  | mk r q =>
    obtain ⟨n, p⟩ := q
    cases r with
    | error e => simp [hr] at h
    | ok u =>
      rw [hr] at h
      simp only at h
      split at h
      · simp at h
      · simp only [Prod.mk.injEq, Except.ok.injEq] at h
        obtain ⟨-, rfl⟩ := h
        rw [feedChars_eq_run, feedChars_eq_run, ← List.append_assoc, cutLines_append,
          Progress.run_append, hr]

theorem feedChars_append_of_error {d d' : Decoder} {xs : List Char} {e : DecodeError}
    (h : d.feedChars xs = (.error e, d')) (ys : List Char) :
    ∃ d'', d.feedChars (xs ++ ys) = (.error e, d'') ∧ d''.progress = d'.progress := by
  rw [feedChars_eq_run] at h
  rw [feedChars_eq_run, ← List.append_assoc, cutLines_append, Progress.run_append]
  cases hr : d.progress.run d.lineNumber (cutLines (d.buffer ++ xs)).1 with
  | mk r q =>
    obtain ⟨n, p⟩ := q
    rw [hr] at h
    cases r with
    | error e' =>
      simp only [Prod.mk.injEq, Except.error.injEq] at h
      obtain ⟨rfl, rfl⟩ := h
      exact ⟨_, rfl, rfl⟩
    | ok u =>
      simp only at h ⊢
      split at h
      · next hp =>
        simp only [Prod.mk.injEq, Except.error.injEq] at h
        obtain ⟨rfl, rfl⟩ := h
        generalize (cutLines (d.buffer ++ xs)).2 = rest at hp
        have hcut := unlines_cutLines (rest ++ ys)
        -- What follows the end is refused as a whole line, or as the beginning of one.
        cases hl : (cutLines (rest ++ ys)).1 with
        | nil =>
          have hrest : (cutLines (rest ++ ys)).2 ≠ [] := by
            rw [hl, unlines_nil, List.nil_append] at hcut
            simp [hcut, hp.2]
          exact ⟨⟨d.pending, (cutLines (rest ++ ys)).2, n, p⟩, by simp [hp.1, hrest], rfl⟩
        | cons line lines =>
          exact ⟨⟨d.pending, (cutLines (rest ++ ys)).2, n + 1, p⟩,
            by simp [Progress.run_complete hp.1], rfl⟩
      · simp at h

theorem feedChars_pending (d : Decoder) (pending : Option Utf8.Partial) (cs : List Char) :
    { d with pending := pending }.feedChars cs =
      ((d.feedChars cs).1, { (d.feedChars cs).2 with pending := pending }) := by
  rw [feedChars_eq_run, feedChars_eq_run]
  cases hr : d.progress.run d.lineNumber (cutLines (d.buffer ++ cs)).1 with
  | mk r q =>
    obtain ⟨n, p⟩ := q
    cases r with
    | error e => simp
    | ok u =>
      simp only
      split <;> rfl

theorem outcome_feedEach_texts (d : Decoder) (part : String) (parts : List String) :
    outcome (d.feedEach (.text part) (parts.map .text)) =
      outcome (d.feedChars (String.join (part :: parts)).toList) := by
  induction parts generalizing d part with
  | nil => simp [feedEach, feed]
  | cons part' parts ih =>
    have hjoin : (String.join (part :: part' :: parts)).toList =
        part.toList ++ (String.join (part' :: parts)).toList := by simp
    rw [hjoin, List.map_cons, feedEach, feed]
    cases h : d.feedChars part.toList with
    | mk r d' =>
      cases r with
      | error e =>
        obtain ⟨d'', hw, hp⟩ := feedChars_append_of_error h (String.join (part' :: parts)).toList
        rw [hw, outcome_error, outcome_error, hp]
      | ok b => rw [feedChars_append_of_ok h, ← ih]

/-- Bytes are fed as the characters that they give, whatever is pending between the chunks. -/
theorem outcome_feedEach_bytes {d : Decoder} {bs : List UInt8} {parts : List (List UInt8)}
    {cs : List Char} (h : Utf8.decode 0 d.pending (bs ++ parts.flatten) = .ok (cs, none)) :
    outcome (d.feedEach (.bytes bs) (parts.map .bytes)) =
      outcome ({ d with pending := none }.feedChars cs) := by
  induction parts generalizing d bs cs with
  | nil =>
    rw [List.flatten_nil, List.append_nil] at h
    simp [feedEach, feed, h]
  | cons bs' parts ih =>
    rw [Utf8.decode_append] at h
    cases hb : Utf8.decode 0 d.pending bs with
    | error e => simp [hb] at h
    | ok first =>
      obtain ⟨xs, pending⟩ := first
      simp only [hb] at h
      cases hr : Utf8.decode (0 + bs.length) pending (bs' :: parts).flatten with
      | error e => simp only [hr, Except.map, reduceCtorEq] at h
      | ok rest =>
        obtain ⟨ys, pending'⟩ := rest
        simp only [hr, Except.map, Except.ok.injEq, Prod.mk.injEq] at h
        obtain ⟨rfl, rfl⟩ := h
        rw [List.map_cons, feedEach, feed, hb]
        simp only [feedChars_pending d pending xs]
        cases hx : d.feedChars xs with
        | mk r d' =>
          have hn : { d with pending := none }.feedChars xs = (r, { d' with pending := none }) := by
            rw [feedChars_pending, hx]
          cases r with
          | error e =>
            obtain ⟨d'', hw, hp⟩ := feedChars_append_of_error hn ys
            rw [hw, outcome_error, outcome_error, hp]
          | ok b =>
            rw [feedChars_append_of_ok hn]
            exact ih (d := { d' with pending := pending }) (Utf8.decode_ok_of_ok hr 0)

/-- Cutting a text is invisible: its chunks fed one after another, up to the first that is refused, have
the outcome of the whole text fed at once. -/
theorem outcome_of_cuts {s : String} {c : Chunk} {cs : List Chunk} (h : Chunk.Cuts s (c :: cs)) :
    outcome (start.feedEach c cs) = outcome (start.feed (.text s)) := by
  generalize hcs : c :: cs = chunks at h
  cases h with
  | texts parts h =>
    cases parts with
    | nil => simp at hcs
    | cons part parts =>
      simp only [List.map_cons, List.cons.injEq] at hcs
      obtain ⟨rfl, rfl⟩ := hcs
      rw [outcome_feedEach_texts, h, feed]
  | bytes parts h =>
    cases parts with
    | nil => simp at hcs
    | cons bs parts =>
      simp only [List.map_cons, List.cons.injEq] at hcs
      obtain ⟨rfl, rfl⟩ := hcs
      rw [List.flatten_cons] at h
      have hd : Utf8.decode 0 start.pending (bs ++ parts.flatten) = .ok (s.toList, none) := by
        rw [h]
        exact Utf8.decode_encode s 0
      exact outcome_feedEach_bytes hd

/-- A text that goes on after its end, cut before the last newline and inside the character after it: what follows the
end is refused on the second line. -/
theorem outcome_of_cut_character :
    Chunk.Cuts "# EOF\né"
      [.bytes [0x23, 0x20, 0x45, 0x4f, 0x46], .bytes [0x0a, 0xc3], .bytes [0xa9]] ∧
    outcome (start.feedEach (.bytes [0x23, 0x20, 0x45, 0x4f, 0x46]) [.bytes [0x0a, 0xc3], .bytes [0xa9]]) =
      outcome (start.feed (.text "# EOF\né")) ∧
    outcome (start.feed (.text "# EOF\né")) = .refused (.parse 2 .dataAfterEnd) ⟨.complete, []⟩ :=
  have h : Chunk.Cuts "# EOF\né"
      [.bytes [0x23, 0x20, 0x45, 0x4f, 0x46], .bytes [0x0a, 0xc3], .bytes [0xa9]] :=
    .bytes [[0x23, 0x20, 0x45, 0x4f, 0x46], [0x0a, 0xc3], [0xa9]] (by decide)
  ⟨h, outcome_of_cuts h, rfl⟩

end Decoder

end BpfExporter.Exposition
