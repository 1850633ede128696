import BpfExporter.Proofs.Acceptance
import BpfExporter.Proofs.Chunking
import BpfExporter.Proofs.ProgramFold

/-! Whole texts, given as characters or as bytes. What is decoded are the texts of documents, whose samples
are folded; a text is refused by the decoder, at a line or for its end, or by the fold. -/
namespace BpfExporter.Exposition

open Grammar (Document)

/-- The characters that a chunk gives, and the bytes left of a character that is not whole. -/
def Chunk.Gives : Chunk → List Char → Option Utf8.Partial → Prop
  | .text s, cs, pending => s.toList = cs ∧ pending = none
  | .bytes bs, cs, pending => Utf8.decode 0 none bs = .ok (cs, pending)

/-- The chunk is a text, in characters or in bytes. -/
def Chunk.Spells (c : Chunk) (cs : List Char) : Prop := c.Gives cs none

theorem Chunk.spells_ofList (cs : List Char) : (Chunk.text (String.ofList cs)).Spells cs :=
  ⟨String.toList_ofList, rfl⟩

theorem Chunk.Spells.unique {c : Chunk} {cs cs' : List Char} (h : c.Spells cs) (h' : c.Spells cs') : cs = cs' := by
  cases c with
  | text s => exact h.1.symm.trans h'.1
  | bytes bs =>
    have hdecode : Utf8.decode 0 none bs = .ok (cs, none) := h
    have hdecode' : Utf8.decode 0 none bs = .ok (cs', none) := h'
    rw [hdecode, Except.ok.injEq, Prod.mk.injEq] at hdecode'
    exact hdecode'.1

namespace Decoder

theorem feed_of_gives {c : Chunk} {cs : List Char} {pending : Option Utf8.Partial} (h : c.Gives cs pending) :
    start.feed c = ((start.feedChars cs).1, { (start.feedChars cs).2 with pending := pending }) := by
  cases c with
  | text s =>
    obtain ⟨rfl, rfl⟩ := h
    exact feedChars_pending start none s.toList
  | bytes bs =>
    have hdecode : Utf8.decode 0 start.pending bs = .ok (cs, pending) := h
    rw [feed, hdecode]
    exact feedChars_pending start pending cs

theorem feed_of_spells {c : Chunk} {cs : List Char} (h : c.Spells cs) :
    start.feed c = start.feed (.text (String.ofList cs)) := by
  rw [feed_of_gives h, feed_of_gives (Chunk.spells_ofList cs)]

theorem gives_of_feed {c : Chunk} {b : Bool} {d : Decoder} (h : start.feed c = (.ok b, d)) :
    ∃ cs, c.Gives cs d.pending := by
  cases c with
  | text s =>
    obtain ⟨n, p, -, -, -, rfl⟩ := feed_text_eq_ok_iff.1 h
    exact ⟨s.toList, rfl, rfl⟩
  | bytes bs =>
    cases hdecode : Utf8.decode 0 start.pending bs with
    | error e => simp [feed, hdecode] at h
    | ok r =>
      obtain ⟨cs, pending⟩ := r
      have hgives : (Chunk.bytes bs).Gives cs pending := hdecode
      rw [feed_of_gives hgives] at h
      exact ⟨cs, (Prod.mk.inj h).2 ▸ hgives⟩

/-- A chunk is taken up to its end exactly when it is the text of a document. -/
theorem reads_chunk_iff {c : Chunk} {samples : List Sample} :
    (∃ b d, start.feed c = (.ok b, d) ∧ d.close = .ok samples) ↔
      ∃ doc : Document, c.Spells doc.text ∧ samples = doc.read := by
  constructor
  · rintro ⟨b, d, hfeed, hclose⟩
    obtain ⟨cs, hgives⟩ := gives_of_feed hfeed
    have hspells : c.Spells cs := by
      rw [(close_eq_ok_iff.1 hclose).1] at hgives
      exact hgives
    rw [feed_of_spells hspells] at hfeed
    obtain ⟨-, doc, htext, hread⟩ := reads_iff.1 ⟨d, hfeed, hclose⟩
    rw [String.toList_ofList] at htext
    exact ⟨doc, htext ▸ hspells, hread⟩
  · rintro ⟨doc, hspells, rfl⟩
    obtain ⟨d, hfeed, hclose⟩ := reads_iff.2 ⟨rfl, doc, String.toList_ofList, rfl⟩
    exact ⟨true, d, (feed_of_spells hspells).trans hfeed, hclose⟩

end Decoder

variable {path : String} {c : Chunk}

theorem decode_of_spells {doc : Document} (h : c.Spells doc.text) (previous : Records) :
    decode c path previous = foldPrograms path previous doc.read := by
  obtain ⟨b, d, hfeed, hclose⟩ := Decoder.reads_chunk_iff.2 ⟨doc, h, rfl⟩
  rw [decode, hfeed]
  simp only [Decoder.records, hclose]

theorem decode_eq_ok_iff {previous records : Records} :
    decode c path previous = .ok records ↔
      ∃ doc : Document, c.Spells doc.text ∧ foldPrograms path previous doc.read = .ok records := by
  constructor
  · intro h
    cases hfeed : Decoder.start.feed c with
    | mk r d =>
      cases r with
      | error e => simp [decode, hfeed] at h
      | ok b =>
        cases hclose : d.close with
        | error e => simp [decode, hfeed, Decoder.records, hclose] at h
        | ok samples =>
          obtain ⟨doc, hspells, -⟩ := Decoder.reads_chunk_iff.1 ⟨b, d, hfeed, hclose⟩
          rw [decode_of_spells hspells] at h
          exact ⟨doc, hspells, h⟩
  · rintro ⟨doc, hspells, hfold⟩
    rw [decode_of_spells hspells, hfold]

end BpfExporter.Exposition
