import BpfExporter.Proofs.Acceptance
import BpfExporter.Proofs.Chunking
import BpfExporter.Proofs.Placement

/-! Feeding that goes on after refusals. Without a refusal the decoder is where the chunks put together would have
left it, and one refusal among the chunks is one of the whole. What is read past refusals is a document all the
same, of lines that were fed, in their order. -/
namespace BpfExporter.Exposition

open Decoder (cutLines)
open Grammar

/-! ### Lines after a refusal -/

/-- A stage that is reached past refused lines, and one that is reached by the lines alone that were taken. A HELP
line with a bad escape has closed its section in the first and is not there in the second. -/
inductive Stage.Follows : Stage → Stage → Prop
  | awaitingSection : Follows .awaitingSection .awaitingSection
  | awaitingType (family : String) : Follows (.awaitingType family) (.awaitingType family)
  | inSection {s : Section} {samples : List Sample} (h : s.samples = [] → samples = []) :
      Follows (.inSection s) (.inSection { s with samples := samples })
  | betweenSections {t : Stage} (ha : ∀ f, t ≠ .awaitingType f) (hc : t ≠ .complete) :
      Follows .betweenSections t
  | complete : Follows .complete .complete

namespace Stage.Follows

variable {s t : Stage}

theorem not_awaitingType (h : s.Follows t) (hs : ∀ f, s ≠ .awaitingType f) : ∀ f, t ≠ .awaitingType f := by
  cases h with
  | awaitingType family => exact absurd rfl (hs family)
  | betweenSections ha hc => exact ha
  | _ => simp

theorem complete_iff (h : s.Follows t) : s = .complete ↔ t = .complete := by
  cases h with
  | betweenSections ha hc => simpa using hc
  | _ => simp

theorem withoutSection (h : s.Follows t) : s.withoutSection.Follows t := by
  cases h with
  | inSection => exact .betweenSections (by simp) (by simp)
  | awaitingSection => exact .awaitingSection
  | awaitingType family => exact .awaitingType family
  | betweenSections ha hc => exact .betweenSections ha hc
  | complete => exact .complete

end Stage.Follows

namespace Progress

/-- Past refused lines as much has been read as by the lines alone that were taken, but for their numbers. -/
structure Follows (p q : Progress) : Prop where
  stage : p.stage.Follows q.stage
  contents : p.closed.map Sample.content = q.closed.map Sample.content

variable {p p' q : Progress} {n : Nat} {line : List Char}

theorem closed_of_openSamples {s : Stage} (h : s.openSamples = []) (samples : List Sample) :
    closed ⟨s, samples⟩ = samples := by
  rw [closed, h, List.append_nil]

theorem Follows.step (h : p.Follows q) (ht : Taken n p line p') (m : Nat) :
    ∃ q', Taken m q line q' ∧ p'.Follows q' := by
  obtain ⟨hstage, hcontents⟩ := h
  obtain ⟨s, samples⟩ := p
  obtain ⟨t, samples'⟩ := q
  cases ht with
  | eof hp =>
    refine ⟨_, .eof (hstage.not_awaitingType hp), .complete, ?_⟩
    rwa [closed_of_openSamples (s := .complete) rfl, closed_of_openSamples (s := .complete) rfl]
  | @help family text hp hf he =>
    refine ⟨_, .help (hstage.not_awaitingType hp) hf he, .awaitingType _, ?_⟩
    rwa [closed_of_openSamples (s := .awaitingType family) rfl,
      closed_of_openSamples (s := .awaitingType family) rfl]
  | type hp hf =>
    subst hp
    cases hstage
    exact ⟨_, .type rfl hf, .inSection id, hcontents⟩
  | @unit sec text hp hf hu hs =>
    subst hp
    cases hstage with
    | @inSection _ taken hsamples =>
      exact ⟨_, .unit (s := { sec with samples := taken }) rfl hf hu (hsamples hs), .inSection hsamples,
        hcontents⟩
  | @sample sec x hp hn hv =>
    subst hp
    cases hstage with
    | @inSection _ taken hsamples =>
      refine ⟨_, .sample (s := { sec with samples := taken }) rfl hn hv, .inSection (by simp), ?_⟩
      simp only [closed, Stage.openSamples, ← List.append_assoc, List.map_append] at hcontents ⊢
      rw [hcontents]
      rfl

theorem of_takeHelp_error {name text : List Char} {e : LineError} (h : p.takeHelp name text = (.error e, p')) :
    p' = p ∨ p' = ⟨p.stage.withoutSection, p.closed⟩ := by
  unfold takeHelp at h
  split at h
  · exact .inl (Prod.mk.inj h).2.symm
  split at h
  · exact .inr (Prod.mk.inj h).2.symm
  · cases h

theorem of_takeType_error {name text : List Char} {e : LineError} (h : p.takeType name text = (.error e, p')) :
    p' = p := by
  unfold takeType at h
  split at h
  · simp only [ne_eq, ite_not] at h
    split at h
    · split at h
      · exact (Prod.mk.inj h).2.symm
      · cases h
    · exact (Prod.mk.inj h).2.symm
  · exact (Prod.mk.inj h).2.symm

theorem of_takeUnit_error {name text : List Char} {e : LineError} (h : p.takeUnit name text = (.error e, p')) :
    p' = p := by
  unfold takeUnit at h
  split at h
  · split at h
    · exact (Prod.mk.inj h).2.symm
    simp only [ne_eq, ite_not] at h
    split at h
    · cases h
    · exact (Prod.mk.inj h).2.symm
  · exact (Prod.mk.inj h).2.symm

theorem of_takeSample_error {e : LineError} (h : p.takeSample n line = (.error e, p')) : p' = p := by
  unfold takeSample at h
  split at h
  · split at h
    · exact (Prod.mk.inj h).2.symm
    · cases h
  · exact (Prod.mk.inj h).2.symm

theorem of_take_error {e : LineError} (h : p.take n line = (.error e, p')) :
    p' = p ∨ p' = ⟨p.stage.withoutSection, p.closed⟩ := by
  unfold take at h
  split at h
  · unfold takeEnd at h
    split at h
    · exact .inl (Prod.mk.inj h).2.symm
    · cases h
  split at h
  · unfold takeMetadata at h
    split at h
    · simp only at h
      split at h
      · exact of_takeHelp_error h
      split at h
      · exact .inl (of_takeType_error h)
      split at h
      · exact .inl (of_takeUnit_error h)
      · exact .inl (Prod.mk.inj h).2.symm
    · exact .inl (Prod.mk.inj h).2.symm
  · exact .inl (of_takeSample_error h)

theorem Follows.refused (h : p.Follows q) {e : LineError} (ht : p.take n line = (.error e, p')) :
    p'.Follows q := by
  rcases of_take_error ht with rfl | rfl
  · exact h
  · refine ⟨h.stage.withoutSection, ?_⟩
    have hopen : p.stage.withoutSection.openSamples = [] := by cases p.stage <;> rfl
    rw [closed_of_openSamples hopen, h.contents]

theorem Follows.run (h : p.Follows q) (n m : Nat) (lines : List (List Char)) :
    ∃ kept m' q', kept.Sublist lines ∧ q.run m kept = (.ok (), m', q') ∧
      (p.run n lines).2.2.Follows q' := by
  induction lines generalizing p q n m with
  | nil => exact ⟨[], m, q, .slnil, rfl, h⟩
  | cons line lines ih =>
    by_cases hc : p.stage = .complete
    · rw [run_complete hc]
      exact ⟨[], m, q, List.nil_sublist _, rfl, h⟩
    · cases ht : p.take (n + 1) line with
      | mk r p' =>
        cases r with
        | error e =>
          rw [run_of_error hc ht]
          exact ⟨[], m, q, List.nil_sublist _, rfl, h.refused ht⟩
        | ok u =>
          obtain ⟨q', htaken, hfollows⟩ := h.step (take_eq_ok_iff.1 ht) (m + 1)
          obtain ⟨kept, m', q'', hkept, hrun, hlast⟩ := ih hfollows (n + 1) (m + 1)
          have hq : q.stage ≠ .complete := fun e => hc (h.stage.complete_iff.2 e)
          rw [run_of_ok hc ht]
          exact ⟨line :: kept, m', q'', hkept.cons_cons line, (run_of_taken hq htaken kept).trans hrun, hlast⟩

end Progress

/-! ### Chunks after a refusal -/

/-- The characters that a chunk gives after what is pending, and what is pending then. Bytes that are no UTF-8
give none and leave what is pending. -/
def Chunk.give (pending : Option Utf8.Partial) : Chunk → List Char × Option Utf8.Partial
  | .text s => (s.toList, pending)
  | .bytes bs => match Utf8.decode 0 pending bs with
    | .ok r => r
    | .error _ => ([], pending)

def Chunk.giveAll (pending : Option Utf8.Partial) : List Chunk → List Char
  | [] => []
  | c :: cs => (c.give pending).1 ++ giveAll (c.give pending).2 cs

namespace Decoder

/-- Feeds chunks one after another, also after one that is refused. -/
def feedAll (d : Decoder) : List Chunk → List (Except DecodeError Bool) × Decoder
  | [] => ([], d)
  | c :: cs => ((d.feed c).1 :: (feedAll (d.feed c).2 cs).1, (feedAll (d.feed c).2 cs).2)

theorem feedChars_snd (d : Decoder) (cs : List Char) : (d.feedChars cs).2 =
    ⟨d.pending, (cutLines (d.buffer ++ cs)).2,
      (d.progress.run d.lineNumber (cutLines (d.buffer ++ cs)).1).2.1,
      (d.progress.run d.lineNumber (cutLines (d.buffer ++ cs)).1).2.2⟩ := by
  rw [feedChars_eq_run]
  cases hr : d.progress.run d.lineNumber (cutLines (d.buffer ++ cs)).1 with
  | mk r q =>
    cases r with
    | error e => rfl
    | ok u =>
      simp only
      split <;> rfl

/-- The decoder has been given characters: the last line waits, and what was read of the others follows from some
of them. -/
structure HasRead (d : Decoder) (cs : List Char) : Prop where
  buffer : d.buffer = (cutLines cs).2
  kept : ∃ kept n q, kept.Sublist (cutLines cs).1 ∧ Progress.start.run 0 kept = (.ok (), n, q) ∧
    d.progress.Follows q

variable {d d' : Decoder} {cs : List Char}

theorem HasRead.feedChars (h : d.HasRead cs) (xs : List Char) : (d.feedChars xs).2.HasRead (cs ++ xs) := by
  obtain ⟨hbuffer, kept, n, q, hkept, hrun, hfollows⟩ := h
  obtain ⟨kept', n', q', hkept', hrun', hfollows'⟩ :=
    hfollows.run d.lineNumber n (cutLines (d.buffer ++ xs)).1
  rw [hbuffer] at hkept' hfollows'
  rw [feedChars_snd, hbuffer]
  refine ⟨?_, kept ++ kept', n', q', ?_, ?_, hfollows'⟩
  · rw [cutLines_append cs xs]
  · rw [cutLines_append cs xs]
    exact hkept.append hkept'
  · rw [Progress.run_append, hrun]
    exact hrun'

theorem HasRead.feed (h : d.HasRead cs) (c : Chunk) :
    (d.feed c).2.HasRead (cs ++ (c.give d.pending).1) ∧ (d.feed c).2.pending = (c.give d.pending).2 := by
  cases c with
  | text s => exact ⟨h.feedChars s.toList, by rw [Decoder.feed, feedChars_snd]; rfl⟩
  | bytes bs =>
    rw [Decoder.feed, Chunk.give]
    cases Utf8.decode 0 d.pending bs with
    | error e => exact ⟨by simpa using h, rfl⟩
    | ok r =>
      have hpending : HasRead { d with pending := r.2 } cs := ⟨h.buffer, h.kept⟩
      exact ⟨hpending.feedChars r.1, by simp only [feedChars_snd]⟩

theorem HasRead.feedAll (h : d.HasRead cs) (chunks : List Chunk) :
    (d.feedAll chunks).2.HasRead (cs ++ Chunk.giveAll d.pending chunks) := by
  induction chunks generalizing d cs with
  | nil => simpa [Decoder.feedAll, Chunk.giveAll] using h
  | cons c chunks ih =>
    obtain ⟨hread, hpending⟩ := h.feed c
    have hrest := ih hread
    rw [hpending, List.append_assoc] at hrest
    exact hrest

theorem HasRead.exists_document (h : d.HasRead cs) {samples : List Sample} (hclose : d.close = .ok samples) :
    ∃ doc : Document, doc.lines.Sublist (cutLines cs).1 ∧
      samples.map Sample.content = doc.read.map Sample.content := by
  obtain ⟨-, kept, n, q, hkept, hrun, hstage, hcontents⟩ := h
  obtain ⟨-, hcomplete, rfl⟩ := close_eq_ok_iff.1 hclose
  have hd : d.progress.stage = .complete := of_decide_eq_true hcomplete
  have hq : q.stage = .complete := hstage.complete_iff.1 hd
  have hlines : ∀ line ∈ kept, '\n' ∉ line := fun line hl => (not_mem_cutLines cs).1 line (hkept.subset hl)
  obtain ⟨doc, rfl, hread⟩ := Progress.exists_document_of_run hlines hrun hq
  refine ⟨doc, hkept, ?_⟩
  rw [← hread]
  simpa [Decoder.samples, Progress.closed, hd, hq, Stage.openSamples] using hcontents

end Decoder

/-! ### Chunks and the whole -/

/-- Two chunks of one sort put together. -/
inductive Chunk.Append : Chunk → Chunk → Chunk → Prop
  | text (s t : String) : Append (.text s) (.text t) (.text (s ++ t))
  | bytes (xs ys : List UInt8) : Append (.bytes xs) (.bytes ys) (.bytes (xs ++ ys))

/-- Chunks of one sort put together in their order. -/
inductive Chunk.Concat : List Chunk → Chunk → Prop
  | noText : Concat [] (.text "")
  | noBytes : Concat [] (.bytes [])
  | cons {c rest whole : Chunk} {cs : List Chunk} (h : Append c rest whole) (hrest : Concat cs rest) :
      Concat (c :: cs) whole

namespace Decoder

variable {d d' : Decoder}

/-- The decoder is one that characters can be given to: without any, it stays as it is. -/
def IsSettled (d : Decoder) : Prop := ∃ b, d.feedChars [] = (.ok b, d)

theorem isSettled_of_feedChars {cs : List Char} {b : Bool} (h : d.feedChars cs = (.ok b, d')) :
    d'.IsSettled := by
  have hnothing := feedChars_append_of_ok h []
  rw [List.append_nil, h] at hnothing
  exact ⟨b, hnothing.symm⟩

theorem isSettled_of_feed {c : Chunk} {b : Bool} (h : d.feed c = (.ok b, d')) : d'.IsSettled := by
  cases c with
  | text s => exact isSettled_of_feedChars h
  | bytes bs =>
    rw [feed] at h
    split at h
    · cases h
    · exact isSettled_of_feedChars h

theorem isSettled_start : start.IsSettled := ⟨false, rfl⟩

theorem feed_bytes_of_error {bs : List UInt8} {e : Utf8.Fault} (h : Utf8.decode 0 d.pending bs = .error e) :
    d.feed (.bytes bs) = (.error (.parse (d.lineNumber + 1) (.invalidUtf8 e.reason)), d) := by
  rw [feed, h]

theorem feed_bytes_of_ok {bs : List UInt8} {cs : List Char} {pending : Option Utf8.Partial}
    (h : Utf8.decode 0 d.pending bs = .ok (cs, pending)) :
    d.feed (.bytes bs) = ((d.feedChars cs).1, { (d.feedChars cs).2 with pending := pending }) := by
  rw [feed, h]
  exact feedChars_pending d pending cs

theorem feed_append_of_ok {c rest whole : Chunk} (hwhole : Chunk.Append c rest whole) {b : Bool}
    (h : d.feed c = (.ok b, d')) :
    d.feed whole = d'.feed rest ∨
      (∃ e d₁, d.feed whole = (.error e, d₁)) ∧ ∃ e d₂, d'.feed rest = (.error e, d₂) := by
  cases hwhole with
  | text s t =>
    refine .inl ?_
    rw [feed, String.toList_append]
    exact feedChars_append_of_ok h t.toList
  | bytes xs ys =>
    cases hx : Utf8.decode 0 d.pending xs with
    | error e =>
      rw [feed_bytes_of_error hx] at h
      cases h
    | ok r =>
      rw [feed_bytes_of_ok hx] at h
      obtain ⟨hb, rfl⟩ := Prod.mk.inj h
      have hcs : d.feedChars r.1 = (.ok b, (d.feedChars r.1).2) := Prod.ext hb rfl
      rcases Utf8.decode_append_cases hx ys with ⟨e, e', hy, hxy⟩ | ⟨cs, pending, hy, hxy⟩
      · exact .inr ⟨⟨_, _, feed_bytes_of_error hxy⟩, _, _, feed_bytes_of_error hy⟩
      · refine .inl ?_
        rw [feed_bytes_of_ok hxy, feed_bytes_of_ok hy, feedChars_append_of_ok hcs, feedChars_pending _ r.2 cs]

theorem feed_append_of_error {c rest whole : Chunk} (hwhole : Chunk.Append c rest whole) {e : DecodeError}
    (h : d.feed c = (.error e, d')) : ∃ e' d₁, d.feed whole = (.error e', d₁) := by
  cases hwhole with
  | text s t =>
    obtain ⟨d₁, hfeed, -⟩ := feedChars_append_of_error h t.toList
    rw [feed, String.toList_append]
    exact ⟨e, d₁, hfeed⟩
  | bytes xs ys =>
    cases hx : Utf8.decode 0 d.pending xs with
    | error e' =>
      have hxy : Utf8.decode 0 d.pending (xs ++ ys) = .error e' := by rw [Utf8.decode_append, hx]
      exact ⟨_, _, feed_bytes_of_error hxy⟩
    | ok r =>
      rw [feed_bytes_of_ok hx] at h
      have hcs : d.feedChars r.1 = (.error e, (d.feedChars r.1).2) := Prod.ext (Prod.mk.inj h).1 rfl
      rcases Utf8.decode_append_cases hx ys with ⟨e₁, e₂, -, hxy⟩ | ⟨cs, pending, -, hxy⟩
      · exact ⟨_, _, feed_bytes_of_error hxy⟩
      · obtain ⟨d₁, hfeed, -⟩ := feedChars_append_of_error hcs cs
        rw [feed_bytes_of_ok hxy, hfeed]
        exact ⟨e, _, rfl⟩

/-- Chunks of which none is refused leave what the whole leaves, and with one that is, so is the whole. -/
theorem feedAll_concat {chunks : List Chunk} {whole : Chunk} (h : Chunk.Concat chunks whole)
    (hd : d.IsSettled) :
    ((∀ r ∈ (d.feedAll chunks).1, ∃ b, r = .ok b) → ∃ b, d.feed whole = (.ok b, (d.feedAll chunks).2)) ∧
      ((∃ e, .error e ∈ (d.feedAll chunks).1) → ∃ e d', d.feed whole = (.error e, d')) := by
  induction h generalizing d with
  | noText =>
    refine ⟨fun _ => hd, ?_⟩
    rintro ⟨e, he⟩
    cases he
  | noBytes =>
    refine ⟨fun _ => hd, ?_⟩
    rintro ⟨e, he⟩
    cases he
  | @cons c rest whole cs hwhole hrest ih =>
    cases hfeed : d.feed c with
    | mk r d' =>
      rw [feedAll, hfeed]
      cases r with
      | error e =>
        refine ⟨fun h => ?_, fun _ => feed_append_of_error hwhole hfeed⟩
        obtain ⟨b, hb⟩ := h _ List.mem_cons_self
        cases hb
      | ok b =>
        obtain ⟨hall, hsome⟩ := ih (isSettled_of_feed hfeed)
        refine ⟨fun h => ?_, ?_⟩
        · obtain ⟨b', hb'⟩ := hall fun r hr => h r (List.mem_cons_of_mem _ hr)
          rcases feed_append_of_ok hwhole hfeed with heq | ⟨-, e, d₂, he⟩
          · exact ⟨b', heq.trans hb'⟩
          · rw [hb'] at he
            cases he
        · rintro ⟨e, he⟩
          obtain ⟨e', d₂, he'⟩ := hsome ⟨e, (List.mem_cons.1 he).resolve_left (by simp)⟩
          rcases feed_append_of_ok hwhole hfeed with heq | ⟨hrefused, -⟩
          · exact ⟨e', d₂, heq.trans he'⟩
          · exact hrefused

theorem hasRead_start : start.HasRead [] :=
  ⟨rfl, [], 0, .start, List.nil_sublist _, rfl, .awaitingSection, rfl⟩

/-- What a decoder says that goes on being fed. Where the chunks can be put together and none is refused, it is
where a new one is after the whole, and says the same; where one is refused, a new one refuses the whole. And what
it gives at the end, be it past refusals, are the samples of a document: of lines that it was given, in their
order. -/
theorem feedAll_of_concat (chunks : List Chunk) :
    (∀ whole, Chunk.Concat chunks whole →
        ((∀ r ∈ (start.feedAll chunks).1, ∃ b, r = .ok b) →
            ∃ b, start.feed whole = (.ok b, (start.feedAll chunks).2)) ∧
          ((∃ e, .error e ∈ (start.feedAll chunks).1) → ∃ e d, start.feed whole = (.error e, d))) ∧
      ∀ samples, (start.feedAll chunks).2.close = .ok samples →
        ∃ doc : Document, doc.lines.Sublist (cutLines (Chunk.giveAll none chunks)).1 ∧
          samples.map Sample.content = doc.read.map Sample.content := by
  refine ⟨fun whole hwhole => feedAll_concat hwhole isSettled_start, fun samples hclose => ?_⟩
  have hread : HasRead (start.feedAll chunks).2 (Chunk.giveAll none chunks) := hasRead_start.feedAll chunks
  exact hread.exists_document hclose

/-- A text with a value that is no number; the end is left off. -/
def textWithFault : String := "# HELP a h\n# TYPE a gauge\na 1\na x\na 2\n"

def linesWithFault : List (List Char) :=
  ["# HELP a h".toList, "# TYPE a gauge".toList, "a 1".toList, "a x".toList, "a 2".toList]

theorem run_oneSample : Progress.start.run 0 ["# HELP a h".toList, "# TYPE a gauge".toList, "a 1".toList] =
    (.ok (), 3, ⟨.inSection ⟨"a", .gauge, [], [⟨"a", .gauge, [], 1, 3⟩]⟩, []⟩) := by
  have hhelp : Progress.start.take 1 "# HELP a h".toList = (.ok (), ⟨.awaitingType "a", []⟩) := rfl
  have htype : Progress.take ⟨.awaitingType "a", []⟩ 2 "# TYPE a gauge".toList =
      (.ok (), ⟨.inSection ⟨"a", .gauge, [], []⟩, []⟩) := rfl
  have hsample : Progress.Taken 3 ⟨.inSection ⟨"a", .gauge, [], []⟩, []⟩ "a 1".toList
      ⟨.inSection ⟨"a", .gauge, [], [⟨"a", .gauge, [], 1, 3⟩]⟩, []⟩ :=
    .sample (s := ⟨"a", .gauge, [], []⟩)
      (x := ⟨none, ⟨.absent, ['1'], by simp, by decide, by decide⟩, by simp⟩) rfl (by decide) (by decide)
  rw [Progress.run_of_ok (by decide) hhelp, Progress.run_of_ok (by decide) htype,
    Progress.run_of_taken (by decide) hsample, Progress.run_nil]

theorem run_linesWithFault : Progress.start.run 0 linesWithFault = (.error (.parse 4 (.notNumeric "x")), 4,
    ⟨.inSection ⟨"a", .gauge, [], [⟨"a", .gauge, [], 1, 3⟩]⟩, []⟩) := by
  have hfault : Progress.take ⟨.inSection ⟨"a", .gauge, [], [⟨"a", .gauge, [], 1, 3⟩]⟩, []⟩ 4 "a x".toList =
      (.error (.malformed (.notNumeric "x")),
        ⟨.inSection ⟨"a", .gauge, [], [⟨"a", .gauge, [], 1, 3⟩]⟩, []⟩) := rfl
  have hlines : linesWithFault = ["# HELP a h".toList, "# TYPE a gauge".toList, "a 1".toList] ++
      ["a x".toList, "a 2".toList] := rfl
  rw [hlines, Progress.run_append, run_oneSample]
  exact Progress.run_of_error (by decide) hfault _

theorem feedAll_textWithFault : start.feedAll [.text textWithFault, .text "# EOF\n"] =
    ([.error (.parse 4 (.notNumeric "x")), .ok true],
      ⟨none, [], 5, ⟨.complete, [⟨"a", .gauge, [], 1, 3⟩]⟩⟩) := by
  have hcut : cutLines textWithFault.toList = (linesWithFault, []) := by decide +kernel
  have hfirst : start.feed (.text textWithFault) = (.error (.parse 4 (.notNumeric "x")),
      ⟨none, [], 4, ⟨.inSection ⟨"a", .gauge, [], [⟨"a", .gauge, [], 1, 3⟩]⟩, []⟩⟩) := by
    have hbuffer : cutLines (start.buffer ++ textWithFault.toList) = (linesWithFault, []) := hcut
    have hrun : start.progress.run start.lineNumber linesWithFault = _ := run_linesWithFault
    rw [feed, feedChars_eq_run, hbuffer, hrun]
    rfl
  rw [feedAll, feedAll, feedAll, hfirst]
  rfl

/-- The whole is refused, and a document has been read of its lines. -/
theorem feedAll_of_concat_fault :
    (∃ e d, start.feed (.text (textWithFault ++ "# EOF\n")) = (.error e, d)) ∧
      ∃ doc : Document, doc.lines.Sublist (linesWithFault ++ ["# EOF".toList]) ∧
        doc.read.map Sample.content = [("a", .gauge, [], 1)] := by
  have hconcat : Chunk.Concat [.text textWithFault, .text "# EOF\n"]
      (.text (textWithFault ++ "# EOF\n")) :=
    .cons (.text _ _) (.cons (.text _ "") .noText)
  obtain ⟨hwhole, hread⟩ := feedAll_of_concat [.text textWithFault, .text "# EOF\n"]
  obtain ⟨-, hrefused⟩ := hwhole _ hconcat
  rw [feedAll_textWithFault] at hrefused hread
  obtain ⟨doc, hlines, hcontents⟩ := hread _ rfl
  have hcut : cutLines (Chunk.giveAll none [.text textWithFault, .text "# EOF\n"]) =
      (linesWithFault ++ ["# EOF".toList], []) := by decide +kernel
  rw [hcut] at hlines
  exact ⟨hrefused ⟨_, List.mem_cons_self⟩, doc, hlines, hcontents.symm⟩

/-- A decoder that goes on after a refusal comes to the end and gives samples, where a new one refuses the whole. -/
theorem close_of_refused_whole :
    (start.feedAll [.text textWithFault, .text "# EOF\n"]).2.close = .ok [⟨"a", .gauge, [], 1, 3⟩] ∧
      (start.feed (.text (textWithFault ++ "# EOF\n"))).1 = .error (.parse 4 (.notNumeric "x")) := by
  rw [feedAll_textWithFault]
  refine ⟨rfl, ?_⟩
  have hcut : cutLines (start.buffer ++ (textWithFault ++ "# EOF\n").toList) =
      (linesWithFault ++ ["# EOF".toList], []) := by decide +kernel
  have hrun : start.progress.run start.lineNumber linesWithFault = _ := run_linesWithFault
  rw [feed, feedChars_eq_run, hcut, Progress.run_append, hrun]

end Decoder

end BpfExporter.Exposition
