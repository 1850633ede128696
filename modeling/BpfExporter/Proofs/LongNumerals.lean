import BpfExporter.Proofs.WholeText
import BpfExporter.Proofs.Writing

/-! Texts with a numeral of too many digits to be converted. They are refused with the fault of the conversion
and without the number of a line, and no other texts are: a numeral of this length is reached as the value of
a sample, after lines that make whole sections and the beginning of one, or as an id of a sample, in a text
that the decoder has taken to its end. -/
namespace BpfExporter.Exposition

open Grammar (Document SectionText Sign isMetricName)
open Decoder (cutLines)

theorem readNat_eq_error_iff {digits : List Char} {e : Numeral.TooLong} :
    Numeral.readNat digits = .error e ↔ Numeral.maxDigits < digits.length ∧ e = ⟨digits.length⟩ := by
  unfold Numeral.readNat
  by_cases h : digits.length ≤ Numeral.maxDigits
  · have hshort : ¬Numeral.maxDigits < digits.length := Nat.not_lt.2 h
    simp [h, hshort]
  · simp [Nat.lt_of_not_le h, h, eq_comm]

/-- A sign or none, and ASCII digits of a count that is not converted. -/
inductive LongNumeral : List Char → Numeral.TooLong → Prop
  | mk (sign : Sign) {digits : List Char} (ascii : ∀ c ∈ digits, c.isDigit = true)
      (long : Numeral.maxDigits < digits.length) : LongNumeral (sign.written ++ digits) ⟨digits.length⟩

theorem longNumeral_iff {cs : List Char} {e : Numeral.TooLong} :
    LongNumeral cs e ↔ Numeral.isSigned cs = true ∧ Numeral.readSigned cs = .error e := by
  have hread : Numeral.readSigned cs = .error e ↔
      Numeral.maxDigits < (Numeral.splitSign cs).2.length ∧ e = ⟨(Numeral.splitSign cs).2.length⟩ := by
    rw [← readNat_eq_error_iff, Numeral.readSigned]
    cases Numeral.readNat (Numeral.splitSign cs).2 <;> simp [Except.map]
  rw [hread]
  constructor
  · rintro ⟨sign, ascii, long⟩
    obtain ⟨negative, hsplit, -⟩ := sign.splitSign_written ascii
    rw [Numeral.isSigned, hsplit]
    refine ⟨?_, long, rfl⟩
    simp only [Bool.and_eq_true, List.all_eq_true, Bool.not_eq_true', List.isEmpty_eq_false_iff]
    exact ⟨fun hnil => by simp [hnil] at long, ascii⟩
  · rintro ⟨hsigned, hlong, rfl⟩
    simp only [Numeral.isSigned, Bool.and_eq_true, List.all_eq_true] at hsigned
    obtain ⟨sign, hsign, -⟩ := Sign.exists_written_splitSign cs
    have hmk := LongNumeral.mk sign hsigned.2 hlong
    rwa [← hsign] at hmk

/-! ### Values -/

/-- A line of a sample of the family, with a numeral as its value that is not converted. The text between
the braces may be any. -/
def LongValueLine (family : String) (t : MetricType) (line : List Char) (e : Numeral.TooLong) : Prop :=
  isMetricName (sampleName family t).toList = true ∧ ∃ labels braces value,
    SampleLine.Braced labels braces ∧ line = (sampleName family t).toList ++ (braces ++ ' ' :: value) ∧
      LongNumeral value e

theorem readSample_eq_numeral_iff {s : Section} {n : Nat} {line : List Char} {e : Numeral.TooLong} :
    s.readSample n line = .error (.numeral e) ↔ LongValueLine s.family s.type line e := by
  constructor
  · intro h
    unfold Section.readSample at h
    split at h
    · simp at h
    · next parts hread =>
      obtain ⟨name, labels, value⟩ := parts
      obtain ⟨hname, -, -, braces, hbraces, rfl⟩ := SampleLine.braced_of_read? hread
      simp only [ne_eq, ite_not] at h
      split at h
      · next hfamily =>
        subst hfamily
        split at h
        · simp at h
        · next hsigned =>
          split at h
          · next e' hvalue =>
            obtain rfl : e' = e := by simpa using h
            exact ⟨hname, labels, braces, value, hbraces, rfl,
              longNumeral_iff.2 ⟨by simpa using hsigned, hvalue⟩⟩
          · split at h
            · simp at h
            · split at h <;> simp at h
      · simp at h
  · rintro ⟨hname, labels, braces, value, hbraces, rfl, hlong⟩
    obtain ⟨hsigned, hvalue⟩ := longNumeral_iff.1 hlong
    have hread : SampleLine.read? ((sampleName s.family s.type).toList ++ (braces ++ ' ' :: value)) =
        some ⟨sampleName s.family s.type, labels, value⟩ := by
      apply SampleLine.read?_of_braced hname _ _ hbraces
      · rintro rfl
        simp [Numeral.isSigned, Numeral.splitSign] at hsigned
      · intro c hc
        cases hlong with
        | mk sign ascii long => exact sign.not_isBlank_of_mem_written ascii hc
    simp [Section.readSample, hread, hsigned, hvalue]

namespace Progress

variable {p p' : Progress} {n : Nat} {line : List Char} {e : Numeral.TooLong}

theorem takeEnd_ne_numeral : p.takeEnd ≠ (.error (.numeral e), p') := by
  unfold takeEnd
  split <;> simp [refuse, advance]

theorem takeMetadata_ne_numeral : p.takeMetadata line ≠ (.error (.numeral e), p') := by
  have hhelp : ∀ name text, p.takeHelp name text ≠ (.error (.numeral e), p') := by
    intro name text
    unfold takeHelp
    split
    · simp [refuse]
    · split <;> simp [refuse, advance]
  have htype : ∀ name text, p.takeType name text ≠ (.error (.numeral e), p') := by
    intro name text
    unfold takeType
    split
    · simp only [ne_eq, ite_not]
      split
      · split <;> simp [refuse, advance]
      · simp [refuse]
    · simp [refuse]
  have hunit : ∀ name text, p.takeUnit name text ≠ (.error (.numeral e), p') := by
    intro name text
    unfold takeUnit
    split
    · split
      · simp [refuse]
      · simp only [ne_eq, ite_not]
        split <;> simp [refuse, advance]
    · simp [refuse]
  unfold takeMetadata
  split
  · next keyword name text _ =>
    show (if _ then _ else _) ≠ _
    split
    · exact hhelp _ _
    · split
      · exact htype _ _
      · split
        · exact hunit _ _
        · simp [refuse]
  · simp [refuse]

theorem takeSample_eq_numeral_iff :
    p.takeSample n line = (.error (.numeral e), p') ↔
      p' = p ∧ ∃ s, p.stage = .inSection s ∧ LongValueLine s.family s.type line e := by
  constructor
  · intro h
    unfold takeSample at h
    split at h
    · next s hs =>
      cases hread : s.readSample n line with
      | error e' =>
        simp only [hread, Prod.mk.injEq, Except.error.injEq] at h
        obtain ⟨rfl, rfl⟩ := h
        exact ⟨rfl, s, hs, readSample_eq_numeral_iff.1 hread⟩
      | ok sample => simp [hread, advance] at h
    · simp [refuse] at h
  · rintro ⟨rfl, s, hs, hlong⟩
    simp [takeSample, hs, readSample_eq_numeral_iff.2 hlong]

theorem take_eq_numeral_iff :
    p.take n line = (.error (.numeral e), p') ↔
      p' = p ∧ ∃ s, p.stage = .inSection s ∧ LongValueLine s.family s.type line e := by
  constructor
  · intro h
    unfold take at h
    split at h
    · exact absurd h takeEnd_ne_numeral
    split at h
    · exact absurd h takeMetadata_ne_numeral
    · exact takeSample_eq_numeral_iff.1 h
  · rintro ⟨rfl, s, hs, hlong⟩
    obtain ⟨hname, labels, braces, value, -, rfl, -⟩ := id hlong
    rw [take_of_isMetricName hname]
    exact takeSample_eq_numeral_iff.2 ⟨rfl, s, hs, hlong⟩

theorem exists_of_run_eq_numeral {m : Nat} {lines : List (List Char)}
    (h : run n p lines = (.error (.numeral e), m, p')) :
    ∃ before line after m' q s, lines = before ++ line :: after ∧ run n p before = (.ok (), m', q) ∧
      q.stage = .inSection s ∧ LongValueLine s.family s.type line e := by
  induction lines generalizing n p with
  | nil => simp at h
  | cons line lines ih =>
    by_cases hc : p.stage = .complete
    · simp [run_complete hc] at h
    · cases htake : p.take (n + 1) line with
      | mk r p₁ =>
        cases r with
        | error e' =>
          rw [run_of_error hc htake] at h
          cases e' with
          | malformed why => simp [LineError.at] at h
          | numeral e' =>
            obtain rfl : e' = e := by simpa [LineError.at] using congrArg Prod.fst h
            obtain ⟨-, s, hs, hlong⟩ := take_eq_numeral_iff.1 htake
            exact ⟨[], line, lines, n, p, s, rfl, rfl, hs, hlong⟩
        | ok u =>
          rw [run_of_ok hc htake] at h
          obtain ⟨before, line', after, m', q, s, rfl, hrun, hs, hlong⟩ := ih h
          refine ⟨line :: before, line', after, m', q, s, rfl, ?_, hs, hlong⟩
          rw [run_of_ok hc htake, hrun]

/-- A run ends at a value that is not converted exactly when the lines before it are those of sections. -/
theorem run_start_eq_numeral_iff {lines : List (List Char)} (hlines : ∀ line ∈ lines, '\n' ∉ line) :
    (∃ m p', start.run 0 lines = (.error (.numeral e), m, p')) ↔
      ∃ (doc : Document) (sec : SectionText) (line : List Char) (after : List (List Char)),
        lines = doc.body ++ (sec.lines ++ line :: after) ∧ LongValueLine sec.family sec.type line e := by
  constructor
  · rintro ⟨m, p', h⟩
    -- The lines before are the beginning of a document, which ends in a section as the stage does.
    obtain ⟨before, line, after, m', q, s, rfl, hrun, hs, hlong⟩ := exists_of_run_eq_numeral h
    have hbegun : Begun ([] ++ before) q.stage :=
      begun_of_run (p := start) .start (fun l hl => hlines l (List.mem_append_left _ hl)) hrun
    rw [hs, List.nil_append] at hbegun
    cases hbegun with
    | inside doc sec hfamily htype =>
      rw [hfamily, htype] at hlong
      exact ⟨doc, sec, line, after, by simp, hlong⟩
  · rintro ⟨doc, sec, line, after, rfl, hlong⟩
    obtain ⟨q, ha, hc, -, hrun⟩ := run_body (p := start) (by simp [start]) (by simp [start]) doc 0
      (sec.lines ++ line :: after)
    rw [hrun, run_section ha hc]
    let s : Section := ⟨sec.family, sec.type, lastUnit sec.units, sec.read (0 + doc.body.length)⟩
    have hlong' : LongValueLine s.family s.type line e := hlong
    have hopen : (Progress.mk (.inSection s) q.closed).stage ≠ .complete := by simp
    have htake : ∀ n, take ⟨.inSection s, q.closed⟩ n line =
        (.error (.numeral e), ⟨.inSection s, q.closed⟩) := fun n =>
      take_eq_numeral_iff.2 ⟨rfl, s, rfl, hlong'⟩
    exact ⟨_, _, run_of_error hopen (htake _) after⟩

end Progress

/-- Whole lines of the chunk are those of sections and of a value that is not converted. -/
def LongValue (c : Chunk) (e : Numeral.TooLong) : Prop :=
  ∃ (cs : List Char) (pending : Option Utf8.Partial) (doc : Document) (sec : SectionText)
    (line : List Char) (after : List (List Char)), c.Gives cs pending ∧
      (cutLines cs).1 = doc.body ++ (sec.lines ++ line :: after) ∧
      LongValueLine sec.family sec.type line e

/-- The chunk is a document, and of its samples of known families the first without an id has one that is not
converted. -/
def LongId (path : String) (c : Chunk) (e : Numeral.TooLong) : Prop :=
  ∃ (doc : Document) (before : List Sample) (s : Sample) (after : List Sample), c.Spells doc.text ∧
    doc.read = before ++ s :: after ∧ (∀ t ∈ before, t.IsKnown path → ∃ n, t.id = .ok n) ∧
    s.IsKnown path ∧ s.HasDigits ∧ Numeral.maxDigits < (s.label "id").toList.length ∧
    e = ⟨(s.label "id").toList.length⟩

namespace Decoder

theorem feedChars_eq_numeral_iff {cs : List Char} {e : Numeral.TooLong} :
    (∃ d, start.feedChars cs = (.error (.numeral e), d)) ↔
      ∃ m p, Progress.start.run 0 (cutLines cs).1 = (.error (.numeral e), m, p) := by
  have hstart : start.progress.run start.lineNumber (cutLines (start.buffer ++ cs)).1 =
      Progress.start.run 0 (cutLines cs).1 := rfl
  rw [feedChars_eq_run, hstart]
  cases Progress.start.run 0 (cutLines cs).1 with
  | mk r q =>
    obtain ⟨m, p⟩ := q
    cases r with
    | error e' => simp
    | ok u =>
      simp only [Prod.mk.injEq, reduceCtorEq, false_and, exists_false, iff_false]
      rintro ⟨d, hd⟩
      split at hd <;> simp at hd

theorem gives_or_parse (c : Chunk) :
    (∃ cs pending, c.Gives cs pending) ∨ ∃ line why d, start.feed c = (.error (.parse line why), d) := by
  cases c with
  | text s => exact .inl ⟨s.toList, none, rfl, rfl⟩
  | bytes bs =>
    cases hdecode : Utf8.decode 0 none bs with
    | ok r => exact .inl ⟨r.1, r.2, hdecode⟩
    | error e =>
      right
      have hdecode' : Utf8.decode 0 start.pending bs = .error e := hdecode
      rw [feed, hdecode']
      exact ⟨_, _, _, rfl⟩

theorem feed_eq_numeral_iff {c : Chunk} {e : Numeral.TooLong} :
    (∃ d, start.feed c = (.error (.numeral e), d)) ↔ LongValue c e := by
  have hgiven : ∀ {cs pending}, c.Gives cs pending →
      ((∃ d, start.feed c = (.error (.numeral e), d)) ↔
        ∃ (doc : Document) (sec : SectionText) (line : List Char) (after : List (List Char)),
          (cutLines cs).1 = doc.body ++ (sec.lines ++ line :: after) ∧
          LongValueLine sec.family sec.type line e) := by
    intro cs pending hgives
    rw [← Progress.run_start_eq_numeral_iff (not_mem_cutLines cs).1, ← feedChars_eq_numeral_iff,
      feed_of_gives hgives]
    constructor
    · rintro ⟨d, hd⟩
      exact ⟨_, Prod.ext (Prod.mk.inj hd).1 rfl⟩
    · rintro ⟨d, hd⟩
      rw [hd]
      exact ⟨_, rfl⟩
  constructor
  · rintro ⟨d, hd⟩
    rcases gives_or_parse c with ⟨cs, pending, hgives⟩ | ⟨line, why, d', hd'⟩
    · obtain ⟨doc, sec, line, after, hlines, hlong⟩ := (hgiven hgives).1 ⟨d, hd⟩
      exact ⟨cs, pending, doc, sec, line, after, hgives, hlines, hlong⟩
    · simp [hd'] at hd
  · rintro ⟨cs, pending, doc, sec, line, after, hgives, hlines, hlong⟩
    exact (hgiven hgives).2 ⟨doc, sec, line, after, hlines, hlong⟩

theorem close_ne_numeral {d : Decoder} {e : Numeral.TooLong} : d.close ≠ .error (.numeral e) := by
  unfold close
  split
  · simp
  · split
    · simp
    · split <;> simp

end Decoder

theorem foldPrograms_eq_numeral_iff {path : String} {previous : Records} {samples : List Sample}
    {e : Numeral.TooLong} :
    foldPrograms path previous samples = .error (.numeral e) ↔
      ∃ before s after, samples = before ++ s :: after ∧
        (∀ t ∈ before, t.IsKnown path → ∃ n, t.id = .ok n) ∧ s.IsKnown path ∧ s.HasDigits ∧
        Numeral.maxDigits < (s.label "id").toList.length ∧ e = ⟨(s.label "id").toList.length⟩ := by
  have hgather : foldPrograms path previous samples = .error (.numeral e) ↔
      gather path [] samples = .error (.numeral e) := by
    rw [foldPrograms_eq]
    cases gather path [] samples <;> simp [Except.map]
  rw [hgather, gather_eq_error_iff]
  simp only [Sample.id_eq_numeral_iff, readNat_eq_error_iff]

/-- The fault of a conversion comes from nothing but a value and an id of too many digits. -/
theorem decode_eq_numeral_iff {c : Chunk} {path : String} {previous : Records} {e : Numeral.TooLong} :
    decode c path previous = .error (.numeral e) ↔ LongValue c e ∨ LongId path c e := by
  rw [← Decoder.feed_eq_numeral_iff]
  constructor
  · intro h
    cases hfeed : Decoder.start.feed c with
    | mk r d =>
      cases r with
      | error e' =>
        simp only [decode, hfeed, Except.error.injEq] at h
        exact .inl ⟨d, by rw [h]⟩
      | ok b =>
        cases hclose : d.close with
        | error e' =>
          simp only [decode, hfeed, Decoder.records, hclose, Except.error.injEq] at h
          rw [h] at hclose
          exact absurd hclose Decoder.close_ne_numeral
        | ok samples =>
          obtain ⟨doc, hspells, -⟩ := Decoder.reads_chunk_iff.1 ⟨b, d, hfeed, hclose⟩
          rw [decode_of_spells hspells, foldPrograms_eq_numeral_iff] at h
          obtain ⟨before, s, after, hread, hlong⟩ := h
          exact .inr ⟨doc, before, s, after, hspells, hread, hlong⟩
  · rintro (⟨d, hfeed⟩ | ⟨doc, before, s, after, hspells, hread, hlong⟩)
    · rw [decode, hfeed]
    · rw [decode_of_spells hspells, foldPrograms_eq_numeral_iff]
      exact ⟨before, s, after, hread, hlong⟩

/-- A text gives records or is refused at a line, unless it comes to a value or an id of too many digits. -/
theorem decode_ok_or_parse_iff (c : Chunk) (path : String) (previous : Records) :
    ((∃ records, decode c path previous = .ok records) ∨
        ∃ line why, decode c path previous = .error (.parse line why)) ↔
      ∀ e, ¬LongValue c e ∧ ¬LongId path c e := by
  simp only [← not_or, ← @decode_eq_numeral_iff c path previous]
  cases decode c path previous with
  | ok records => simp
  | error e =>
    cases e with
    | parse line why => simp
    | numeral e => simp

def idText (id : List Char) : Chunk :=
  .text (String.ofList
    (TypedMetric.document [.counter _ TypedMetric.isMetricName_runTime (String.ofList id) "p" 1]).text)

theorem decode_idText {id : List Char} (ascii : ∀ c ∈ id, c.isDigit = true)
    (long : Numeral.maxDigits < id.length) (previous : Records) :
    decode (idText id) "bpf_prog" previous = .error (.numeral ⟨id.length⟩) := by
  let s : Sample :=
    ⟨"bpf_prog_run_time_nanoseconds", .counter, [("id", String.ofList id), ("name", "p")],
      (1 : UInt64).toNat, 3⟩
  have hknown : s.IsKnown "bpf_prog" := by
    show ((belowPath? "bpf_prog" "bpf_prog_run_time_nanoseconds").bind ProgramRecord.fieldOf?).isSome = true
    decide
  have hlabel : (s.label "id").toList = id := by
    simp [s, Sample.label, Assoc.get?]
  have hdigits : s.HasDigits := by
    rw [Sample.HasDigits, hlabel]
    exact ⟨fun hnil => by simp [hnil] at long, ascii⟩
  rw [decode_eq_numeral_iff]
  right
  refine ⟨_, [], s, [], Chunk.spells_ofList _, TypedMetric.read_counter _ _ _ _, by simp, hknown, hdigits,
    ?_⟩
  rw [hlabel]
  exact ⟨long, rfl⟩

/-- The text is well-formed, and no line of it is refused. -/
theorem decode_long_id :
    ¬((∃ records, decode (idText (List.replicate 4301 '1')) "bpf_prog" [] = .ok records) ∨
        ∃ line why, decode (idText (List.replicate 4301 '1')) "bpf_prog" [] =
          .error (.parse line why)) := by
  have hascii : ∀ c ∈ List.replicate 4301 '1', c.isDigit = true := by
    intro c hc
    rw [(List.mem_replicate.1 hc).2]
    decide
  have hlong : Numeral.maxDigits < (List.replicate 4301 '1').length := by
    rw [List.length_replicate]
    decide
  rw [decode_idText hascii hlong]
  rintro (⟨records, h⟩ | ⟨line, why, h⟩) <;> cases h

end BpfExporter.Exposition
