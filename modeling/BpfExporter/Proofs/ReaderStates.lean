import Mathlib.Tactic.SplitIfs
import BpfExporter.Exposition.Reader
import BpfExporter.Proofs.DecoderStates

/-! The reader with its variables apart takes, refuses and keeps what the decoder does, whatever both are fed with; so
the state it is in always says what section is open and what is committed. -/
namespace BpfExporter

theorem MetricType.name_eq_counter_iff (t : MetricType) : t.name = "counter" ↔ t = .counter := by
  cases t <;> simp [MetricType.name]

namespace Exposition

def ReadSample.ofSample (x : Sample) : ReadSample := ⟨x.family, x.type.name, x.labels, x.value, x.line⟩

namespace ReadSection

def ofSection (s : Section) (help : String) : ReadSection :=
  ⟨s.family, help, s.type.name, String.ofList s.unit, s.samples.map ReadSample.ofSample⟩

@[simp] theorem family_ofSection (s : Section) (help : String) : (ofSection s help).family = s.family := by
  simp only [ofSection]

theorem isEmpty_ofSection (s : Section) (help : String) :
    (!(ofSection s help).unit.isEmpty || !(ofSection s help).samples.isEmpty) =
      (!s.unit.isEmpty || !s.samples.isEmpty) := by
  obtain ⟨family, type, unit, samples⟩ := s
  cases unit <;> cases samples <;> simp [ofSection]

theorem ofSection_concat (s : Section) (help : String) (x : Sample) :
    ofSection { s with samples := s.samples ++ [x] } help =
      { ofSection s help with samples := (ofSection s help).samples ++ [ReadSample.ofSample x] } := by
  simp [ofSection]

theorem readSample_ofSection (s : Section) (help : String) (n : Nat) (line : List Char) :
    (ofSection s help).readSample n line = (s.readSample n line).map ReadSample.ofSample := by
  have hname : (if s.type = .counter then s.family ++ "_total" else s.family) = sampleName s.family s.type := by
    cases s.type <;> rfl
  simp only [readSample, Section.readSample, ofSection, MetricType.name_eq_counter_iff, hname]
  cases SampleLine.read? line with
  | none => rfl
  | some parts =>
    dsimp only
    split_ifs
    · rfl
    · rfl
    · cases Numeral.readSigned parts.value with
      | error e => rfl
      | ok value =>
        dsimp only
        split_ifs
        · rfl
        · cases LabelText.read parts.labels <;> rfl

end ReadSection

/-- The state and the open section that belong to a stage. -/
inductive Stands : ReaderState → Option ReadSection → Stage → Prop
  | awaitingSection : Stands .awaitingSection none .awaitingSection
  | awaitingType (family help : String) : Stands .awaitingType (some { family, help }) (.awaitingType family)
  | inSection (s : Section) (help : String) : Stands .inSection (some (.ofSection s help)) (.inSection s)
  | betweenSections : Stands .inSection none .betweenSections
  | complete : Stands .complete none .complete

namespace Reading

/-- The reading is the progress with its variables apart. -/
structure Holds (x : Reading) (p : Progress) : Prop where
  samples : x.samples = p.samples.map ReadSample.ofSample
  stands : Stands x.state x.openSection? p.stage

/-- Both do the same with a line. -/
structure Agree (a : Except LineError Unit × Reading) (b : Step) : Prop where
  answer : a.1 = b.1
  holds : a.2.Holds b.2

theorem holds_start : start.Holds Progress.start := ⟨rfl, .awaitingSection⟩

theorem Agree.refuse {x : Reading} {p : Progress} (h : x.Holds p) (why : Malformed) :
    Agree (x.refuse why) (p.refuse why) := ⟨rfl, h⟩

variable {x : Reading} {p : Progress}

theorem Holds.complete_iff (h : x.Holds p) : x.state = .complete ↔ p.stage = .complete := by
  obtain ⟨-, hstands⟩ := h
  generalize x.state = state, x.openSection? = openSection?, p.stage = stage at hstands
  cases hstands <;> simp

theorem Holds.closeSection {stage : Stage} {committed : List Sample} {state : ReaderState}
    {openSection? : Option ReadSection} {samples : List ReadSample}
    (h : Holds ⟨state, openSection?, samples⟩ ⟨stage, committed⟩) (hstate : state ≠ .awaitingType) :
    Reading.closeSection ⟨state, openSection?, samples⟩ =
      ⟨state, none, (Progress.closed ⟨stage, committed⟩).map ReadSample.ofSample⟩ := by
  obtain ⟨rfl, hstands⟩ := h
  cases hstands with
  | awaitingType => exact absurd rfl hstate
  | inSection s help => simp [Reading.closeSection, Progress.closed, Stage.openSamples, ReadSection.ofSection]
  | _ => simp [Reading.closeSection, Progress.closed, Stage.openSamples]

theorem agree_takeEnd (h : x.Holds p) : Agree x.takeEnd p.takeEnd := by
  obtain ⟨state, openSection?, samples⟩ := x
  obtain ⟨stage, committed⟩ := p
  have hclosed := h.closeSection
  cases h.stands with
  | awaitingType => exact .refuse h _
  | _ =>
    rw [takeEnd, if_neg (by simp), hclosed (by simp)]
    exact ⟨rfl, rfl, .complete⟩

theorem agree_takeHelp (h : x.Holds p) (name text : List Char) :
    Agree (x.takeHelp name text) (p.takeHelp name text) := by
  obtain ⟨state, openSection?, samples⟩ := x
  obtain ⟨stage, committed⟩ := p
  have hclosed := h.closeSection
  cases h.stands with
  | awaitingType => exact .refuse h _
  | awaitingSection | inSection | betweenSections | complete =>
    rw [takeHelp, if_neg (by simp), hclosed (by simp)]
    simp only [Progress.takeHelp]
    cases Escape.unescape text with
    | error e => exact .refuse ⟨rfl, by constructor⟩ _
    | ok help => exact ⟨rfl, rfl, .awaitingType _ _⟩

theorem agree_takeType (h : x.Holds p) (name text : List Char) :
    Agree (x.takeType (String.ofList name) (String.ofList text)) (p.takeType name text) := by
  obtain ⟨state, openSection?, samples⟩ := x
  obtain ⟨stage, committed⟩ := p
  cases h.stands with
  | awaitingType family help =>
    simp only [takeType, Progress.takeType]
    by_cases hname : String.ofList name = family
    · subst hname
      simp only [ne_eq, not_true_eq_false, if_false]
      cases ht : MetricType.ofName? (String.ofList text) with
      | none =>
        rw [if_neg]
        · exact .refuse h _
        · rintro (htext | htext) <;> rw [htext] at ht <;> cases ht
      | some t =>
        have htext := MetricType.ofName?_eq_some.1 ht
        have htype : t.name = "counter" ∨ t.name = "gauge" := by cases t <;> simp [MetricType.name]
        rw [htext, if_pos htype]
        exact ⟨rfl, h.samples, .inSection ⟨_, t, [], []⟩ help⟩
    · simp only [ne_eq, hname, not_false_eq_true, if_true]
      exact .refuse h _
  | _ => exact .refuse h _

theorem agree_takeUnit (h : x.Holds p) (name text : List Char) :
    Agree (x.takeUnit (String.ofList name) (String.ofList text)) (p.takeUnit name text) := by
  obtain ⟨state, openSection?, samples⟩ := x
  obtain ⟨stage, committed⟩ := p
  cases h.stands with
  | inSection s help =>
    simp only [takeUnit, Progress.takeUnit, ReadSection.isEmpty_ofSection, ReadSection.family_ofSection]
    split_ifs
    · exact .refuse h _
    · exact .refuse h _
    · exact ⟨rfl, h.samples, .inSection { s with unit := text } help⟩
  | _ => exact .refuse h _

theorem agree_takeSample (h : x.Holds p) (n : Nat) (line : List Char) :
    Agree (x.takeSample n line) (p.takeSample n line) := by
  obtain ⟨state, openSection?, samples⟩ := x
  obtain ⟨stage, committed⟩ := p
  cases h.stands with
  | inSection s help =>
    simp only [takeSample, Progress.takeSample, ReadSection.readSample_ofSection]
    cases s.readSample n line with
    | error e => exact ⟨rfl, h⟩
    | ok y =>
      refine ⟨rfl, h.samples, ?_⟩
      simp only [Except.map, ← ReadSection.ofSection_concat]
      exact .inSection _ help
  | _ => exact .refuse h _

theorem agree_takeMetadata (h : x.Holds p) {line : List Char} (hend : line ≠ "# EOF".toList) :
    Agree (x.takeMetadata line) (p.takeMetadata line) := by
  by_cases hparts : ∃ keyword name text, cutSpaces 3 line = ['#'] :: keyword :: name :: text
  · obtain ⟨keyword, name, text, hparts⟩ := hparts
    rw [takeMetadata, if_neg hend, Progress.takeMetadata, hparts]
    show Agree
      (if keyword = "HELP".toList then x.takeHelp name text.flatten
        else if keyword = "TYPE".toList then x.takeType (String.ofList name) (String.ofList text.flatten)
        else if keyword = "UNIT".toList then x.takeUnit (String.ofList name) (String.ofList text.flatten)
        else x.refuse (.unknownKeyword (String.ofList keyword)))
      (if keyword = "HELP".toList then p.takeHelp name text.flatten
        else if keyword = "TYPE".toList then p.takeType name text.flatten
        else if keyword = "UNIT".toList then p.takeUnit name text.flatten
        else p.refuse (.unknownKeyword (String.ofList keyword)))
    split_ifs
    · exact agree_takeHelp h _ _
    · exact agree_takeType h _ _
    · exact agree_takeUnit h _ _
    · exact .refuse h _
  · have hreading : x.takeMetadata line = x.refuse (.metadata (String.ofList line)) := by
      rw [takeMetadata, if_neg hend]
      split
      · next heq => exact absurd ⟨_, _, _, heq⟩ hparts
      · rfl
    have hprogress : p.takeMetadata line = p.refuse (.metadata (String.ofList line)) := by
      rw [Progress.takeMetadata]
      split
      · next heq => exact absurd ⟨_, _, _, heq⟩ hparts
      · rfl
    rw [hreading, hprogress]
    exact .refuse h _

theorem agree_take (h : x.Holds p) (n : Nat) (line : List Char) : Agree (x.take n line) (p.take n line) := by
  rw [take, Progress.take]
  by_cases hend : line = "# EOF".toList
  · rw [if_pos hend, if_pos (by rw [hend]; rfl), takeMetadata, if_pos hend]
    exact agree_takeEnd h
  · rw [if_neg hend]
    split_ifs
    · exact agree_takeMetadata h hend
    · exact agree_takeSample h n line

end Reading

namespace Reader

/-- The reader is the decoder with its variables apart. -/
structure Holds (r : Reader) (d : Decoder) : Prop where
  pending : r.pending = d.pending
  buffer : r.buffer = d.buffer
  lineNumber : r.lineNumber = d.lineNumber
  reading : r.reading.Holds d.progress

theorem holds_start : start.Holds Decoder.start := ⟨rfl, rfl, rfl, Reading.holds_start⟩

variable {r : Reader} {d : Decoder}

theorem Holds.complete_eq (h : r.Holds d) : r.complete = d.complete :=
  decide_eq_decide.2 h.reading.complete_iff

theorem Holds.takeLines (h : r.Holds d) (lines : List (List Char)) :
    (r.takeLines lines).1 = (d.takeLines lines).1 ∧ (r.takeLines lines).2.Holds (d.takeLines lines).2 := by
  induction lines generalizing r d with
  | nil => exact ⟨rfl, h⟩
  | cons line lines ih =>
    simp only [Reader.takeLines, Decoder.takeLines, h.complete_eq, h.lineNumber]
    by_cases hc : d.complete
    · rw [if_pos hc, if_pos hc]
      exact ⟨rfl, h.pending, h.buffer, rfl, h.reading⟩
    · rw [if_neg hc, if_neg hc]
      obtain ⟨hanswer, hholds⟩ := Reading.agree_take h.reading (d.lineNumber + 1) line
      generalize r.reading.take (d.lineNumber + 1) line = a, d.progress.take (d.lineNumber + 1) line = b at *
      obtain ⟨answer, x⟩ := a
      obtain ⟨answer', p⟩ := b
      obtain rfl : answer = answer' := hanswer
      cases answer with
      | error e => exact ⟨rfl, h.pending, h.buffer, rfl, hholds⟩
      | ok u => exact ih ⟨h.pending, h.buffer, rfl, hholds⟩

theorem Holds.feedChars (h : r.Holds d) (cs : List Char) :
    (r.feedChars cs).1 = (d.feedChars cs).1 ∧ (r.feedChars cs).2.Holds (d.feedChars cs).2 := by
  simp only [Reader.feedChars, Decoder.feedChars, h.buffer]
  generalize Decoder.cutLines (d.buffer ++ cs) = cut
  have hrest : Holds { r with buffer := cut.2 } { d with buffer := cut.2 } := ⟨h.pending, rfl, h.lineNumber, h.reading⟩
  obtain ⟨hanswer, hholds⟩ := hrest.takeLines cut.1
  generalize Reader.takeLines { r with buffer := cut.2 } cut.1 = a,
    Decoder.takeLines { d with buffer := cut.2 } cut.1 = b at *
  obtain ⟨answer, r'⟩ := a
  obtain ⟨answer', d'⟩ := b
  obtain rfl : answer = answer' := hanswer
  cases answer with
  | error e => exact ⟨rfl, hholds⟩
  | ok u =>
    have hsame : r'.Holds d' := hholds
    simp only [hsame.complete_eq, hsame.buffer, hsame.lineNumber]
    split_ifs
    · exact ⟨rfl, hsame⟩
    · exact ⟨rfl, hsame⟩

/-- Reader and decoder give one answer to a chunk and go on alike, also when it is refused. -/
theorem Holds.feed (h : r.Holds d) (c : Chunk) :
    (r.feed c).1 = (d.feed c).1 ∧ (r.feed c).2.Holds (d.feed c).2 := by
  cases c with
  | text s => exact h.feedChars _
  | bytes bs =>
    simp only [Reader.feed, Decoder.feed, h.pending, h.lineNumber]
    cases Utf8.decode 0 d.pending bs with
    | error e => exact ⟨rfl, h⟩
    | ok decoded =>
      have hpending : Holds ⟨decoded.2, r.buffer, d.lineNumber, r.reading⟩ { d with pending := decoded.2 } :=
        ⟨rfl, h.buffer, rfl, h.reading⟩
      exact hpending.feedChars decoded.1

theorem Holds.close (h : r.Holds d) : r.close = d.close.map (List.map ReadSample.ofSample) := by
  simp only [Reader.close, Decoder.close, h.pending, h.lineNumber, h.buffer, h.complete_eq, h.reading.samples]
  cases d.pending with
  | some p => rfl
  | none =>
    dsimp only
    split_ifs <;> rfl

/-! ### Uses one after another -/

def after (r : Reader) : Decoder.Use → Reader
  | .feed c => (r.feed c).2
  | .close => r

def afterAll (r : Reader) (uses : List Decoder.Use) : Reader := uses.foldl after r

theorem Holds.after (h : r.Holds d) (u : Decoder.Use) : (r.after u).Holds (d.after u) := by
  cases u with
  | feed c => exact (h.feed c).2
  | close => exact h

theorem Holds.afterAll (h : r.Holds d) (uses : List Decoder.Use) : (r.afterAll uses).Holds (d.afterAll uses) := by
  induction uses generalizing r d with
  | nil => exact h
  | cons u uses ih => exact ih (h.after u)

/-- All samples that were read: those committed and those of the open section. -/
def allSamples (r : Reader) : List ReadSample := r.reading.samples ++ r.reading.openSection?.elim [] ReadSection.samples

/-- What holds of a reader in every state. -/
structure Consistent (r : Reader) : Prop where
  awaitingSection : r.reading.state = .awaitingSection → r.reading.openSection? = none ∧ r.reading.samples = []
  awaitingType : r.reading.state = .awaitingType →
    ∃ s, r.reading.openSection? = some s ∧ s.type = "" ∧ s.samples = []
  inSection : r.reading.state = .inSection → ∀ s, r.reading.openSection? = some s →
    (s.type = "counter" ∨ s.type = "gauge") ∧ ∀ x ∈ s.samples, x.family = s.family ∧ x.type = s.type
  complete : r.reading.state = .complete → r.reading.openSection? = none
  counters : ∀ x ∈ r.allSamples, x.type = "counter" → 0 ≤ x.value
  ascending : (r.allSamples.map ReadSample.line).Pairwise (· < ·)
  read : ∀ x ∈ r.allSamples, x.line ≤ r.lineNumber

theorem Holds.allSamples_eq (h : r.Holds d) : r.allSamples = d.progress.closed.map ReadSample.ofSample := by
  rw [allSamples, h.reading.samples, Progress.closed, List.map_append]
  congr 1
  obtain ⟨-, hstands⟩ := h.reading
  generalize r.reading.state = state, r.reading.openSection? = openSection?, d.progress.stage = stage at hstands
  cases hstands <;> rfl

theorem Holds.consistent (h : r.Holds d) (hd : d.progress.Consistent d.lineNumber) : r.Consistent := by
  have hall := h.allSamples_eq
  obtain ⟨hsamples, hstands⟩ := h.reading
  refine ⟨fun hstate => ?_, fun hstate => ?_, fun hstate s hs => ?_, fun hstate => ?_, fun x hx hx' => ?_, ?_,
    fun x hx => ?_⟩
  · rw [hstate] at hstands
    generalize hstage : d.progress.stage = stage, r.reading.openSection? = openSection? at hstands
    cases hstands
    exact ⟨rfl, by rw [hsamples, hd.uncommitted hstage, List.map_nil]⟩
  · rw [hstate] at hstands
    generalize d.progress.stage = stage, r.reading.openSection? = openSection? at hstands
    cases hstands
    exact ⟨_, rfl, rfl, rfl⟩
  · rw [hstate, hs] at hstands
    generalize hstage : d.progress.stage = stage at hstands
    cases hstands with
    | inSection sec help =>
      refine ⟨?_, fun x hx => ?_⟩
      · show sec.type.name = "counter" ∨ sec.type.name = "gauge"
        cases sec.type <;> simp [MetricType.name]
      · obtain ⟨y, hy, rfl⟩ := List.mem_map.1 hx
        obtain ⟨hfamily, htype⟩ := hd.own sec hstage y hy
        exact ⟨hfamily, congrArg MetricType.name htype⟩
  · rw [hstate] at hstands
    generalize d.progress.stage = stage, r.reading.openSection? = openSection? at hstands
    cases hstands
    rfl
  · rw [hall] at hx
    obtain ⟨y, hy, rfl⟩ := List.mem_map.1 hx
    exact hd.counters y hy (y.type.name_eq_counter_iff.1 hx')
  · rw [hall, List.map_map]
    exact hd.ascending
  · rw [hall] at hx
    obtain ⟨y, hy, rfl⟩ := List.mem_map.1 hx
    rw [h.lineNumber]
    exact hd.read y hy

/-- Whatever a reader has been fed with, refused or not, and wherever it has been closed, it is in a consistent state;
and whatever comes after, the samples that were committed stay and stand first, and a text that was complete stays
so. -/
theorem consistent_of_uses (uses uses' : List Decoder.Use) :
    (start.afterAll uses).Consistent ∧
      (start.afterAll uses).reading.samples <+: ((start.afterAll uses).afterAll uses').reading.samples ∧
      ((start.afterAll uses).reading.state = .complete →
        ((start.afterAll uses).afterAll uses').reading.state = .complete) := by
  have hholds := holds_start.afterAll uses
  have hlast := hholds.afterAll uses'
  have hextends := (Decoder.start.afterAll uses).extends_afterAll uses'
  refine ⟨hholds.consistent (Decoder.consistent_afterAll Progress.consistent_start uses), ?_, fun hstate => ?_⟩
  · rw [hholds.reading.samples, hlast.reading.samples]
    exact hextends.samples.map _
  · exact hlast.reading.complete_iff.2 (hextends.complete (hholds.reading.complete_iff.1 hstate))

end Reader

end Exposition

end BpfExporter
