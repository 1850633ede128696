import BpfExporter.Proofs.Refusals

/-! The states of a decoder. Whatever it is fed with and whatever is refused, samples come from lines in their order,
and what is committed stays. -/
namespace BpfExporter.Exposition

open Decoder (cutLines)

/-- A section as it stands from its HELP line on, when its type is not known yet. -/
structure OpenSection where
  family : String
  type : Option MetricType
  unit : List Char
  samples : List Sample

namespace Stage

def openSection? : Stage → Option OpenSection
  | .awaitingType family => some ⟨family, none, [], []⟩
  | .inSection s => some ⟨s.family, some s.type, s.unit, s.samples⟩
  | .awaitingSection | .betweenSections | .complete => none

theorem openSamples_eq (s : Stage) : s.openSamples = s.openSection?.elim [] OpenSection.samples := by
  cases s <;> rfl

end Stage

namespace Progress

/-- What holds of the progress when `n` lines have been read. -/
structure Consistent (n : Nat) (p : Progress) : Prop where
  uncommitted : p.stage = .awaitingSection → p.samples = []
  own : ∀ s, p.stage = .inSection s → ∀ x ∈ s.samples, x.family = s.family ∧ x.type = s.type
  counters : ∀ x ∈ p.closed, x.type = .counter → 0 ≤ x.value
  ascending : (p.closed.map Sample.line).Pairwise (· < ·)
  read : ∀ x ∈ p.closed, x.line ≤ n

variable {n : Nat} {p p' : Progress} {line : List Char}

theorem consistent_start : start.Consistent 0 where
  uncommitted _ := rfl
  own _ hs := by cases hs
  counters _ hx := absurd hx List.not_mem_nil
  ascending := List.Pairwise.nil
  read _ hx := absurd hx List.not_mem_nil

namespace Consistent

theorem mono (h : p.Consistent n) {m : Nat} (hm : n ≤ m) : p.Consistent m :=
  { h with read := fun x hx => Nat.le_trans (h.read x hx) hm }

/-- What counts is all that was read; the rest is said of an open section with samples. -/
theorem of_closed_eq (h : p.Consistent n) (hclosed : p'.closed = p.closed) (hopen : p'.stage.openSamples = [])
    (huncommitted : p'.stage = .awaitingSection → p'.samples = []) : p'.Consistent n where
  uncommitted := huncommitted
  own s hs x hx := by
    rw [hs, Stage.openSamples] at hopen
    rw [hopen] at hx
    exact absurd hx List.not_mem_nil
  counters := by
    rw [hclosed]
    exact h.counters
  ascending := by
    rw [hclosed]
    exact h.ascending
  read := by
    rw [hclosed]
    exact h.read

theorem add (h : p.Consistent n) {s : Section} (hp : p.stage = .inSection s) {x : Sample}
    (hfamily : x.family = s.family) (htype : x.type = s.type) (hvalue : x.type = .counter → 0 ≤ x.value)
    (hline : x.line = n + 1) :
    Consistent (n + 1) { p with stage := .inSection { s with samples := s.samples ++ [x] } } := by
  have hclosed : closed { p with stage := .inSection { s with samples := s.samples ++ [x] } } =
      p.closed ++ [x] := by
    simp only [closed, hp, Stage.openSamples, List.append_assoc]
  refine ⟨fun hs => absurd hs (by simp), ?_, ?_, ?_, ?_⟩
  · intro sec hsec y hy
    obtain rfl := Stage.inSection.inj hsec
    rcases List.mem_append.1 hy with hy | hy
    · exact h.own s hp y hy
    · rw [List.mem_singleton.1 hy]
      exact ⟨hfamily, htype⟩
  · rw [hclosed, List.forall_mem_append]
    exact ⟨h.counters, by simpa using hvalue⟩
  · rw [hclosed, List.map_append, List.pairwise_append]
    refine ⟨h.ascending, List.pairwise_singleton _ _, fun a ha b hb => ?_⟩
    obtain ⟨y, hy, rfl⟩ := List.mem_map.1 ha
    have hread := h.read y hy
    rw [List.mem_singleton.1 hb, hline]
    omega
  · rw [hclosed, List.forall_mem_append]
    refine ⟨fun y hy => Nat.le_trans (h.read y hy) (Nat.le_succ n), fun y hy => ?_⟩
    have hnumber : y.line = n + 1 := by rw [List.mem_singleton.1 hy, hline]
    exact Nat.le_of_eq hnumber

theorem taken (h : p.Consistent n) (ht : Taken (n + 1) p line p') : p'.Consistent (n + 1) := by
  have hnext := h.mono (Nat.le_succ n)
  cases ht with
  | eof hp => exact hnext.of_closed_eq (closed_of_openSamples rfl _) rfl (by simp)
  | help hp hf he => exact hnext.of_closed_eq (closed_of_openSamples rfl _) rfl (by simp)
  | type hp hf => exact hnext.of_closed_eq (by simp [closed, hp, Stage.openSamples]) rfl (by simp)
  | unit hp hf hu hs => exact hnext.of_closed_eq (by simp [closed, hp, Stage.openSamples]) hs (by simp)
  | sample hp hn hv => exact h.add hp rfl rfl hv rfl

theorem refused (h : p.Consistent n) {e : LineError} (ht : p.take (n + 1) line = (.error e, p')) :
    p'.Consistent (n + 1) := by
  have hnext := h.mono (Nat.le_succ n)
  rcases of_take_error ht with rfl | rfl
  · exact hnext
  · have hopen : p.stage.withoutSection.openSamples = [] := by cases p.stage <;> rfl
    refine hnext.of_closed_eq (closed_of_openSamples hopen _) hopen fun hs => ?_
    have hstage : p.stage = .awaitingSection := by
      cases hp : p.stage <;> simp [hp, Stage.withoutSection] at hs ⊢
    simp [closed, h.uncommitted hstage, hstage, Stage.openSamples]

theorem run (h : p.Consistent n) (lines : List (List Char)) :
    (p.run n lines).2.2.Consistent (p.run n lines).2.1 := by
  induction lines generalizing p n with
  | nil => exact h
  | cons line lines ih =>
    by_cases hc : p.stage = .complete
    · rw [run_complete hc]
      exact h.mono (Nat.le_succ n)
    · cases ht : p.take (n + 1) line with
      | mk r p' =>
        cases r with
        | error e =>
          rw [run_of_error hc ht]
          exact h.refused ht
        | ok u =>
          rw [run_of_ok hc ht]
          exact ih (h.taken (take_eq_ok_iff.1 ht))

end Consistent

/-! ### What stays -/

/-- What was committed before is at the head of what is committed now, and a text that was complete is. -/
structure Extends (p p' : Progress) : Prop where
  samples : p.samples <+: p'.samples
  complete : p.stage = .complete → p'.stage = .complete

namespace Extends

theorem refl (p : Progress) : p.Extends p := ⟨List.prefix_rfl, id⟩

theorem trans {p'' : Progress} (h : p.Extends p') (h' : p'.Extends p'') : p.Extends p'' :=
  ⟨h.samples.trans h'.samples, h'.complete ∘ h.complete⟩

theorem closed (hp : p.stage ≠ .complete) (s : Stage) : p.Extends ⟨s, p.closed⟩ :=
  ⟨List.prefix_append _ _, fun hc => absurd hc hp⟩

theorem take (hp : p.stage ≠ .complete) {r : Except LineError Unit} (ht : p.take n line = (r, p')) :
    p.Extends p' := by
  cases r with
  | error e =>
    rcases of_take_error ht with rfl | rfl
    · exact refl p'
    · exact closed hp _
  | ok u =>
    cases take_eq_ok_iff.1 ht with
    | eof _ => exact closed hp _
    | help _ _ _ => exact closed hp _
    | type _ _ => exact ⟨List.prefix_rfl, fun hc => absurd hc hp⟩
    | unit _ _ _ _ => exact ⟨List.prefix_rfl, fun hc => absurd hc hp⟩
    | sample _ _ _ => exact ⟨List.prefix_rfl, fun hc => absurd hc hp⟩

theorem run (p : Progress) (n : Nat) (lines : List (List Char)) : p.Extends (p.run n lines).2.2 := by
  induction lines generalizing p n with
  | nil => exact refl p
  | cons line lines ih =>
    by_cases hc : p.stage = .complete
    · rw [run_complete hc]
      exact refl p
    · cases ht : p.take (n + 1) line with
      | mk r p' =>
        cases r with
        | error e =>
          rw [run_of_error hc ht]
          exact take hc ht
        | ok u =>
          rw [run_of_ok hc ht]
          exact (take hc ht).trans (ih p' (n + 1))

end Extends

end Progress

namespace Decoder

/-- What is done to a decoder. -/
inductive Use
  | feed (c : Chunk)
  | close

def after (d : Decoder) : Use → Decoder
  | .feed c => (d.feed c).2
  | .close => d

def afterAll (d : Decoder) (uses : List Use) : Decoder := uses.foldl after d

def openSection? (d : Decoder) : Option OpenSection := d.progress.stage.openSection?

/-- All samples that were read: those committed and those of the open section. -/
def allSamples (d : Decoder) : List Sample := d.samples ++ d.openSection?.elim [] OpenSection.samples

theorem allSamples_eq_closed (d : Decoder) : d.allSamples = d.progress.closed := by
  rw [allSamples, openSection?, ← Stage.openSamples_eq]
  rfl

/-! ### Uses one after another -/

/-- The progress of a decoder makes a run with every chunk that is not refused for its bytes. -/
theorem progress_feed (d : Decoder) (c : Chunk) : (d.feed c).2 = d ∨ ∃ lines,
    (d.feed c).2.progress = (d.progress.run d.lineNumber lines).2.2 ∧
      (d.feed c).2.lineNumber = (d.progress.run d.lineNumber lines).2.1 := by
  cases c with
  | text s =>
    rw [feed, feedChars_snd]
    exact .inr ⟨_, rfl, rfl⟩
  | bytes bs =>
    rw [feed]
    cases Utf8.decode 0 d.pending bs with
    | error e => exact .inl rfl
    | ok r =>
      simp only [feedChars_snd]
      exact .inr ⟨_, rfl, rfl⟩

theorem consistent_after {d : Decoder} (h : d.progress.Consistent d.lineNumber) (u : Use) :
    (d.after u).progress.Consistent (d.after u).lineNumber := by
  cases u with
  | close => exact h
  | feed c =>
    rw [after]
    rcases d.progress_feed c with hsame | ⟨lines, hprogress, hnumber⟩
    · rw [hsame]
      exact h
    · rw [hprogress, hnumber]
      exact h.run lines

theorem extends_after (d : Decoder) (u : Use) : d.progress.Extends (d.after u).progress := by
  cases u with
  | close => exact .refl _
  | feed c =>
    rw [after]
    rcases d.progress_feed c with hsame | ⟨lines, hprogress, -⟩
    · rw [hsame]
      exact .refl _
    · rw [hprogress]
      exact .run _ _ _

theorem consistent_afterAll {d : Decoder} (h : d.progress.Consistent d.lineNumber) (uses : List Use) :
    (d.afterAll uses).progress.Consistent (d.afterAll uses).lineNumber := by
  induction uses generalizing d with
  | nil => exact h
  | cons u uses ih => exact ih (consistent_after h u)

theorem extends_afterAll (d : Decoder) (uses : List Use) : d.progress.Extends (d.afterAll uses).progress := by
  induction uses generalizing d with
  | nil => exact .refl _
  | cons u uses ih => exact (d.extends_after u).trans (ih _)

end Decoder

end BpfExporter.Exposition
