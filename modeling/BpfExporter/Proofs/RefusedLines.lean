import BpfExporter.Proofs.DecoderStates

/-! Refused lines. All that can fail comes before anything is changed, but for a HELP line: it closes the section
before its text is looked at. So a HELP line with a bad escape commits the samples of the section that is open,
and every other refused line leaves the decoder with nothing but a line more. -/
namespace BpfExporter.Exposition

open Grammar

/-- A HELP line whose text ends in the middle of an escape, or has one that is none. -/
def IsBadHelp (line : List Char) : Prop :=
  ∃ family text e, ' ' ∉ family.toList ∧ line = headLine "HELP" family (some text) ∧
    Escape.unescape text = .error e

namespace Progress

variable {p p' : Progress} {n : Nat} {line : List Char} {s : Section} {e : LineError}

theorem take_badHelp (hp : p.stage = .inSection s) (h : IsBadHelp line) (n : Nat) :
    ∃ b, p.take n line = (.error (.malformed (.badEscape b)), ⟨.betweenSections, p.samples ++ s.samples⟩) := by
  obtain ⟨family, text, b, hf, rfl, hb⟩ := h
  refine ⟨b, ?_⟩
  rw [take_headLine (by decide) hf, if_pos rfl, takeHelp, hp]
  simp only [Option.getD_some, hb, refuse, closed, hp, Stage.withoutSection, Stage.openSamples]

theorem withoutSection_closed (h : ∀ s, p.stage ≠ .inSection s) :
    (⟨p.stage.withoutSection, p.closed⟩ : Progress) = p := by
  obtain ⟨stage, samples⟩ := p
  have hopen : stage.withoutSection = stage ∧ stage.openSamples = [] := by
    cases stage with
    | inSection s => exact absurd rfl (h s)
    | _ => exact ⟨rfl, rfl⟩
  rw [closed_of_openSamples hopen.2, hopen.1]

/-- Where a HELP line is refused, either nothing has changed or its text was found bad in a section. -/
theorem takeHelp_error_cases {name text : List Char} (h : p.takeHelp name text = (.error e, p')) :
    p' = p ∨ (∃ s, p.stage = .inSection s) ∧ ∃ b, Escape.unescape text = .error b := by
  unfold takeHelp at h
  split at h
  · exact .inl (Prod.mk.inj h).2.symm
  split at h
  · next b hb =>
    by_cases hs : ∃ s, p.stage = .inSection s
    · exact .inr ⟨hs, b, hb⟩
    · exact .inl ((Prod.mk.inj h).2.symm.trans (withoutSection_closed (not_exists.1 hs)))
  · cases h

theorem take_error_cases (h : p.take n line = (.error e, p')) :
    p' = p ∨ (∃ s, p.stage = .inSection s) ∧ IsBadHelp line := by
  unfold take at h
  split at h
  · unfold takeEnd at h
    split at h
    · exact .inl (Prod.mk.inj h).2.symm
    · cases h
  split at h
  · unfold takeMetadata at h
    split at h
    · next keyword name rest hcut =>
      obtain ⟨hf, text, hline, rfl⟩ := headLine_of_cutSpaces hcut
      simp only at h
      split at h
      · next hk =>
        refine (takeHelp_error_cases h).imp_right (And.imp_right ?_)
        rintro ⟨b, hb⟩
        cases text with
        | none => cases hb
        | some text =>
          rw [Option.toList_some, List.flatten_singleton] at hb
          refine ⟨String.ofList name, text, b, by simpa using hf, ?_, hb⟩
          rw [hline, hk, String.ofList_toList]
      split at h
      · exact .inl (of_takeType_error h)
      split at h
      · exact .inl (of_takeUnit_error h)
      · exact .inl (Prod.mk.inj h).2.symm
    · exact .inl (Prod.mk.inj h).2.symm
  · exact .inl (of_takeSample_error h)

/-- What becomes of the progress when a line is refused. -/
theorem take_refused (h : p.take n line = (.error e, p')) :
    ((∀ s, p.stage = .inSection s → ¬IsBadHelp line) → p' = p) ∧
      (∀ s, p.stage = .inSection s → IsBadHelp line → p' = ⟨.betweenSections, p.samples ++ s.samples⟩) ∧
      p'.stage.name = p.stage.name ∧ p'.closed = p.closed := by
  by_cases hbad : ∃ s, p.stage = .inSection s ∧ IsBadHelp line
  · obtain ⟨s, hs, hline⟩ := hbad
    obtain ⟨b, hb⟩ := take_badHelp hs hline n
    rw [h] at hb
    obtain ⟨-, rfl⟩ := Prod.mk.inj hb
    refine ⟨fun hgood => absurd hline (hgood s hs), fun s' hs' _ => ?_, ?_, ?_⟩
    · rw [← Stage.inSection.inj (hs.symm.trans hs')]
    · rw [hs]
      rfl
    · rw [closed_of_openSamples rfl, closed, hs]
      rfl
  · have hsame : p' = p := by
      refine (take_error_cases h).resolve_right ?_
      rintro ⟨⟨s, hs⟩, hline⟩
      exact hbad ⟨s, hs, hline⟩
    subst hsame
    exact ⟨fun _ => rfl, fun s hs hline => absurd ⟨s, hs, hline⟩ hbad, rfl, rfl⟩

end Progress

namespace Decoder

/-- A refused line leaves the decoder as it was with one line more, unless it is a bad HELP line in a section:
then the section is closed and its samples are committed. In no case does the state go by another name, and no
sample is lost or added. -/
theorem takeLines_refused {d d' : Decoder} {line : List Char} {e : DecodeError}
    (h : d.takeLines [line] = (.error e, d')) :
    ((∀ s, d.progress.stage = .inSection s → ¬IsBadHelp line) → d' = { d with lineNumber := d.lineNumber + 1 }) ∧
      (∀ s, d.progress.stage = .inSection s → IsBadHelp line →
        d' = { d with lineNumber := d.lineNumber + 1
                      progress := ⟨.betweenSections, d.samples ++ s.samples⟩ }) ∧
      d'.progress.stage.name = d.progress.stage.name ∧ d'.allSamples = d.allSamples := by
  rw [d'.allSamples_eq_closed, d.allSamples_eq_closed]
  by_cases hc : d.progress.stage = .complete
  -- What follows the end is refused before it is looked at.
  · rw [takeLines_eq_run, Progress.run_complete hc] at h
    obtain ⟨-, rfl⟩ := Prod.mk.inj h
    refine ⟨fun _ => rfl, fun s hs => ?_, rfl, rfl⟩
    rw [hc] at hs
    cases hs
  · cases ht : d.progress.take (d.lineNumber + 1) line with
    | mk r p' =>
      cases r with
      | ok u =>
        rw [takeLines_eq_run, Progress.run_of_ok hc ht, Progress.run_nil] at h
        cases h
      | error e =>
        rw [takeLines_eq_run, Progress.run_of_error hc ht] at h
        obtain ⟨-, rfl⟩ := Prod.mk.inj h
        obtain ⟨hsame, hclosed, hname, hsamples⟩ := Progress.take_refused ht
        refine ⟨fun hgood => ?_, fun s hs hbad => ?_, hname, hsamples⟩
        · rw [hsame hgood]
        · rw [hclosed s hs hbad]
          rfl

def withOneSample : Decoder := ⟨none, [], 3, ⟨.inSection ⟨"a", .gauge, [], [⟨"a", .gauge, [], 1, 3⟩]⟩, []⟩⟩

theorem feed_oneSample : start.feed (.text "# HELP a h\n# TYPE a gauge\na 1\n") = (.ok false, withOneSample) := by
  have hcut : cutLines (start.buffer ++ "# HELP a h\n# TYPE a gauge\na 1\n".toList) =
      (["# HELP a h".toList, "# TYPE a gauge".toList, "a 1".toList], []) := by decide +kernel
  have hrun : start.progress.run start.lineNumber
      ["# HELP a h".toList, "# TYPE a gauge".toList, "a 1".toList] = _ := run_oneSample
  rw [feed, feedChars_eq_run, hcut, hrun]
  rfl

/-- A value that is no number leaves the section as it is. -/
theorem takeLines_refused_value : ∃ d,
    withOneSample.takeLines ["a x".toList] = (.error (.parse 4 (.notNumeric "x")), d) ∧
      d.openSection? = withOneSample.openSection? ∧ d.lineNumber = 4 := by
  have hrefused : withOneSample.takeLines ["a x".toList] =
      (.error (.parse 4 (.notNumeric "x")), { withOneSample with lineNumber := 4 }) := rfl
  have hgood : ¬IsBadHelp "a x".toList := by
    rintro ⟨family, text, e, -, hline, -⟩
    cases hline
  obtain ⟨hsame, -⟩ := takeLines_refused hrefused
  refine ⟨_, hrefused, ?_⟩
  rw [hsame fun _ _ => hgood]
  exact ⟨rfl, rfl⟩

/-- A HELP line that is refused closes the section before it and commits its sample. -/
theorem takeLines_bad_help : ∃ d,
    start.feed (.text "# HELP a h\n# TYPE a gauge\na 1\n") = (.ok false, withOneSample) ∧
      withOneSample.takeLines ["# HELP b \\x".toList] = (.error (.parse 4 (.badEscape ⟨some 'x'⟩)), d) ∧
      withOneSample.openSection?.isSome ∧ d.openSection?.isNone ∧
      withOneSample.samples = [] ∧ d.samples = [⟨"a", .gauge, [], 1, 3⟩] :=
  ⟨⟨none, [], 4, ⟨.betweenSections, [⟨"a", .gauge, [], 1, 3⟩]⟩⟩, feed_oneSample, rfl, rfl, rfl, rfl, rfl⟩

end Decoder

end BpfExporter.Exposition
