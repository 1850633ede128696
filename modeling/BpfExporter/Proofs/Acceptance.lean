import BpfExporter.Proofs.LineReading
import BpfExporter.Proofs.Run

/-! The decoder accepts the texts of documents and no others. The lines that have been taken are at every
stage the beginning of a document, and the lines of a document are taken one after another; at the end the
samples of the document have been read. -/
namespace BpfExporter.Exposition

open Grammar

namespace Grammar

theorem newline_not_mem_of_isMetricName {name : List Char} (h : isMetricName name = true) :
    '\n' ∉ name := fun hn => by
  have := next_of_isWord SampleLine.isMetricChar_of_isMetricStart h _ hn
  exact absurd this (by decide)

theorem newline_not_mem_of_isLabelName {name : List Char} (h : isLabelName name = true) :
    '\n' ∉ name := fun hn => by
  have := next_of_isWord (fun _ => LabelText.isNameChar_of_isNameStart) h _ hn
  exact absurd this (by decide)

theorem newline_not_mem_of_escaped {t v : List Char} (h : Escaped PlainInValue t v) : '\n' ∉ t := by
  induction h with
  | nil => simp
  | char hc _ ih => simp [ih, hc.2.2.symm]
  | backslash _ ih => simp [ih]
  | quote _ ih => simp [ih]
  | newline _ ih => simp [ih]

theorem newline_not_mem_headLine_iff {keyword family : String} (hk : '\n' ∉ keyword.toList)
    {text : Option (List Char)} :
    '\n' ∉ headLine keyword family text ↔ '\n' ∉ family.toList ∧ ∀ t ∈ text, '\n' ∉ t := by
  cases text <;> simp [headLine, hk]

namespace Label

theorem newline_not_mem_written (l : Label) : '\n' ∉ l.written := by
  simp [written, newline_not_mem_of_isLabelName l.named, newline_not_mem_of_escaped l.escaped]

theorem newline_not_mem_joined (ls : List Label) : '\n' ∉ joined ls := by
  induction ls with
  | nil => simp
  | cons l ls ih =>
    cases ls with
    | nil => simp [newline_not_mem_written]
    | cons l' ls => simp [joined_cons_cons, newline_not_mem_written, ih]

end Label

theorem Integer.newline_not_mem_written (i : Integer) : '\n' ∉ i.written := fun h => by
  have := Integer.not_isBlank_of_mem_written h
  exact absurd this (by decide)

theorem SampleText.newline_not_mem_written {name : String} (h : '\n' ∉ name.toList) (x : SampleText) :
    '\n' ∉ x.written name := by
  have hb : '\n' ∉ x.braces := by
    unfold braces
    cases x.labels with
    | none => simp
    | some ls => simp [Label.newline_not_mem_joined]
  simp [written, h, hb, x.value.newline_not_mem_written]

theorem SectionText.newline_not_mem_lines (sec : SectionText) : ∀ line ∈ sec.lines, '\n' ∉ line := by
  intro line hl
  simp only [lines, head, List.cons_append, List.mem_cons, List.mem_append, List.mem_map] at hl
  rcases hl with rfl | rfl | ⟨u, hu, rfl⟩ | ⟨x, hx, rfl⟩
  · exact (newline_not_mem_headLine_iff (by decide)).2 ⟨sec.family_plain.2, sec.help_newline⟩
  · refine (newline_not_mem_headLine_iff (by decide)).2 ⟨sec.family_plain.2, ?_⟩
    cases sec.type <;> simp [MetricType.name]
  · exact (newline_not_mem_headLine_iff (by decide)).2 ⟨sec.family_plain.2, sec.units_newline u hu⟩
  · exact x.newline_not_mem_written (newline_not_mem_of_isMetricName (sec.named (List.ne_nil_of_mem hx)))

namespace SectionText

/-- A section with one more UNIT line. None before it may name a unit. -/
def addUnit (sec : SectionText) (text : Option (List Char)) (ht : ∀ t ∈ text, '\n' ∉ t)
    (hblank : ∀ u ∈ sec.units, u.getD [] = []) : SectionText :=
  { sec with
    units := sec.units ++ [text]
    units_newline := by
      intro u hu
      rcases List.mem_append.1 hu with hu | hu
      · exact sec.units_newline u hu
      · rw [List.mem_singleton.1 hu]
        exact ht
    units_blank := by simpa using hblank }

theorem lines_addUnit {sec : SectionText} {text : Option (List Char)} (ht : ∀ t ∈ text, '\n' ∉ t)
    (hblank : ∀ u ∈ sec.units, u.getD [] = []) (hs : sec.samples = []) :
    (sec.addUnit text ht hblank).lines = sec.lines ++ [headLine "UNIT" sec.family text] := by
  simp [addUnit, lines, head, hs]

def addSample (sec : SectionText) (x : SampleText)
    (hn : isMetricName (sampleName sec.family sec.type).toList = true)
    (hv : sec.type = .counter → 0 ≤ x.value.value) : SectionText :=
  { sec with
    samples := sec.samples ++ [x]
    named := fun _ => hn
    nonneg := by
      intro hcounter y hy
      rcases List.mem_append.1 hy with hy | hy
      · exact sec.nonneg hcounter y hy
      · rw [List.mem_singleton.1 hy]
        exact hv hcounter }

theorem lines_addSample {sec : SectionText} {x : SampleText}
    (hn : isMetricName (sampleName sec.family sec.type).toList = true)
    (hv : sec.type = .counter → 0 ≤ x.value.value) :
    (sec.addSample x hn hv).lines = sec.lines ++ [x.written (sampleName sec.family sec.type)] := by
  simp [addSample, lines, head]

end SectionText

theorem Document.newline_not_mem_lines (doc : Document) : ∀ line ∈ doc.lines, '\n' ∉ line := by
  intro line hl
  simp only [lines, body, List.mem_append, List.mem_flatMap, List.mem_singleton] at hl
  rcases hl with ⟨sec, -, hl⟩ | rfl
  · exact sec.newline_not_mem_lines line hl
  · decide

end Grammar

namespace Progress

/-- The lines read so far, by the stage they lead to: the beginning of a document. -/
inductive Begun : List (List Char) → Stage → Prop
  | start : Begun [] .awaitingSection
  | help (doc : Document) {family : String} {text : Option (List Char)}
      (hf : ' ' ∉ family.toList ∧ '\n' ∉ family.toList) (hn : ∀ t ∈ text, '\n' ∉ t)
      (he : ∀ t ∈ text, ∃ v, Escaped PlainInHelp t v) :
      Begun (doc.body ++ [headLine "HELP" family text]) (.awaitingType family)
  | inside (doc : Document) (sec : SectionText) {s : Section} (hf : s.family = sec.family)
      (ht : s.type = sec.type) (hu : s.unit = [] → ∀ u ∈ sec.units, u.getD [] = [])
      (hs : s.samples = [] → sec.samples = []) : Begun (doc.body ++ sec.lines) (.inSection s)
  | complete (doc : Document) : Begun doc.lines .complete

theorem body_of_begun {ls : List (List Char)} {stage : Stage} (h : Begun ls stage)
    (ha : ∀ f, stage ≠ .awaitingType f) (hc : stage ≠ .complete) : ∃ doc : Document, ls = doc.body := by
  cases h with
  | start => exact ⟨[], rfl⟩
  | help => exact absurd rfl (ha _)
  | inside doc sec => exact ⟨doc ++ [sec], by simp [Document.body]⟩
  | complete => exact absurd rfl hc

theorem begun_step {ls : List (List Char)} {n : Nat} {p p' : Progress} {line : List Char}
    (h : Begun ls p.stage) (hc : p.stage ≠ .complete) (hl : '\n' ∉ line) (ht : Taken n p line p') :
    Begun (ls ++ [line]) p'.stage := by
  cases ht with
  | eof hp =>
    obtain ⟨doc, rfl⟩ := body_of_begun h hp hc
    exact .complete doc
  | help hp hf he =>
    obtain ⟨doc, rfl⟩ := body_of_begun h hp hc
    obtain ⟨hfn, hn⟩ := (newline_not_mem_headLine_iff (by decide)).1 hl
    exact .help doc ⟨hf, hfn⟩ hn he
  | @type family t hp hf =>
    rw [hp] at h
    cases h with
    | @help doc _ text hf' hn he =>
      let sec : SectionText :=
        ⟨family, text, t, [], [], hf', hn, he, by simp, by simp, by simp, by simp⟩
      have hlines : doc.body ++ [headLine "HELP" family text] ++
          [headLine "TYPE" family (some t.name.toList)] = doc.body ++ sec.lines := by
        simp [sec, SectionText.lines, SectionText.head]
      rw [hlines]
      exact .inside doc sec rfl rfl (by simp [sec]) (by simp [sec])
  | @unit s text hp hf hu hs =>
    rw [hp] at h
    cases h with
    | inside doc sec hf' ht' hu' hs' =>
      have hn := ((newline_not_mem_headLine_iff (by decide)).1 hl).2
      rw [hf', List.append_assoc, ← SectionText.lines_addUnit hn (hu' hu) (hs' hs)]
      refine .inside doc _ rfl ht' (fun he u hmem => ?_) fun _ => hs' hs
      rcases List.mem_append.1 hmem with hmem | hmem
      · exact hu' hu u hmem
      · rw [List.mem_singleton.1 hmem]
        exact he
  | @sample s x hp hn hv =>
    rw [hp] at h
    cases h with
    | inside doc sec hf' ht' hu' hs' =>
      rw [hf', ht'] at hn ⊢
      rw [ht'] at hv
      rw [List.append_assoc, ← SectionText.lines_addSample hn hv]
      exact .inside doc _ rfl rfl hu' (by simp)

theorem not_complete_of_run {line : List Char} {lines : List (List Char)} {n n' : Nat} {p p' : Progress}
    (h : run n p (line :: lines) = (.ok (), n', p')) : p.stage ≠ .complete := by
  intro hc
  rw [run_complete hc] at h
  cases h

theorem exists_taken_of_run {line : List Char} {lines : List (List Char)} {n n' : Nat} {p p' : Progress}
    (h : run n p (line :: lines) = (.ok (), n', p')) :
    ∃ q, Taken (n + 1) p line q ∧ run (n + 1) q lines = (.ok (), n', p') := by
  have hc := not_complete_of_run h
  cases ht : p.take (n + 1) line with
  | mk r q =>
    cases r with
    | error e =>
      rw [run_of_error hc ht] at h
      cases h
    | ok u =>
      rw [run_of_ok hc ht] at h
      exact ⟨q, take_eq_ok_iff.1 ht, h⟩

theorem begun_of_run {ls lines : List (List Char)} {n n' : Nat} {p p' : Progress}
    (h : Begun ls p.stage) (hl : ∀ line ∈ lines, '\n' ∉ line)
    (hr : run n p lines = (.ok (), n', p')) : Begun (ls ++ lines) p'.stage := by
  induction lines generalizing ls n p with
  | nil =>
    simp only [run_nil, Prod.mk.injEq, true_and] at hr
    obtain ⟨-, rfl⟩ := hr
    simpa using h
  | cons line lines ih =>
    obtain ⟨q, htaken, hrest⟩ := exists_taken_of_run hr
    have hstep := begun_step h (not_complete_of_run hr) (hl line List.mem_cons_self) htaken
    have hwhole := ih hstep (fun l hm => hl l (List.mem_cons_of_mem _ hm)) hrest
    simpa using hwhole

theorem run_of_taken {n : Nat} {p p' : Progress} {line : List Char} (hc : p.stage ≠ .complete)
    (h : Taken (n + 1) p line p') (lines : List (List Char)) :
    run n p (line :: lines) = run (n + 1) p' lines :=
  run_of_ok hc (take_of_taken h) lines

/-- What UNIT lines leave in a section: the text of the last. -/
def lastUnit : List (Option (List Char)) → List Char
  | [] => []
  | [u] => u.getD []
  | _ :: us => lastUnit us

theorem run_units {family : String} (hf : ' ' ∉ family.toList) {us : List (Option (List Char))}
    (hblank : ∀ u ∈ us.dropLast, u.getD [] = []) (n : Nat) (t : MetricType) (done : List Sample)
    (rest : List (List Char)) :
    run n ⟨.inSection ⟨family, t, [], []⟩, done⟩ (us.map (headLine "UNIT" family) ++ rest) =
      run (n + us.length) ⟨.inSection ⟨family, t, lastUnit us, []⟩, done⟩ rest := by
  induction us generalizing n with
  | nil => rfl
  | cons u us ih =>
    have htaken : Taken (n + 1) ⟨.inSection ⟨family, t, [], []⟩, done⟩ (headLine "UNIT" family u)
        ⟨.inSection ⟨family, t, u.getD [], []⟩, done⟩ :=
      .unit (s := ⟨family, t, [], []⟩) rfl hf rfl rfl
    rw [List.map_cons, List.cons_append, run_of_taken (by simp) htaken]
    cases us with
    | nil => rfl
    | cons v vs =>
      have hu : u.getD [] = [] := hblank u (by simp)
      have hvs : ∀ w ∈ (v :: vs).dropLast, w.getD [] = [] := fun w hw =>
        hblank w (List.mem_cons_of_mem _ hw)
      simp only [hu]
      rw [ih hvs, List.length_cons, List.length_cons, Nat.add_assoc, Nat.add_comm 1]
      rfl

theorem run_samples {family : String} {t : MetricType} {xs : List SampleText}
    (hn : xs ≠ [] → isMetricName (sampleName family t).toList = true)
    (hv : t = .counter → ∀ x ∈ xs, 0 ≤ x.value.value) (n : Nat) (unit : List Char)
    (read done : List Sample) (rest : List (List Char)) :
    run n ⟨.inSection ⟨family, t, unit, read⟩, done⟩
        (xs.map (SampleText.written (sampleName family t)) ++ rest) =
      run (n + xs.length)
        ⟨.inSection ⟨family, t, unit, read ++ SectionText.numbered family t n xs⟩, done⟩ rest := by
  induction xs generalizing n read with
  | nil => simp [SectionText.numbered]
  | cons x xs ih =>
    have hname := hn (by simp)
    have htaken := Taken.sample (n := n + 1) (p := ⟨.inSection ⟨family, t, unit, read⟩, done⟩) (x := x)
      rfl hname fun ht => hv ht x List.mem_cons_self
    rw [List.map_cons, List.cons_append, run_of_taken (by simp) htaken,
      ih (fun _ => hname) fun ht y hy => hv ht y (List.mem_cons_of_mem _ hy)]
    simp [SectionText.numbered, Nat.add_comm, Nat.add_left_comm]

theorem run_section {p : Progress} (ha : ∀ f, p.stage ≠ .awaitingType f) (hc : p.stage ≠ .complete)
    (sec : SectionText) (n : Nat) (rest : List (List Char)) :
    run n p (sec.lines ++ rest) =
      run (n + sec.lines.length)
        ⟨.inSection ⟨sec.family, sec.type, lastUnit sec.units, sec.read n⟩, p.closed⟩ rest := by
  have hhelp := Taken.help (n := n + 1) ha sec.family_plain.1 sec.help_escaped
  have htype := Taken.type (n := n + 1 + 1) (p := ⟨.awaitingType sec.family, p.closed⟩) (t := sec.type)
    rfl sec.family_plain.1
  have hlines : sec.lines ++ rest = headLine "HELP" sec.family sec.help ::
      headLine "TYPE" sec.family (some sec.type.name.toList) ::
        (sec.units.map (headLine "UNIT" sec.family) ++
          (sec.samples.map (SampleText.written (sampleName sec.family sec.type)) ++ rest)) := by
    simp [SectionText.lines, SectionText.head]
  have hhead : n + 1 + 1 + sec.units.length = n + sec.head.length := by
    simp [SectionText.head]; omega
  have hall : n + sec.head.length + sec.samples.length = n + sec.lines.length := by
    simp [SectionText.lines]; omega
  rw [hlines, run_of_taken hc hhelp, run_of_taken (by simp) htype,
    run_units sec.family_plain.1 sec.units_blank, run_samples sec.named sec.nonneg, hhead, hall]
  rfl

theorem run_body {p : Progress} (ha : ∀ f, p.stage ≠ .awaitingType f) (hc : p.stage ≠ .complete)
    (doc : Document) (n : Nat) (rest : List (List Char)) :
    ∃ p' : Progress, (∀ f, p'.stage ≠ .awaitingType f) ∧ p'.stage ≠ .complete ∧
      p'.closed = p.closed ++ doc.readFrom n ∧
      run n p (doc.body ++ rest) = run (n + doc.body.length) p' rest := by
  induction doc generalizing n p with
  | nil => exact ⟨p, ha, hc, by simp [Document.readFrom], rfl⟩
  | cons sec doc ih =>
    obtain ⟨p', ha', hc', hclosed, hrun⟩ := ih (n := n + sec.lines.length)
      (p := ⟨.inSection ⟨sec.family, sec.type, lastUnit sec.units, sec.read n⟩, p.closed⟩)
      (by simp) (by simp)
    refine ⟨p', ha', hc', ?_, ?_⟩
    · rw [hclosed, Document.readFrom, ← List.append_assoc]
      rfl
    · have hbody : Document.body (sec :: doc) ++ rest = sec.lines ++ (Document.body doc ++ rest) := by
        simp [Document.body]
      rw [hbody, run_section ha hc, hrun]
      simp [Document.body, Nat.add_assoc]

theorem run_document (doc : Document) :
    run 0 start doc.lines = (.ok (), doc.lines.length, ⟨.complete, doc.read⟩) := by
  obtain ⟨p', ha, hc, hclosed, hrun⟩ := run_body (p := start) (by simp [start]) (by simp [start]) doc 0
    ["# EOF".toList]
  rw [Document.lines, hrun, run_of_taken hc (.eof ha), hclosed]
  simp [Document.read, closed, start, Stage.openSamples]

/-- Lines that are all taken, up to the end, are those of a document. -/
theorem exists_document_of_run {lines : List (List Char)} {n : Nat} {p : Progress}
    (hlines : ∀ line ∈ lines, '\n' ∉ line) (hrun : start.run 0 lines = (.ok (), n, p))
    (hp : p.stage = .complete) :
    ∃ doc : Document, lines = doc.lines ∧ p.samples = doc.read := by
  have hbegun := begun_of_run (p := start) .start hlines hrun
  rw [hp, List.nil_append] at hbegun
  cases hbegun with
  | complete doc =>
    rw [run_document doc] at hrun
    exact ⟨doc, rfl, congrArg Progress.samples (Prod.mk.inj (Prod.mk.inj hrun).2).2.symm⟩

end Progress

namespace Decoder

theorem close_eq_ok_iff {d : Decoder} {samples : List Sample} :
    d.close = .ok samples ↔ d.pending = none ∧ d.complete = true ∧ d.samples = samples := by
  unfold close
  cases d.pending with
  | some q => simp
  | none =>
    by_cases hcomplete : d.complete = true
    · simp [hcomplete]
    · simp only [hcomplete]
      by_cases hend : d.buffer = "# EOF".toList
      · rw [if_neg Bool.false_ne_true, if_pos hend]
        simp
      · rw [if_neg Bool.false_ne_true, if_neg hend]
        simp

/-- A text that is fed whole is accepted when its lines are taken and nothing follows the end. -/
theorem feed_text_eq_ok_iff {s : String} {b : Bool} {d : Decoder} :
    start.feed (.text s) = (.ok b, d) ↔
      ∃ n p, Progress.start.run 0 (cutLines s.toList).1 = (.ok (), n, p) ∧
        (p.stage = .complete → (cutLines s.toList).2 = []) ∧ b = decide (p.stage = .complete) ∧
        d = ⟨none, (cutLines s.toList).2, n, p⟩ := by
  have hstart : start.progress.run start.lineNumber (cutLines (start.buffer ++ s.toList)).1 =
      Progress.start.run 0 (cutLines s.toList).1 := rfl
  have hbuffer : start.buffer ++ s.toList = s.toList := rfl
  rw [feed, feedChars_eq_run, hstart, hbuffer]
  cases hr : Progress.start.run 0 (cutLines s.toList).1 with
  | mk r q =>
    obtain ⟨n, p⟩ := q
    cases r with
    | error e => simp
    | ok u =>
      by_cases hextra : p.stage = .complete ∧ (cutLines s.toList).2 ≠ []
      · simp [hextra]
      · have hnone : p.stage = .complete → (cutLines s.toList).2 = [] := fun h =>
          Classical.byContradiction fun hne => hextra ⟨h, hne⟩
        simp only [if_neg hextra, Prod.mk.injEq, Except.ok.injEq, true_and]
        constructor
        · rintro ⟨rfl, rfl⟩
          exact ⟨n, p, ⟨rfl, rfl⟩, hnone, rfl, rfl⟩
        · rintro ⟨m, q, ⟨rfl, rfl⟩, -, rfl, rfl⟩
          exact ⟨rfl, rfl⟩

/-- What is left of a text that is fed whole and then closed: all its lines have been taken, the last of
them being the end. -/
theorem feed_close_eq_ok_iff {s : String} {b : Bool} {samples : List Sample} :
    (∃ d, start.feed (.text s) = (.ok b, d) ∧ d.close = .ok samples) ↔
      b = true ∧ ∃ lines n, cutLines s.toList = (lines, []) ∧
        Progress.start.run 0 lines = (.ok (), n, ⟨.complete, samples⟩) := by
  constructor
  · rintro ⟨d, hfeed, hclose⟩
    obtain ⟨n, p, hrun, hrest, rfl, rfl⟩ := feed_text_eq_ok_iff.1 hfeed
    obtain ⟨-, hcomplete, rfl⟩ := close_eq_ok_iff.1 hclose
    have hstage : p.stage = .complete := of_decide_eq_true hcomplete
    have hp : p = ⟨.complete, p.samples⟩ := by
      rw [← hstage]
    refine ⟨hcomplete, _, n, Prod.ext rfl (hrest hstage), ?_⟩
    rw [hrun, hp]
    rfl
  · rintro ⟨rfl, lines, n, hcut, hrun⟩
    refine ⟨⟨none, [], n, ⟨.complete, samples⟩⟩, feed_text_eq_ok_iff.2 ?_, rfl⟩
    rw [hcut]
    exact ⟨n, _, hrun, fun _ => rfl, rfl, rfl⟩

/-- A text is taken up to its end exactly when it is the text of a document, and the samples left are
those of the document. -/
theorem reads_iff {s : String} {b : Bool} {samples : List Sample} :
    (∃ d, start.feed (.text s) = (.ok b, d) ∧ d.close = .ok samples) ↔
      b = true ∧ ∃ doc : Document, s.toList = doc.text ∧ samples = doc.read := by
  rw [feed_close_eq_ok_iff]
  refine and_congr_right fun _ => ⟨?_, ?_⟩
  · rintro ⟨lines, n, hcut, hrun⟩
    obtain ⟨htext, hlines⟩ := cutLines_eq_iff.1 hcut
    obtain ⟨doc, rfl, hread⟩ := Progress.exists_document_of_run hlines hrun rfl
    exact ⟨doc, htext, hread⟩
  · rintro ⟨doc, htext, rfl⟩
    exact ⟨doc.lines, doc.lines.length, cutLines_eq_iff.2 ⟨htext, doc.newline_not_mem_lines⟩,
      Progress.run_document doc⟩

/-- Feeding a text and closing succeed exactly when the text belongs to the grammar. -/
theorem accepts_iff_document (s : String) :
    (∃ b d samples, start.feed (.text s) = (.ok b, d) ∧ d.close = .ok samples) ↔
      ∃ doc : Document, s.toList = doc.text := by
  constructor
  · rintro ⟨b, d, samples, hfeed, hclose⟩
    obtain ⟨-, doc, htext, -⟩ := reads_iff.1 ⟨d, hfeed, hclose⟩
    exact ⟨doc, htext⟩
  · rintro ⟨doc, htext⟩
    obtain ⟨d, hfeed, hclose⟩ := reads_iff.2 ⟨rfl, doc, htext, rfl⟩
    exact ⟨true, d, doc.read, hfeed, hclose⟩

end Decoder

end BpfExporter.Exposition
