import BpfExporter.Proofs.FoldedRecords

/-! Sections of other families put into a text that is decoded. The lines of a document are cut into those of two
documents in front of every HELP line and of the end, so whole sections fit in there; what they add to the samples
counts for nothing, and the other samples say what they said, on later lines. -/
namespace BpfExporter.Exposition

open Decoder (cutLines)
open Grammar (Document SectionText SampleText headLine)
open ProgramRecord (Field)

variable {path : String}

/-! ### HELP lines -/

/-- The family that a line names if it is a HELP line. -/
def helpFamily? (line : List Char) : Option String :=
  match cutSpaces 3 line with
  | ['#'] :: keyword :: name :: _ => if keyword = "HELP".toList then some (String.ofList name) else none
  | _ => none

theorem helpFamily?_headLine {keyword family : String} (hk : ' ' ∉ keyword.toList) (hf : ' ' ∉ family.toList)
    (text : Option (List Char)) :
    helpFamily? (headLine keyword family text) = if keyword = "HELP" then some family else none := by
  simp only [helpFamily?, cutSpaces_headLine hk hf, String.toList_inj, String.ofList_toList]

theorem exists_headLine_of_helpFamily? {line : List Char} {family : String} (h : helpFamily? line = some family) :
    ∃ text, line = headLine "HELP" family text := by
  unfold helpFamily? at h
  split at h
  · next keyword name text hcut =>
    split at h
    · next hkeyword =>
      obtain rfl := Option.some.inj h
      obtain ⟨-, text, hline, -⟩ := headLine_of_cutSpaces hcut
      rw [hkeyword] at hline
      exact ⟨text, hline⟩
    · cases h
  · cases h

/-- A section begins with the line, or the text ends with it. -/
def IsBreak (line : List Char) : Prop := (helpFamily? line).isSome ∨ line = "# EOF".toList

namespace Grammar

theorem not_isBreak_written {name : String} (h : isMetricName name.toList = true) (x : SampleText) :
    ¬IsBreak (x.written name) := by
  have hhash := Progress.head?_ne_hash h (x.braces ++ ' ' :: x.value.written)
  rintro (hhelp | hend)
  · obtain ⟨family, hfamily⟩ := Option.isSome_iff_exists.1 hhelp
    obtain ⟨text, hline⟩ := exists_headLine_of_helpFamily? hfamily
    exact hhash (congrArg List.head? hline)
  · exact hhash (congrArg List.head? hend)

theorem not_isBreak_headLine {keyword family : String} (hk : ' ' ∉ keyword.toList) (hf : ' ' ∉ family.toList)
    (hkeyword : keyword ≠ "HELP") (text : Option (List Char)) : ¬IsBreak (headLine keyword family text) := by
  rintro (hhelp | hend)
  · rw [helpFamily?_headLine hk hf, if_neg hkeyword] at hhelp
    cases hhelp
  · have hcut := cutSpaces_headLine hk hf text
    rw [hend] at hcut
    exact absurd (congrArg List.length hcut) (by simp [cutSpaces])

namespace SectionText

/-- Of the lines of a section, the first alone is a break. -/
theorem exists_lines (sec : SectionText) :
    ∃ rest, sec.lines = headLine "HELP" sec.family sec.help :: rest ∧ ∀ line ∈ rest, ¬IsBreak line := by
  refine ⟨headLine "TYPE" sec.family (some sec.type.name.toList) :: (sec.units.map (headLine "UNIT" sec.family) ++
    sec.samples.map (SampleText.written (sampleName sec.family sec.type))), rfl, fun line hline => ?_⟩
  simp only [List.mem_cons, List.mem_append, List.mem_map] at hline
  rcases hline with rfl | ⟨u, -, rfl⟩ | ⟨x, hx, rfl⟩
  · exact not_isBreak_headLine (by decide) sec.family_plain.1 (by decide) _
  · exact not_isBreak_headLine (by decide) sec.family_plain.1 (by decide) _
  · exact not_isBreak_written (sec.named (List.ne_nil_of_mem hx)) x

theorem families_lines (sec : SectionText) : sec.lines.filterMap helpFamily? = [sec.family] := by
  obtain ⟨rest, hlines, hrest⟩ := sec.exists_lines
  have hnone : rest.filterMap helpFamily? = [] := by
    rw [List.filterMap_eq_nil_iff]
    intro line hline
    exact Option.not_isSome_iff_eq_none.1 fun hhelp => hrest line hline (.inl hhelp)
  rw [hlines, List.filterMap_cons, helpFamily?_headLine (by decide) sec.family_plain.1, if_pos rfl, hnone]

end SectionText

namespace Document

/-- No section is of a family that a field of the programs under the path is read from. -/
def IsForeign (path : String) (doc : Document) : Prop := ∀ sec ∈ doc, ∀ f, sec.family ≠ familyOf path f

theorem lines_append (doc doc' : Document) : lines (doc ++ doc') = body doc ++ lines doc' := by
  simp [lines, body]

theorem text_append (doc doc' : Document) : text (doc ++ doc') = unlines (body doc) ++ text doc' := by
  rw [text, lines_append, unlines_append, text]

theorem text_eq (doc : Document) : doc.text = unlines doc.body ++ "# EOF\n".toList := by
  rw [text, lines, unlines_append]
  rfl

theorem newline_not_mem_body (doc : Document) : ∀ line ∈ body doc, '\n' ∉ line := fun line hline =>
  doc.newline_not_mem_lines line (List.mem_append_left _ hline)

theorem families_body (doc : Document) : doc.body.filterMap helpFamily? = doc.map SectionText.family := by
  induction doc with
  | nil => rfl
  | cons sec doc ih =>
    have hbody : body (sec :: doc) = sec.lines ++ body doc := by simp [body]
    rw [hbody, List.filterMap_append, sec.families_lines, ih, List.map_cons, List.singleton_append]

theorem exists_append_of_lines {doc : Document} {ls ms : List (List Char)} {line : List Char}
    (h : lines doc = ls ++ line :: ms) (hbreak : IsBreak line) :
    ∃ doc₁ doc₂ : Document, doc = doc₁ ++ doc₂ ∧ ls = body doc₁ ∧ line :: ms = lines doc₂ := by
  induction doc generalizing ls with
  | nil =>
    cases ls with
    | nil => exact ⟨[], [], rfl, rfl, h.symm⟩
    | cons l ls =>
      have hlength := congrArg List.length h
      simp [lines, body] at hlength
  | cons sec doc ih =>
    cases ls with
    | nil => exact ⟨[], sec :: doc, rfl, rfl, h.symm⟩
    | cons l ls =>
      obtain ⟨rest, hsec, hrest⟩ := sec.exists_lines
      have hbody : ∀ doc' : Document, body (sec :: doc') =
          headLine "HELP" sec.family sec.help :: (rest ++ body doc') := by
        intro doc'
        rw [← List.cons_append, ← hsec]
        simp [body]
      rw [lines, hbody, List.cons_append, List.append_assoc, ← lines, List.cons_append, List.cons.injEq] at h
      obtain ⟨rfl, h⟩ := h
      -- The break is none of the other lines of the section, so it stands after all of them.
      rcases List.append_eq_append_iff.1 h with ⟨more, rfl, hdoc⟩ | ⟨more, rfl, hdoc⟩
      · obtain ⟨doc₁, doc₂, rfl, rfl, hms⟩ := ih hdoc
        exact ⟨sec :: doc₁, doc₂, rfl, (hbody doc₁).symm, hms⟩
      · cases more with
        | nil =>
          refine ⟨[sec], doc, rfl, ?_, hdoc⟩
          rw [hbody, List.append_nil]
          simp [body]
        | cons line' more =>
          obtain ⟨rfl, -⟩ := List.cons.inj hdoc
          exact absurd hbreak (hrest line (by simp))

end Document

end Grammar

/-! ### Texts -/

def AtBreak (cs : List Char) : Prop := ∃ line ∈ (cutLines cs).1.head?, IsBreak line

theorem exists_append_of_text {doc : Document} {before after : List Char} (h : doc.text = before ++ after)
    (hbefore : (cutLines before).2 = []) (hafter : AtBreak after) :
    ∃ doc₁ doc₂ : Document, doc = doc₁ ++ doc₂ ∧ before = unlines doc₁.body ∧ after = doc₂.text := by
  have hcut : cutLines doc.text = (doc.lines, []) := cutLines_eq_iff.2 ⟨rfl, doc.newline_not_mem_lines⟩
  rw [h, cutLines_append, hbefore, List.nil_append] at hcut
  obtain ⟨hlines, hrest⟩ := Prod.mk.inj hcut
  obtain ⟨line, hline, hbreak⟩ := hafter
  obtain ⟨ms, hms⟩ := List.head?_eq_some_iff.1 hline
  rw [hms] at hlines
  obtain ⟨doc₁, doc₂, hdoc, hls, hms'⟩ := Document.exists_append_of_lines hlines.symm hbreak
  have hbeforetext := unlines_cutLines before
  have haftertext := unlines_cutLines after
  rw [hbefore, hls, List.append_nil] at hbeforetext
  rw [hrest, hms, hms', List.append_nil] at haftertext
  exact ⟨doc₁, doc₂, hdoc, hbeforetext.symm, haftertext.symm⟩

def helpFamilies (cs : List Char) : List String := (cutLines cs).1.filterMap helpFamily?

/-- Sections that the decoder takes in front of the end, none of them of a family that a field of the programs under
the path is read from. -/
structure IsForeignText (path : String) (cs : List Char) : Prop where
  accepted : ∃ b d samples, Decoder.start.feed (.text (String.ofList (cs ++ "# EOF\n".toList))) = (.ok b, d) ∧
    d.close = .ok samples
  families : ∀ family ∈ helpFamilies cs, ∀ f, family ≠ familyOf path f

theorem isForeignText_iff {cs : List Char} :
    IsForeignText path cs ↔ ∃ secs : Document, cs = unlines secs.body ∧ secs.IsForeign path := by
  have hfamilies : ∀ secs : Document, helpFamilies (unlines secs.body) = secs.map SectionText.family := by
    intro secs
    rw [helpFamilies, cutLines_eq_iff.2 ⟨rfl, secs.newline_not_mem_body⟩, secs.families_body]
  constructor
  · rintro ⟨haccepted, hforeign⟩
    obtain ⟨secs, htext⟩ := (Decoder.accepts_iff_document _).1 haccepted
    rw [String.toList_ofList, secs.text_eq] at htext
    obtain rfl := List.append_cancel_right htext
    rw [hfamilies] at hforeign
    exact ⟨secs, rfl, fun sec hsec => hforeign sec.family (List.mem_map_of_mem hsec)⟩
  · rintro ⟨secs, rfl, hforeign⟩
    refine ⟨(Decoder.accepts_iff_document _).2 ⟨secs, ?_⟩, ?_⟩
    · rw [String.toList_ofList, secs.text_eq]
    · rw [hfamilies]
      intro family hfamily
      obtain ⟨sec, hsec, rfl⟩ := List.mem_map.1 hfamily
      exact hforeign sec hsec

/-- The text with others put into it, one after another, each made of foreign sections and put in front of a HELP line
or of the end. -/
inductive Enlarged (path : String) (cs : List Char) : List Char → Prop
  | same : Enlarged path cs cs
  | insert {before inserted after : List Char} (h : Enlarged path cs (before ++ after))
      (hbefore : (cutLines before).2 = []) (hafter : AtBreak after) (hforeign : IsForeignText path inserted) :
      Enlarged path cs (before ++ inserted ++ after)

theorem atBreak_text (doc : Document) : AtBreak doc.text := by
  rw [AtBreak, Document.text, cutLines_eq_iff.2 ⟨rfl, doc.newline_not_mem_lines⟩]
  cases doc with
  | nil => exact ⟨_, rfl, .inr rfl⟩
  | cons sec doc =>
    refine ⟨headLine "HELP" sec.family sec.help, rfl, .inl ?_⟩
    rw [helpFamily?_headLine (by decide) sec.family_plain.1, if_pos rfl]
    rfl

theorem Enlarged.insert_sections {cs : List Char} {doc₁ secs doc₂ : Document}
    (h : Enlarged path cs (doc₁ ++ doc₂ : Document).text) (hforeign : secs.IsForeign path) :
    Enlarged path cs (doc₁ ++ secs ++ doc₂ : Document).text := by
  rw [Document.text_append] at h
  rw [List.append_assoc, Document.text_append, Document.text_append, ← List.append_assoc]
  refine h.insert ?_ (atBreak_text doc₂) (isForeignText_iff.2 ⟨secs, rfl, hforeign⟩)
  rw [cutLines_eq_iff.2 ⟨rfl, doc₁.newline_not_mem_body⟩]

/-! ### Samples -/

section Contents

variable {samples samples' : List Sample} {records records' previous : Records}

theorem foldSample_ofContent {s : Sample} :
    foldSample path records (.ofContent s.content) = .ok records' ↔ foldSample path records s = .ok records' := by
  have hfield : (Sample.ofContent s.content).field? path = s.field? path := rfl
  unfold foldSample
  rw [hfield]
  cases s.field? path with
  | none => rfl
  | some f =>
    cases hid : s.id with
    | ok n =>
      rw [(s.id_ofContent n).2 hid]
      rfl
    | error e =>
      cases hid' : (Sample.ofContent s.content).id with
      | ok n => simp [(s.id_ofContent n).1 hid'] at hid
      | error e' => simp

theorem gather_ofContent : gather path records ((samples.map Sample.content).map .ofContent) = .ok records' ↔
    gather path records samples = .ok records' := by
  induction samples generalizing records with
  | nil => rfl
  | cons s samples ih =>
    rw [List.map_cons, List.map_cons, gather, gather]
    cases hs : foldSample path records s with
    | ok records₁ =>
      rw [foldSample_ofContent.2 hs]
      exact ih
    | error e =>
      cases hs' : foldSample path records (.ofContent s.content) with
      | ok records₁ => simp [foldSample_ofContent.1 hs'] at hs
      | error e' => simp

theorem foldPrograms_of_contents (h : samples.map Sample.content = samples'.map Sample.content)
    (hfold : foldPrograms path previous samples = .ok records) :
    foldPrograms path previous samples' = .ok records := by
  obtain ⟨gathered, hgather, hrecords⟩ := foldPrograms_eq_ok_iff.1 hfold
  rw [← gather_ofContent, h, gather_ofContent] at hgather
  exact foldPrograms_eq_ok_iff.2 ⟨gathered, hgather, hrecords⟩

/-- What the samples of fields say, the others left out. -/
def relevantContents (path : String) (samples : List Sample) :
    List (String × MetricType × List (String × String) × Int) :=
  (samples.map Sample.content).filter fun c => (Sample.ofContent c).IsRelevant path

theorem contents_filter_isRelevant (samples : List Sample) :
    (samples.filter fun s => s.IsRelevant path).map Sample.content = relevantContents path samples := by
  rw [relevantContents, List.filter_map]
  rfl

/-- Nothing but the samples of fields counts, and nothing but what they say. -/
theorem foldPrograms_of_relevantContents (h : relevantContents path samples = relevantContents path samples')
    (hfold : foldPrograms path previous samples = .ok records) :
    foldPrograms path previous samples' = .ok records := by
  rw [← contents_filter_isRelevant, ← contents_filter_isRelevant] at h
  rw [← foldPrograms_filter_isRelevant] at hfold ⊢
  exact foldPrograms_of_contents h hfold

end Contents

theorem relevantContents_insert {doc₁ secs doc₂ : Document} (hforeign : secs.IsForeign path) :
    relevantContents path (doc₁ ++ secs ++ doc₂ : Document).read =
      relevantContents path (doc₁ ++ doc₂ : Document).read := by
  have hnone : (secs.flatMap fun sec =>
      sec.samples.map fun x => (sec.family, sec.type, x.pairs, x.value.value)).filter
        (fun c => (Sample.ofContent c).IsRelevant path) = [] := by
    rw [List.filter_eq_nil_iff]
    intro c hc
    obtain ⟨sec, hsec, hc⟩ := List.mem_flatMap.1 hc
    obtain ⟨x, -, rfl⟩ := List.mem_map.1 hc
    rw [decide_eq_true_iff]
    rintro ⟨f, hf⟩
    exact hforeign sec hsec f hf
  simp only [relevantContents, Document.read, Document.contents_readFrom, List.flatMap_append,
    List.filter_append, hnone, List.append_nil]

/-- One more insertion leaves a document whose samples are folded into the same records. -/
theorem exists_document_insert {doc : Document} {before inserted after : List Char} {previous records : Records}
    (htext : doc.text = before ++ after) (hbefore : (cutLines before).2 = []) (hafter : AtBreak after)
    (hforeign : IsForeignText path inserted) (hfold : foldPrograms path previous doc.read = .ok records) :
    ∃ doc' : Document, doc'.text = before ++ inserted ++ after ∧
      foldPrograms path previous doc'.read = .ok records := by
  obtain ⟨doc₁, doc₂, rfl, rfl, rfl⟩ := exists_append_of_text htext hbefore hafter
  obtain ⟨secs, rfl, hfamilies⟩ := isForeignText_iff.1 hforeign
  refine ⟨doc₁ ++ secs ++ doc₂, ?_, ?_⟩
  · rw [List.append_assoc, Document.text_append, Document.text_append, List.append_assoc]
  · exact foldPrograms_of_relevantContents (relevantContents_insert hfamilies).symm hfold

/-- A text that is decoded into records is decoded into the same records with foreign sections put in front of its HELP
lines and its end. -/
theorem decode_of_enlarged {c c' : Chunk} {cs cs' : List Char} {previous records : Records}
    (hdecode : decode c path previous = .ok records) (hspells : c.Spells cs) (henlarged : Enlarged path cs cs')
    (hspells' : c'.Spells cs') : decode c' path previous = .ok records := by
  obtain ⟨doc, htext, hfold⟩ : ∃ doc : Document, doc.text = cs' ∧
      foldPrograms path previous doc.read = .ok records := by
    clear hspells'
    induction henlarged with
    | same =>
      obtain ⟨doc, hdoc, hfold⟩ := decode_eq_ok_iff.1 hdecode
      exact ⟨doc, hdoc.unique hspells, hfold⟩
    | insert _ hbefore hafter hforeign ih =>
      obtain ⟨doc, htext, hfold⟩ := ih
      exact exists_document_insert htext hbefore hafter hforeign hfold
  subst htext
  rw [decode_of_spells hspells', hfold]

theorem isMetricName_cost : Grammar.isMetricName "bpf_prog_cost".toList = true := by decide

/-- The cost of a program 7 of another name, which no field is read from. -/
def costOfSeven : Document := TypedMetric.document [.counter _ isMetricName_cost "7" "q" 3]

theorem isForeign_costOfSeven : costOfSeven.IsForeign "bpf_prog" := by
  intro sec hsec f
  obtain rfl := List.mem_singleton.1 hsec
  cases f <;> decide

/-- The run time of a program is decoded alike between sections of its cost. -/
theorem decode_between_costs :
    decode (runTimeText 5) "bpf_prog" [] = .ok (runTimeRecords 5) ∧
      decode (.text (String.ofList
          (costOfSeven ++ TypedMetric.document [runTimeOfSeven] ++ costOfSeven : Document).text))
        "bpf_prog" [] = .ok (runTimeRecords 5) := by
  have hsame : Enlarged "bpf_prog" (TypedMetric.document [runTimeOfSeven]).text
      (TypedMetric.document [runTimeOfSeven] ++ [] : Document).text := by
    rw [List.append_nil]
    exact .same
  have hafter := hsame.insert_sections isForeign_costOfSeven
  rw [List.append_nil, ← List.nil_append (TypedMetric.document [runTimeOfSeven] ++ costOfSeven)] at hafter
  have hboth := hafter.insert_sections isForeign_costOfSeven
  rw [List.nil_append, ← List.append_assoc] at hboth
  have hspells : (runTimeText 5).Spells (TypedMetric.document [runTimeOfSeven]).text := Chunk.spells_ofList _
  exact ⟨decode_runTimeText 5, decode_of_enlarged (decode_runTimeText 5) hspells hboth (Chunk.spells_ofList _)⟩

end BpfExporter.Exposition
