import BpfExporter.Proofs.Export
import BpfExporter.Proofs.ExposedNames
import BpfExporter.Proofs.FamilyText
import BpfExporter.Proofs.HeadNames
import BpfExporter.Proofs.LibraryNames
import BpfExporter.Proofs.Rendering

/-! Registries whose text can be read. Names are written as they are, and what is asked of them at a registration is
up to the client library. The text of a registry is accepted exactly when its names are single words and those before
values are names of the format, and then every family is read as a section of its own. -/
namespace BpfExporter

open Exposition
open Exposition.Decoder (cutLines)
open Exposition.Grammar

/-! ### Families as sections -/

/-- A value for a label set, as a sample of a type that has a place for it. -/
def LabelSet.typedSample (l : LabelSet) {t : MetricType} {v : Int} (h : inRange t v = true) : TypedSample t where
  labels := l.texts
  value := v
  named _ hq := isLabelName_labelNames _ _ (l.names_texts ▸ List.mem_map_of_mem hq)
  distinct := l.names_texts ▸ nodup_labelNames _
  held := h

theorem toList_sampleLine (name : String) {t : MetricType} {p : LabelSet × Int} (h : inRange t p.2 = true) :
    (sampleLine name t p).toList = (p.1.typedSample h).text.written (sampleName name t) := by
  have hlabels : (p.1.pairs.map fun q => (q.1, Json.str q.2.display)) =
      (p.1.typedSample h).labels.map fun q => (q.1, .str q.2) := by
    simp only [LabelSet.typedSample, LabelSet.texts, List.map_map]
    rfl
  have hvalue : (p.1.typedSample h).text.value.written = (toString p.2).toList :=
    Integer.written_ofInt (p.1.typedSample h).natAbs_value_lt
  rw [sampleLine, hlabels, SampleText.written, hvalue]
  simp only [String.toList_append, TypedSample.toList_format, List.append_assoc]
  rfl

/-- The head of a family and values as a section of the grammar, where the names allow for it. -/
def sectionText (name : String) (spec : Spec) (xs : List (LabelSet × Int)) (hname : IsOneWord name)
    (hunit : IsOneWord spec.unit) (hrange : ∀ p ∈ xs, inRange spec.type p.2 = true)
    (hnamed : xs ≠ [] → isMetricName (sampleName name spec.type).toList = true) : SectionText where
  family := name
  help := some (Escape.help spec.help.toList)
  type := spec.type
  units := if spec.unit = "" then [] else [some spec.unit.toList]
  samples := xs.pmap (fun p h => (p.1.typedSample h).text) hrange
  family_plain := ⟨fun h => (hname _ h).1 rfl, fun h => (hname _ h).2 rfl⟩
  help_newline t ht := Option.some.inj ht ▸ Escape.newline_not_mem_help _
  help_escaped t ht := Option.some.inj ht ▸ ⟨_, Escape.escaped_help _⟩
  units_newline u hu t ht := by
    by_cases he : spec.unit = ""
    · simp [he] at hu
    · rw [if_neg he, List.mem_singleton] at hu
      obtain rfl := Option.some.inj (hu.symm.trans ht)
      exact fun h => (hunit _ h).2 rfl
  units_blank := by by_cases he : spec.unit = "" <;> simp [he]
  named h := hnamed (by simpa using h)
  nonneg ht x hx := by
    obtain ⟨p, hp, rfl⟩ := List.mem_pmap.1 hx
    rw [TypedSample.value_text]
    exact TypedSample.nonneg _ ht

variable {name : String} {spec : Spec} {xs : List (LabelSet × Int)}

theorem lines_sectionText (hname : IsOneWord name) (hunit : IsOneWord spec.unit)
    (hrange : ∀ p ∈ xs, inRange spec.type p.2 = true)
    (hnamed : xs ≠ [] → isMetricName (sampleName name spec.type).toList = true) :
    (sectionText name spec xs hname hunit hrange hnamed).lines = (familyLines name spec xs).map String.toList := by
  have hsamples : (xs.pmap (fun p h => (p.1.typedSample h).text) hrange).map
      (SampleText.written (sampleName name spec.type)) = (xs.map (sampleLine name spec.type)).map String.toList := by
    rw [List.map_pmap, List.map_map, ← List.pmap_eq_map hrange]
    exact List.pmap_congr_left xs fun p _ h _ => (toList_sampleLine name h).symm
  have hhead : (sectionText name spec xs hname hunit hrange hnamed).head =
      (familyLines name spec []).map String.toList := by
    by_cases hu : spec.unit = ""
    · simp [SectionText.head, sectionText, familyLines, headLine, hu, Escape.helpText]
    · simp [SectionText.head, sectionText, familyLines, headLine, hu, Escape.helpText]
  rw [familyLines_eq_append, List.map_append, ← hhead, ← hsamples]
  rfl

theorem contents_sectionText (hname : IsOneWord name) (hunit : IsOneWord spec.unit)
    (hrange : ∀ p ∈ xs, inRange spec.type p.2 = true)
    (hnamed : xs ≠ [] → isMetricName (sampleName name spec.type).toList = true) :
    (sectionText name spec xs hname hunit hrange hnamed).samples.map
        (fun x => (name, spec.type, x.pairs, x.value.value)) =
      xs.map fun p => (name, spec.type, p.1.texts, p.2) := by
  have hsample : ∀ (p : LabelSet × Int) (h : inRange spec.type p.2 = true),
      (name, spec.type, (p.1.typedSample h).text.pairs, (p.1.typedSample h).text.value.value) =
        (name, spec.type, p.1.texts, p.2) := by
    intro p h
    rw [TypedSample.pairs_text, TypedSample.value_text]
    rfl
  rw [sectionText, List.map_pmap, ← List.pmap_eq_map hrange]
  exact List.pmap_congr_left xs fun p _ h _ => hsample p h

theorem exists_toList_sampleLine (name : String) (t : MetricType) (p : LabelSet × Int) :
    ∃ rest, (sampleLine name t p).toList = (sampleName name t).toList ++ '\x7b' :: rest := by
  have hpairs : (p.1.pairs.map fun q => (q.1, Json.str q.2.display)).isEmpty = false := by
    cases p.1 <;> rfl
  rw [sampleLine, LabelText.format, hpairs, if_neg Bool.false_ne_true]
  simp only [String.toList_append, List.append_assoc]
  exact ⟨_, rfl⟩

theorem toList_ofLines (lines : List String) : (ofLines lines).toList = unlines (lines.map String.toList) := by
  induction lines with
  | nil => rfl
  | cons line lines ih => simp [ih]

namespace Family

variable {κ : Type} {f : Family κ}

/-- The family is exposed by a single word, which is a name of the format where there are values. -/
def IsReadable (f : Family κ) : Prop :=
  IsOneWord f.exposedName ∧
    (f.entries ≠ [] → isMetricName (sampleName f.exposedName f.spec.type).toList = true)

theorem isOneWord_unit (h : IsOneWord f.exposedName) : IsOneWord f.spec.unit :=
  ((forall_mem_exposedName_iff (by simp) f.baseName f.spec.unit f.spec.type).1 h).2

theorem entries_ne_nil (h : f.ints ≠ []) : f.entries ≠ [] := by
  obtain ⟨p, hp⟩ := List.exists_mem_of_ne_nil _ h
  exact List.ne_nil_of_mem (mem_ints.1 hp)

theorem ints_ne_nil (hf : f.Fits) (h : f.entries ≠ []) : f.ints ≠ [] := by
  obtain ⟨p, hp⟩ := List.exists_mem_of_ne_nil _ h
  obtain ⟨-, v, hv, -⟩ := hf p hp
  have hint : (p.1, v) ∈ f.ints := by
    rw [mem_ints, ← hv]
    exact hp
  exact List.ne_nil_of_mem hint

theorem exists_section (h : f.IsReadable) (hf : f.Fits) : ∃ sec : SectionText,
    sec.lines = f.lines.map String.toList ∧ (sec.family, sec.type) = (f.exposedName, f.spec.type) ∧
      (sec.samples.map fun x => (sec.family, sec.type, x.pairs, x.value.value)) =
        f.ints.map fun p => (f.exposedName, f.spec.type, p.1.texts, p.2) :=
  have hrange := fun _ hp => inRange_of_mem_ints hf hp
  have hnamed := fun hne => h.2 (entries_ne_nil hne)
  ⟨sectionText f.exposedName f.spec f.ints h.1 (isOneWord_unit h.1) hrange hnamed,
    lines_sectionText h.1 (isOneWord_unit h.1) hrange hnamed, rfl,
    contents_sectionText h.1 (isOneWord_unit h.1) hrange hnamed⟩

variable {n n' : Nat} {p p' : Progress} {rest : List Char}

theorem isOneWord_of_run (h : p.run n (cutLines (unlines (f.lines.map String.toList) ++ rest)).1 = (.ok (), n', p')) :
    IsOneWord f.exposedName := by
  obtain ⟨tail, htail⟩ : ∃ tail, unlines (f.lines.map String.toList) ++ rest =
      keywordLine "HELP" (f.exposedName.toList ++ ' ' :: Escape.help f.spec.help.toList) ++ '\n' ::
        (keywordLine "TYPE" (f.exposedName.toList ++ ' ' :: f.spec.type.name.toList) ++ '\n' :: tail) := by
    refine ⟨unlines (((if f.spec.unit = "" then [] else ["# UNIT " ++ f.exposedName ++ " " ++ f.spec.unit]) ++
      f.ints.map (sampleLine f.exposedName f.spec.type)).map String.toList) ++ rest, ?_⟩
    simp [lines, familyLines, keywordLine, Escape.helpText]
  rw [htail] at h
  have hhelp := Escape.newline_not_mem_help f.spec.help.toList
  have hnewline := newline_not_mem_of_run hhelp h
  have hspace := space_not_mem_of_run hhelp hnewline h
  exact fun c hc => ⟨fun e => hspace (e ▸ hc), fun e => hnewline (e ▸ hc)⟩

/-- The head of a family that is exposed by a single word is a section, so the line of a value after it is taken
only with a name of the format. -/
theorem isMetricName_of_run (hword : IsOneWord f.exposedName) (hf : f.Fits) (hints : f.ints ≠ [])
    (ha : ∀ family, p.stage ≠ .awaitingType family) (hc : p.stage ≠ .complete)
    (h : p.run n (cutLines (unlines (f.lines.map String.toList) ++ rest)).1 = (.ok (), n', p')) :
    isMetricName (sampleName f.exposedName f.spec.type).toList = true := by
  obtain ⟨x, xs, hx⟩ := List.exists_cons_of_ne_nil hints
  have hsample := (forall_mem_sampleName_iff (by simp) f.exposedName f.spec.type).2 hword
  let sec := sectionText f.exposedName f.spec [] hword (isOneWord_unit hword) (by simp) (by simp)
  have hsec : sec.lines = (familyLines f.exposedName f.spec []).map String.toList :=
    lines_sectionText hword (isOneWord_unit hword) (by simp) (by simp)
  have hlines : f.lines.map String.toList =
      sec.lines ++ [(sampleLine f.exposedName f.spec.type x).toList] ++
        (xs.map (sampleLine f.exposedName f.spec.type)).map String.toList := by
    rw [lines, hx, familyLines_eq_append, List.map_append, ← hsec, List.map_cons, List.map_cons,
      List.append_assoc, List.singleton_append]
  have hnewline : ∀ line ∈ sec.lines ++ [(sampleLine f.exposedName f.spec.type x).toList], '\n' ∉ line := by
    intro line hline
    rcases List.mem_append.1 hline with hline | hline
    · exact sec.newline_not_mem_lines line hline
    · have hrange : inRange f.spec.type x.2 = true := inRange_of_mem_ints hf (hx ▸ List.mem_cons_self)
      rw [List.mem_singleton.1 hline, toList_sampleLine _ hrange]
      exact SampleText.newline_not_mem_written (fun hmem => (hsample _ hmem).2 rfl) _
  rw [hlines, unlines_append, List.append_assoc, cutLines_unlines hnewline, List.append_assoc,
    Progress.run_section ha hc] at h
  obtain ⟨q, hq, -⟩ := Progress.exists_taken_of_run h
  obtain ⟨tail, htail⟩ := exists_toList_sampleLine f.exposedName f.spec.type x
  have hspace : ' ' ∉ (sampleName f.exposedName f.spec.type).toList := fun hmem => (hsample _ hmem).1 rfl
  rw [htail] at hq
  have hnamed := Progress.isMetricName_of_taken rfl hspace hq
  exact hnamed

theorem isReadable_of_run (hf : f.Fits) (ha : ∀ family, p.stage ≠ .awaitingType family) (hc : p.stage ≠ .complete)
    (h : p.run n (cutLines (unlines (f.lines.map String.toList) ++ rest)).1 = (.ok (), n', p')) :
    f.IsReadable :=
  have hword := isOneWord_of_run h
  ⟨hword, fun hentries => isMetricName_of_run hword hf (ints_ne_nil hf hentries) ha hc h⟩

end Family

namespace Families

variable {κ : Type} {fs : Families κ}

theorem isReadable_of_run (hfits : ∀ f ∈ fs, f.Fits) {n n' : Nat} {p p' : Progress} {rest : List Char}
    (ha : ∀ family, p.stage ≠ .awaitingType family) (hc : p.stage ≠ .complete)
    (h : p.run n (cutLines (unlines ((fs.flatMap Family.lines).map String.toList) ++ rest)).1 = (.ok (), n', p')) :
    ∀ f ∈ fs, f.IsReadable := by
  induction fs generalizing n p with
  | nil => exact fun f hf => absurd hf List.not_mem_nil
  | cons f fs ih =>
    obtain ⟨hf, hfs⟩ := List.forall_mem_cons.1 hfits
    rw [List.flatMap_cons, List.map_append, unlines_append, List.append_assoc] at h
    have hreadable := Family.isReadable_of_run hf ha hc h
    obtain ⟨sec, hlines, -⟩ := Family.exists_section hreadable hf
    rw [← hlines, cutLines_unlines sec.newline_not_mem_lines, Progress.run_section ha hc] at h
    exact List.forall_mem_cons.2 ⟨hreadable, ih hfs (by simp) (by simp) h⟩

theorem exists_document (hfits : ∀ f ∈ fs, f.Fits) (h : ∀ f ∈ fs, f.IsReadable) : ∃ doc : Document,
    doc.body = (fs.flatMap Family.lines).map String.toList ∧
      (doc.map fun sec => (sec.family, sec.type)) = fs.map (fun f => (f.exposedName, f.spec.type)) ∧
      doc.read.map Sample.content =
        fs.flatMap fun f => f.ints.map fun p => (f.exposedName, f.spec.type, p.1.texts, p.2) := by
  simp only [Document.read, Document.contents_readFrom]
  induction fs with
  | nil => exact ⟨[], rfl, rfl, rfl⟩
  | cons f fs ih =>
    obtain ⟨hf, hfs⟩ := List.forall_mem_cons.1 hfits
    obtain ⟨hreadable, hrest⟩ := List.forall_mem_cons.1 h
    obtain ⟨sec, hlines, hnames, hcontents⟩ := Family.exists_section hreadable hf
    obtain ⟨doc, hbody, hnames', hcontents'⟩ := ih hfs hrest
    refine ⟨sec :: doc, ?_, ?_, ?_⟩
    · rw [List.flatMap_cons, List.map_append, ← hlines, ← hbody]
      rfl
    · rw [List.map_cons, List.map_cons, hnames, hnames']
    · rw [List.flatMap_cons, List.flatMap_cons, hcontents, hcontents']

end Families

namespace Registry

/-- The path stays, and every family has the base name that it was registered with. -/
def IsNamed (path : String) (r : Registry) : Prop :=
  r.path = path ∧ ∀ f ∈ r.families, f.baseName = baseName path f.kind.subject f.spec

variable {path : String} {r : Registry}

theorem isNamed_clear_iff (r : Registry) : r.clear.IsNamed path ↔ r.IsNamed path :=
  and_congr_right fun _ => List.forall_mem_map

theorem IsNamed.register (h : r.IsNamed path) (arg : KindArg) (entry : Registration) :
    (r.register arg entry).2.IsNamed path := by
  obtain ⟨hpath, hnames⟩ := h
  rcases r.register_cases arg entry with ⟨_, hsame⟩ | ⟨s, _, -, hsame⟩ | ⟨k, t, -, -, -, -, hnew⟩
  · rw [hsame]
    exact ⟨hpath, hnames⟩
  · rw [hsame]
    exact ⟨(r.path_withSubject s).trans hpath, by rwa [families_withSubject]⟩
  · rw [hnew]
    refine ⟨(r.path_withSubject _).trans hpath, fun f hf => ?_⟩
    rcases List.mem_append.1 hf with hf | hf
    · exact hnames f hf
    · rw [List.mem_singleton.1 hf, ← hpath]
      rfl

variable {c : ClientLibrary}

theorem IsNamed.registerWith (hc : c.IsDocumented) (h : r.IsNamed path ∧ r.IsTaken c) (arg : KindArg)
    (entry : Registration) :
    (r.registerWith c arg entry).2.IsNamed path ∧ (r.registerWith c arg entry).2.IsTaken c := by
  rcases registerWith_cases hc h.2 arg entry with ⟨k, t, text, -, -, hrefused⟩ | ⟨hsame, htaken⟩
  · rw [IsNamed, IsTaken, hrefused.path, hrefused.families]
    exact h
  · rw [hsame]
    exact ⟨h.1.register arg entry, htaken⟩

theorem isNamed_performAllWith (hc : c.IsDocumented) (path : String) (ops : List Operation) :
    ((empty path).performAllWith c ops).IsNamed path ∧ ((empty path).performAllWith c ops).IsTaken c :=
  performAllWith_induction (P := fun r => r.IsNamed path ∧ r.IsTaken c)
    (fun r => and_congr (isNamed_clear_iff r) (isTaken_clear_iff r))
    (fun _ arg entry h => IsNamed.registerWith hc h arg entry)
    ⟨⟨rfl, fun _ hf => absurd hf List.not_mem_nil⟩, fun _ hf => absurd hf List.not_mem_nil⟩ ops

theorem isNamed_performAll (path : String) (ops : List Operation) : ((empty path).performAll ops).IsNamed path := by
  rw [← performAllWith_unrestricted]
  exact (isNamed_performAllWith Exposition.ClientLibrary.isDocumented_unrestricted path ops).1

/-! ### Texts of registries -/

theorem toList_of_render {text : String} (hfits : ∀ f ∈ r.families, f.Fits) (h : r.render = .ok text) :
    text.toList = unlines ((r.families.flatMap Family.lines).map String.toList) ++ unlines ["# EOF".toList] := by
  rw [render_of_fits hfits] at h
  rw [← Except.ok.inj h, toList_ofLines, List.map_append, unlines_append]
  rfl

theorem exists_document_of_render {text : String} (hfits : ∀ f ∈ r.families, f.Fits) (h : r.render = .ok text)
    (hreadable : ∀ f ∈ r.families, f.IsReadable) : ∃ doc : Document, text.toList = doc.text ∧
      (doc.map fun sec => (sec.family, sec.type)) = r.families.map (fun f => (f.exposedName, f.spec.type)) ∧
      doc.read.map Sample.content =
        r.families.flatMap fun f => f.ints.map fun p => (f.exposedName, f.spec.type, p.1.texts, p.2) := by
  obtain ⟨doc, hbody, hnames, hcontents⟩ := Families.exists_document hfits hreadable
  refine ⟨doc, ?_, hnames, hcontents⟩
  rw [toList_of_render hfits h, ← hbody, Document.text, Document.lines, unlines_append]

theorem isReadable_of_close {text : String} (hfits : ∀ f ∈ r.families, f.Fits) (h : r.render = .ok text) {b : Bool}
    {d : Decoder} {samples : List Sample} (hfeed : Decoder.start.feed (.text text) = (.ok b, d))
    (hclose : d.close = .ok samples) : ∀ f ∈ r.families, f.IsReadable := by
  obtain ⟨-, lines, n, hcut, hrun⟩ := Decoder.feed_close_eq_ok_iff.1 ⟨d, hfeed, hclose⟩
  have hlines : (cutLines (unlines ((r.families.flatMap Family.lines).map String.toList) ++
      unlines ["# EOF".toList])).1 = lines := by
    rw [← toList_of_render hfits h, hcut]
  rw [← hlines] at hrun
  exact Families.isReadable_of_run hfits (by simp [Progress.start]) (by simp [Progress.start]) hrun

theorem IsNamed.isReadable_iff (h : r.IsNamed path) {f : Family Kind} (hf : f ∈ r.families) : f.IsReadable ↔
    (IsOneWord path ∧ IsOneWord f.spec.name ∧ IsOneWord f.spec.unit) ∧
      (f.entries ≠ [] → (path = "" ∨ isMetricName path.toList = true) ∧
        (∀ c ∈ f.spec.name.toList, isMetricChar c = true) ∧ ∀ c ∈ f.spec.unit.toList, isMetricChar c = true) := by
  rw [Family.IsReadable, Family.exposedName, h.2 f hf, isOneWord_exposedName_iff, isMetricName_exposedName_iff]

end Registry

/-- Whatever the client library lets be registered, and whatever values in range it is given, there is a text. It is
accepted exactly when path, names and units are single words, and where there are values the path is empty or a name
of the format and name and unit could go on as one. A text that is accepted is a document with a section for each
family in its turn, and what is read are the values, each in the section of its own family. -/
theorem accepts_render_iff {c : ClientLibrary} (hc : c.IsDocumented) {path : String} {ops : List Operation}
    {r : Registry} (hr : r = (Registry.empty path).performAllWith c ops) (hfits : ∀ f ∈ r.families, f.Fits) :
    ∃ text, r.renderWith c = .ok text ∧
      ((∃ b d samples, Decoder.start.feed (.text text) = (.ok b, d) ∧ d.close = .ok samples) ↔
        ∀ f ∈ r.families, (IsOneWord path ∧ IsOneWord f.spec.name ∧ IsOneWord f.spec.unit) ∧
          (f.entries ≠ [] → (path = "" ∨ isMetricName path.toList = true) ∧
            (∀ c ∈ f.spec.name.toList, isMetricChar c = true) ∧
            ∀ c ∈ f.spec.unit.toList, isMetricChar c = true)) ∧
      ∀ b d samples, Decoder.start.feed (.text text) = (.ok b, d) → d.close = .ok samples →
        ∃ doc : Document, text.toList = doc.text ∧ samples = doc.read ∧
          (doc.map fun sec => (sec.family, sec.type)) = r.families.map (fun f => (f.exposedName, f.spec.type)) ∧
          samples.map Sample.content =
            r.families.flatMap fun f => f.ints.map fun p => (f.exposedName, f.spec.type, p.1.texts, p.2) := by
  obtain ⟨hnamed, htaken⟩ : r.IsNamed path ∧ r.IsTaken c := by
    rw [hr]
    exact Registry.isNamed_performAllWith hc path ops
  rw [htaken.renderWith_eq]
  have hrender := Registry.render_of_fits hfits
  refine ⟨_, hrender, ⟨?_, fun h => ?_⟩, fun b d samples hfeed hclose => ?_⟩
  · rintro ⟨b, d, samples, hfeed, hclose⟩ f hf
    exact (hnamed.isReadable_iff hf).1 (Registry.isReadable_of_close hfits hrender hfeed hclose f hf)
  · obtain ⟨doc, htext, -⟩ := Registry.exists_document_of_render hfits hrender
      fun f hf => (hnamed.isReadable_iff hf).2 (h f hf)
    obtain ⟨d, hfeed, hclose⟩ := Decoder.reads_iff.2 ⟨rfl, doc, htext, rfl⟩
    exact ⟨true, d, doc.read, hfeed, hclose⟩
  · obtain ⟨doc, htext, hnames, hcontents⟩ := Registry.exists_document_of_render hfits hrender
      (Registry.isReadable_of_close hfits hrender hfeed hclose)
    obtain ⟨d', hfeed', hclose'⟩ := Decoder.reads_iff.2 ⟨rfl, doc, htext, rfl⟩
    rw [hfeed] at hfeed'
    obtain ⟨-, rfl⟩ := Prod.mk.inj hfeed'
    obtain rfl := Except.ok.inj (hclose.symm.trans hclose')
    exact ⟨doc, htext, rfl, hnames, hcontents⟩

/-- The runs of programs are registered as a counter under a name, and a program has run four times. -/
def runsNamed (name : String) : List Operation :=
  [.register (.kind (.prog .runCount)) ⟨.str "counter", name, "h", ""⟩,
    .update (.kind (.prog .runCount)) (.prog ⟨7, "kprobe", "foo", 0⟩) (.int 4)]

theorem register_runsNamed (name : String) :
    (Registry.empty "bpf").register (.kind (.prog .runCount)) ⟨.str "counter", name, "h", ""⟩ =
      (.ok (), ⟨"bpf", [.prog], [⟨.prog .runCount, ⟨name, "h", "", .counter⟩, "bpf_prog" ++ "_" ++ name, []⟩]⟩) :=
  Registry.register_of_free rfl rfl fun _ _ => List.not_mem_nil

theorem performAll_runsNamed (name : String) : (Registry.empty "bpf").performAll (runsNamed name) =
    ⟨"bpf", [.prog], [⟨.prog .runCount, ⟨name, "h", "", .counter⟩, "bpf_prog" ++ "_" ++ name,
      [(.prog ⟨7, "kprobe", "foo", 0⟩, .int 4)]⟩]⟩ := by
  rw [runsNamed, Registry.performAll, List.foldl_cons, Registry.perform, register_runsNamed]
  rfl

theorem fits_runsNamed (name : String) :
    ∀ f ∈ ((Registry.empty "bpf").performAll (runsNamed name)).families, f.Fits := by
  simp only [performAll_runsNamed, List.forall_mem_singleton, Family.Fits]
  exact ⟨by decide +kernel, 4, rfl, rfl⟩

/-- A library that takes names of the format alone takes this one. -/
theorem performAllWith_strict_run_time : (Registry.empty "bpf").performAllWith .strict (runsNamed "run_time") =
    (Registry.empty "bpf").performAll (runsNamed "run_time") := by
  have hempty : (Registry.empty "bpf").IsTaken .strict := fun _ hf => absurd hf List.not_mem_nil
  have hnew : (Registry.empty "bpf").TakesNew .strict (.kind (.prog .runCount))
      ⟨.str "counter", "run_time", "h", ""⟩ := by
    rintro k t hk ht
    cases hk
    cases ht
    exact ClientLibrary.isDocumented_strict.takes (by decide +kernel)
  have hregister := hempty.registerWith_eq ClientLibrary.isDocumented_strict hnew
  rw [runsNamed, Registry.performAllWith, List.foldl_cons, Registry.performWith, hregister]
  rfl

/-- The values under a name of letters and a line are read back. -/
theorem accepts_render_run_time : ∃ text d samples,
    ((Registry.empty "bpf").performAllWith .strict (runsNamed "run_time")).renderWith .strict = .ok text ∧
      Decoder.start.feed (.text text) = (.ok true, d) ∧ d.close = .ok samples ∧
      samples.map Sample.content = [("bpf_prog_run_time", .counter,
        [("id", "7"), ("program_type", "kprobe"), ("name", "foo"), ("tag", "0")], 4)] := by
  obtain ⟨text, hrender, haccepts, hread⟩ := accepts_render_iff ClientLibrary.isDocumented_strict
    performAllWith_strict_run_time.symm (fits_runsNamed "run_time")
  have hnames : ∀ f ∈ ((Registry.empty "bpf").performAll (runsNamed "run_time")).families,
      (IsOneWord "bpf" ∧ IsOneWord f.spec.name ∧ IsOneWord f.spec.unit) ∧
        (f.entries ≠ [] → ("bpf" = "" ∨ isMetricName "bpf".toList = true) ∧
          (∀ c ∈ f.spec.name.toList, isMetricChar c = true) ∧
          ∀ c ∈ f.spec.unit.toList, isMetricChar c = true) := by
    rw [performAll_runsNamed]
    intro f hf
    obtain rfl := List.mem_singleton.1 hf
    refine ⟨⟨by simp [IsOneWord], by simp [IsOneWord], by simp [IsOneWord]⟩, fun _ => ⟨.inr rfl, ?_, by simp⟩⟩
    exact List.all_eq_true.1 (by decide)
  obtain ⟨b, d, samples, hfeed, hclose⟩ := haccepts.2 hnames
  obtain ⟨doc, -, -, -, hcontents⟩ := hread b d samples hfeed hclose
  obtain ⟨rfl, -⟩ := Decoder.feed_close_eq_ok_iff.1 ⟨d, hfeed, hclose⟩
  rw [performAll_runsNamed, List.flatMap_singleton, Family.ints, Family.items_mk_singleton] at hcontents
  rw [performAllWith_strict_run_time]
  exact ⟨text, d, samples, hrender, hfeed, hclose, hcontents⟩

def linesOfTwoWords : List String :=
  ["# HELP bpf_prog_run time h", "# TYPE bpf_prog_run time counter",
    "bpf_prog_run time_total\x7bid=\"7\",program_type=\"kprobe\",name=\"foo\",tag=\"0\"\x7d 4", "# EOF"]

theorem render_twoWords : ((Registry.empty "bpf").performAll (runsNamed "run time")).render =
    .ok (ofLines linesOfTwoWords) := by
  rw [Registry.render_of_fits (fits_runsNamed _), performAll_runsNamed, List.flatMap_singleton, Family.lines,
    Family.ints, Family.items_mk_singleton]
  rfl

/-- A name with a space is registered and given a value, and the text is refused for its type. -/
theorem feed_render_run_space :
    ((Registry.empty "bpf").register (.kind (.prog .runCount)) ⟨.str "counter", "run time", "h", ""⟩).1 = .ok () ∧
      (∀ f ∈ ((Registry.empty "bpf").performAll (runsNamed "run time")).families, f.Fits) ∧
      ∃ text, ((Registry.empty "bpf").performAll (runsNamed "run time")).render = .ok text ∧
        (Decoder.start.feed (.text text)).1 = .error (.parse 2 (.unsupportedType "time counter")) := by
  refine ⟨by rw [register_runsNamed], fits_runsNamed _, _, render_twoWords, ?_⟩
  have hcut : cutLines (Decoder.start.buffer ++ (ofLines linesOfTwoWords).toList) =
      (linesOfTwoWords.map String.toList, []) := by
    rw [Decoder.start, List.nil_append, toList_ofLines, cutLines_eq_iff]
    exact ⟨rfl, by simp [linesOfTwoWords]⟩
  have hhelp : Progress.start.take 1 "# HELP bpf_prog_run time h".toList =
      (.ok (), ⟨.awaitingType "bpf_prog_run", []⟩) := rfl
  have htype : Progress.take ⟨.awaitingType "bpf_prog_run", []⟩ 2 "# TYPE bpf_prog_run time counter".toList =
      (.error (.malformed (.unsupportedType "time counter")), ⟨.awaitingType "bpf_prog_run", []⟩) := rfl
  have hrun : Decoder.start.progress.run Decoder.start.lineNumber (linesOfTwoWords.map String.toList) =
      (.error (.parse 2 (.unsupportedType "time counter")), 2, ⟨.awaitingType "bpf_prog_run", []⟩) := by
    rw [linesOfTwoWords, List.map_cons, List.map_cons, Decoder.start, Progress.run_of_ok (by decide) hhelp,
      Progress.run_of_error (by decide) htype]
    rfl
  rw [Decoder.feed, Decoder.feedChars_eq_run, hcut, hrun]

end BpfExporter
