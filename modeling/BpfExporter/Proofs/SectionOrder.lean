import BpfExporter.Proofs.Placement
import BpfExporter.Proofs.WholeText
import BpfExporter.Proofs.Writing

/-! Documents with their sections in another order. The samples of a section go with it and say the same on
other lines. What samples make of the record of an id does not depend on their order where they agree on the
labels that it is named by and no two of them write one field of it. -/
namespace BpfExporter.Exposition

open Grammar (Document)

variable {path : String}

theorem belowPath?_eq_some_iff {name rest : String} :
    belowPath? path name = some rest ↔ name = path ++ "_" ++ rest := by
  simp only [belowPath?]
  constructor
  · intro h
    split at h
    · next hbelow =>
      obtain ⟨cs, hcs⟩ := List.isPrefixOf_iff_prefix.1 hbelow
      rw [← hcs, List.drop_left] at h
      rw [← Option.some.inj h, ← String.toList_inj, String.toList_append, String.toList_ofList, hcs]
    · cases h
  · rintro rfl
    have hbelow : (path ++ "_").toList.isPrefixOf (path ++ "_" ++ rest).toList = true := by
      rw [List.isPrefixOf_iff_prefix, String.toList_append (s := path ++ "_")]
      exact List.prefix_append _ _
    rw [if_pos hbelow, String.toList_append (s := path ++ "_"), List.drop_left, String.ofList_toList]

namespace Sample

theorem family_eq_of_field? {s t : Sample} {f : ProgramRecord.Field} (hs : s.field? path = some f)
    (ht : t.field? path = some f) : s.family = t.family := by
  obtain ⟨a, ha, hfa⟩ := Option.bind_eq_some_iff.1 hs
  obtain ⟨b, hb, hfb⟩ := Option.bind_eq_some_iff.1 ht
  rw [belowPath?_eq_some_iff.1 ha, belowPath?_eq_some_iff.1 hb, ProgramRecord.fieldOf?_inj hfa hfb]

def ofContent (c : String × MetricType × List (String × String) × Int) : Sample :=
  ⟨c.1, c.2.1, c.2.2.1, c.2.2.2, 0⟩

theorem id_ofContent (s : Sample) (n : Nat) : (ofContent s.content).id = .ok n ↔ s.id = .ok n := by
  rw [id_eq_ok_iff, id_eq_ok_iff]
  rfl

theorem write_ofContent (id : Int) (r? : Option ProgramRecord) (s : Sample) :
    (ofContent s.content).write path id r? = s.write path id r? := by
  have hfield : (ofContent s.content).field? path = s.field? path := rfl
  unfold write
  rw [hfield]
  cases hid : s.id with
  | ok n =>
    rw [(id_ofContent s n).2 hid]
    rfl
  | error e =>
    cases hid' : (ofContent s.content).id with
    | ok n => simp [(id_ofContent s n).1 hid'] at hid
    | error e' => cases s.field? path <;> rfl

/-- The sample is of a known family and has the id. -/
def WritesTo (path : String) (id : Int) (s : Sample) : Prop :=
  s.IsKnown path ∧ ∃ n : Nat, s.id = .ok n ∧ (n : Int) = id

theorem write_of_not_writesTo {s : Sample} {id : Int} (h : ¬s.WritesTo path id)
    (r? : Option ProgramRecord) : s.write path id r? = r? := by
  unfold write
  split
  · next f n hf hn => exact if_neg fun hid => h ⟨Option.isSome_of_eq_some hf, n, hn, hid⟩
  · rfl

theorem write_of_field? {s : Sample} {f : ProgramRecord.Field} {n : Nat} (hf : s.field? path = some f)
    (hn : s.id = .ok n) (r? : Option ProgramRecord) :
    s.write path n r? = some ((r?.getD (s.newRecord n)).set s.value f) := by
  simp [write, hf, hn]

/-- Both samples are of known families and of one id. -/
def SameProgram (path : String) (s t : Sample) : Prop :=
  s.IsKnown path ∧ t.IsKnown path ∧ ∃ n, s.id = .ok n ∧ t.id = .ok n

theorem write_comm {s t : Sample}
    (hlabels : s.SameProgram path t →
      s.label "program_type" = t.label "program_type" ∧ s.label "name" = t.label "name")
    (honce : s.SameProgram path t → s.family = t.family → s = t) (id : Int) (r? : Option ProgramRecord) :
    t.write path id (s.write path id r?) = s.write path id (t.write path id r?) := by
  by_cases hs : s.WritesTo path id
  · by_cases ht : t.WritesTo path id
    · obtain ⟨hsknown, n, hn, rfl⟩ := hs
      obtain ⟨htknown, m, hm, hmn⟩ := ht
      obtain rfl : m = n := by omega
      have hsame : s.SameProgram path t := ⟨hsknown, htknown, m, hn, hm⟩
      obtain ⟨f, hf⟩ := Option.isSome_iff_exists.1 hsknown
      obtain ⟨g, hg⟩ := Option.isSome_iff_exists.1 htknown
      -- In one field they would be one sample; in two, each begins the record that the other would.
      by_cases hfg : f = g
      · subst hfg
        rw [honce hsame (family_eq_of_field? hf hg)]
      · have hnew : s.newRecord m = t.newRecord m := by
          rw [newRecord, newRecord, (hlabels hsame).1, (hlabels hsame).2]
        simp [write_of_field? hf hn, write_of_field? hg hm, hnew, ProgramRecord.set_set_comm _ _ _ hfg]
    · rw [write_of_not_writesTo ht, write_of_not_writesTo ht]
  · rw [write_of_not_writesTo hs, write_of_not_writesTo hs]

end Sample

/-- Samples of one program agree on its type and its name, and no two of them are of one family. -/
structure Consistent (path : String) (samples : List Sample) : Prop where
  labels : ∀ s ∈ samples, ∀ t ∈ samples, s.SameProgram path t →
    s.label "program_type" = t.label "program_type" ∧ s.label "name" = t.label "name"
  once : ∀ s ∈ samples, ∀ t ∈ samples, s.SameProgram path t → s.family = t.family → s = t

section Reordered

variable {samples samples' : List Sample} (hconsistent : Consistent path samples)
  (hperm : (samples.map Sample.content).Perm (samples'.map Sample.content))

include hperm

theorem mem_of_contents_perm {s : Sample} (h : s ∈ samples') : ∃ t ∈ samples, t.content = s.content :=
  List.mem_map.1 (hperm.mem_iff.2 (List.mem_map_of_mem h))

include hconsistent

theorem foldl_write_perm (id : Int) (r? : Option ProgramRecord) :
    samples.foldl (Sample.write path id) r? = samples'.foldl (Sample.write path id) r? := by
  -- The samples themselves are not permuted, as they come to stand on other lines; what they say is.
  have hcontents : ∀ ss : List Sample, ss.foldl (Sample.write path id) r? =
      (ss.map Sample.content).foldl (fun r? c => (Sample.ofContent c).write path id r?) r? := by
    intro ss
    rw [List.foldl_map]
    simp only [Sample.write_ofContent]
  rw [hcontents, hcontents]
  apply hperm.foldl_eq'
  intro c hc c' hc' r?
  obtain ⟨s, hs, rfl⟩ := List.mem_map.1 hc
  obtain ⟨t, ht, rfl⟩ := List.mem_map.1 hc'
  simp only [Sample.write_ofContent]
  exact Sample.write_comm (hconsistent.labels s hs t ht) (hconsistent.once s hs t ht) id r?

/-- Samples that say the same in another order are folded into the same records. -/
theorem foldPrograms_perm {previous₀ records₀ : Records}
    (hfold : foldPrograms path previous₀ samples = .ok records₀) (previous : Records) :
    ∃ records, foldPrograms path previous samples = .ok records ∧
      foldPrograms path previous samples' = .ok records := by
  obtain ⟨gathered, hgather, -⟩ := foldPrograms_eq_ok_iff.1 hfold
  have hids := exists_gather_iff.1 ⟨gathered, hgather⟩
  have hids' : ∀ s ∈ samples', s.IsKnown path → ∃ n, s.id = .ok n := by
    intro s hs hknown
    obtain ⟨t, ht, hcontent⟩ := mem_of_contents_perm hperm hs
    have hfamily : t.family = s.family := congrArg Prod.fst hcontent
    have hknown' : t.IsKnown path := by
      rw [Sample.IsKnown, Sample.field?, hfamily]
      exact hknown
    obtain ⟨n, hn⟩ := hids t ht hknown'
    rw [← Sample.id_ofContent, hcontent, Sample.id_ofContent] at hn
    exact ⟨n, hn⟩
  obtain ⟨gathered', hgather'⟩ := exists_gather_iff.2 hids'
  have hread : ∀ id, Assoc.get? id gathered = Assoc.get? id gathered' := by
    intro id
    rw [get?_gather hgather, get?_gather hgather', foldl_write_perm hconsistent hperm]
  have hordered : ordered gathered = ordered gathered' :=
    ordered_eq_of_get?_eq (nodup_keys_gather hgather List.nodup_nil)
      (nodup_keys_gather hgather' List.nodup_nil) hread
  refine ⟨withBaseline previous (ordered gathered), ?_, ?_⟩
  · exact foldPrograms_eq_ok_iff.2 ⟨gathered, hgather, rfl⟩
  · exact foldPrograms_eq_ok_iff.2 ⟨gathered', hgather', by rw [hordered]⟩

end Reordered

theorem contents_read_perm {doc doc' : Document} (h : doc.Perm doc') :
    (doc.read.map Sample.content).Perm (doc'.read.map Sample.content) := by
  rw [Document.read, Document.read, Document.contents_readFrom, Document.contents_readFrom]
  exact h.flatMap_right _

/-- Sections in any order are decoded into the same records. -/
theorem decode_sections_perm {doc doc' : Document} (hperm : doc.Perm doc') {c c' : Chunk}
    (hspells : c.Spells doc.text) (hspells' : c'.Spells doc'.text) {previous₀ records₀ : Records}
    (hdecode : decode c path previous₀ = .ok records₀) (hconsistent : Consistent path doc.read)
    (previous : Records) :
    ∃ records, decode c path previous = .ok records ∧ decode c' path previous = .ok records := by
  rw [decode_of_spells hspells] at hdecode
  rw [decode_of_spells hspells, decode_of_spells hspells']
  exact foldPrograms_perm hconsistent (contents_read_perm hperm) hdecode previous

theorem isMetricName_runCount :
    Grammar.isMetricName "bpf_prog_execution_count".toList = true := by
  decide

/-- The run time of the program 7. -/
def runTimeOfSeven : TypedMetric := .counter _ TypedMetric.isMetricName_runTime "7" "p" 5

/-- The run count of the program 7. -/
def runCountOfSeven : TypedMetric := .counter _ isMetricName_runCount "7" "p" 2

/-- The record of the program 7, whose baseline is itself where there was no scrape before. -/
def recordOfSeven : ProgramRecord :=
  { id := 7, bpfType := "", name := "p", runTime := 5, prevRunTime := 5, runCount := 2, prevRunCount := 2 }

/-- Two counters of one program, either of them first. -/
theorem decode_counters_swapped :
    decode (.text (String.ofList (TypedMetric.document [runTimeOfSeven, runCountOfSeven]).text))
        "bpf_prog" [] = .ok [(7, recordOfSeven)] ∧
      decode (.text (String.ofList (TypedMetric.document [runCountOfSeven, runTimeOfSeven]).text))
        "bpf_prog" [] = .ok [(7, recordOfSeven)] := by
  have hread : (TypedMetric.document [runTimeOfSeven, runCountOfSeven]).read =
      [⟨"bpf_prog_run_time_nanoseconds", .counter, [("id", "7"), ("name", "p")], 5, 3⟩,
        ⟨"bpf_prog_execution_count", .counter, [("id", "7"), ("name", "p")], 2, 6⟩] := by
    decide +kernel
  have hconsistent : Consistent "bpf_prog"
      (TypedMetric.document [runTimeOfSeven, runCountOfSeven]).read := by
    rw [hread]
    constructor
    · simp [Sample.label]
    · simp
  have hfold : foldPrograms "bpf_prog" [] (TypedMetric.document [runTimeOfSeven, runCountOfSeven]).read =
      .ok [(7, recordOfSeven)] := by
    have hgather : gather "bpf_prog" [] (TypedMetric.document [runTimeOfSeven, runCountOfSeven]).read =
        .ok [(7, { recordOfSeven with prevRunTime := 0, prevRunCount := 0 })] := by
      rw [hread]
      rfl
    rw [foldPrograms, hgather, Except.map, List.mergeSort_singleton]
    rfl
  have hspells := Chunk.spells_ofList (TypedMetric.document [runTimeOfSeven, runCountOfSeven]).text
  have hspells' := Chunk.spells_ofList (TypedMetric.document [runCountOfSeven, runTimeOfSeven]).text
  have hdecode := (decode_of_spells hspells []).trans hfold
  obtain ⟨records, hrecords, hswapped⟩ :=
    decode_sections_perm (.swap _ _ _) hspells hspells' hdecode hconsistent []
  rw [hdecode] at hrecords
  rw [← hrecords] at hswapped
  exact ⟨hdecode, hswapped⟩

end BpfExporter.Exposition
