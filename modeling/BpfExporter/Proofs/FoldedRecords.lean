import Mathlib.Data.List.Induction
import BpfExporter.Proofs.DeltaRun
import BpfExporter.Proofs.SectionOrder

/-! The records that samples are folded into, read off the samples alone. The first sample of a program names it, the
last one of each of its families gives the field, and samples of other families count for nothing. -/
namespace BpfExporter

namespace ProgramRecord

/-- The name of the family of a field under the path of a program's families. -/
def Field.name : Field → String
  | .runTime => "run_time_nanoseconds"
  | .runCount => "execution_count"
  | .uptime => "uptime_nanoseconds"
  | .memoryLocked => "memory_locked_bytes"
  | .sizeJitted => "size_jitted_bytes"
  | .sizeTranslated => "size_translated_bytes"
  | .verifiedInstructions => "verified_instruction_count"

theorem fieldOf?_eq_some_iff {name : String} {f : Field} : fieldOf? name = some f ↔ name = f.name := by
  constructor
  · intro h
    unfold fieldOf? at h
    split at h <;> cases h <;> rfl
  · rintro rfl
    cases f <;> rfl

@[simp] theorem get_carryOver (r : ProgramRecord) (previous : Option ProgramRecord) (f : Field) :
    (r.carryOver previous).get f = r.get f := by
  unfold carryOver; split <;> cases f <;> rfl

@[simp] theorem bpfType_set (r : ProgramRecord) (v : Int) (f : Field) : (r.set v f).bpfType = r.bpfType := by
  cases f <;> rfl

@[simp] theorem name_set (r : ProgramRecord) (v : Int) (f : Field) : (r.set v f).name = r.name := by
  cases f <;> rfl

end ProgramRecord

namespace Exposition

open ProgramRecord (Field)

/-- The family under a path whose samples give a field. -/
def familyOf (path : String) (f : Field) : String := path ++ "_" ++ f.name

namespace Sample

variable {path : String} {s : Sample} {id : Int} {f : Field}

theorem field?_eq_some_iff : s.field? path = some f ↔ s.family = familyOf path f := by
  rw [field?, Option.bind_eq_some_iff]
  simp only [belowPath?_eq_some_iff, ProgramRecord.fieldOf?_eq_some_iff]
  constructor
  · rintro ⟨name, hname, rfl⟩
    exact hname
  · intro hfamily
    exact ⟨f.name, hfamily, rfl⟩

/-- The family of the sample is the one of a field. -/
def IsRelevant (path : String) (s : Sample) : Prop := ∃ f, s.family = familyOf path f

theorem isKnown_iff_isRelevant : s.IsKnown path ↔ s.IsRelevant path := by
  rw [IsKnown, Option.isSome_iff_exists]
  exact exists_congr fun f => field?_eq_some_iff

instance : Decidable (s.IsRelevant path) :=
  decidable_of_iff ((s.field? path).isSome = true) isKnown_iff_isRelevant

/-- The number that the id label of the sample is written as, with or without zeros in front. -/
def idValue (s : Sample) : Nat := Numeral.decimalValue (s.label "id").toList

/-- The id label of the sample is ASCII digits of a number of 32 bits. -/
def IsNumbered (s : Sample) : Prop := s.HasDigits ∧ s.idValue ≤ Snapshot.maxId

-- Looks at the characters of the label alone; the instance for a statement about characters may go through them all.
instance : Decidable s.HasDigits :=
  decidable_of_iff ((s.label "id").toList ≠ [] ∧ (s.label "id").toList.all Char.isDigit = true)
    (and_congr_right fun _ => List.all_eq_true)

instance : Decidable s.IsNumbered := inferInstanceAs (Decidable (_ ∧ _))

/-- The sample is of a field of the program with the id. -/
def IsOf (path : String) (id : Int) (s : Sample) : Prop :=
  s.IsRelevant path ∧ s.IsNumbered ∧ (s.idValue : Int) = id

instance : Decidable (s.IsOf path id) := inferInstanceAs (Decidable (_ ∧ _ ∧ _))

/-- The sample is of this field of the program with the id. -/
def Gives (path : String) (id : Int) (f : Field) (s : Sample) : Prop :=
  s.family = familyOf path f ∧ s.IsOf path id

instance : Decidable (s.Gives path id f) := inferInstanceAs (Decidable (_ ∧ _))

section Short

variable (hshort : (s.label "id").length ≤ Numeral.maxDigits)

include hshort

theorem id_eq : s.id = if s.IsNumbered then .ok s.idValue else .error (.parse s.line (.idLabel s.family)) := by
  by_cases hdigits : s.HasDigits
  · have hread : Numeral.readNat (s.label "id").toList = .ok s.idValue := by
      rw [Numeral.readNat, if_pos (by rwa [String.length_toList]), idValue]
    rw [id_of_readNat_ok hdigits hread]
    by_cases hbound : s.idValue ≤ Snapshot.maxId
    · have hnumbered : s.IsNumbered := ⟨hdigits, hbound⟩
      rw [if_pos hnumbered, if_neg (Nat.not_lt.2 hbound)]
    · have hnumbered : ¬s.IsNumbered := fun h => hbound h.2
      rw [if_neg hnumbered, if_pos (Nat.not_le.1 hbound)]
  · have hnumbered : ¬s.IsNumbered := fun h => hdigits h.1
    rw [id_of_not_hasDigits hdigits, if_neg hnumbered]

theorem exists_id_iff : (∃ n, s.id = .ok n) ↔ s.IsNumbered := by
  rw [id_eq hshort]
  split <;> simp_all

theorem writesTo_iff_isOf : s.WritesTo path id ↔ s.IsOf path id := by
  rw [WritesTo, IsOf, isKnown_iff_isRelevant, id_eq hshort]
  split <;> simp_all

/-- A sample of a program gives a field of its record, which it begins where there is none. -/
theorem write_of_isOf (h : s.IsOf path id) (r? : Option ProgramRecord) :
    ∃ f, s.family = familyOf path f ∧
      s.write path id r? = some ((r?.getD (s.newRecord s.idValue)).set s.value f) := by
  obtain ⟨⟨f, hf⟩, hnumbered, rfl⟩ := h
  have hid : s.id = .ok s.idValue := by rw [id_eq hshort, if_pos hnumbered]
  exact ⟨f, hf, write_of_field? (field?_eq_some_iff.2 hf) hid r?⟩

theorem write_of_not_isOf (h : ¬s.IsOf path id) (r? : Option ProgramRecord) : s.write path id r? = r? :=
  write_of_not_writesTo (fun hwrites => h ((writesTo_iff_isOf hshort).1 hwrites)) r?

end Short

end Sample

variable {path : String} {id : Int}

/-- The value of the last sample that gives the field, 0 where none does. -/
def lastGiven (path : String) (id : Int) (f : Field) (samples : List Sample) : Int :=
  ((samples.reverse.find? fun s => s.Gives path id f).map Sample.value).getD 0

@[simp] theorem lastGiven_concat (f : Field) (samples : List Sample) (s : Sample) :
    lastGiven path id f (samples ++ [s]) =
      if s.Gives path id f then s.value else lastGiven path id f samples := by
  rw [lastGiven, List.reverse_concat, List.find?_cons]
  by_cases h : s.Gives path id f
  · simp [h]
  · simp [h, lastGiven]

theorem lastGiven_of_not_isOf {samples : List Sample} (h : ∀ s ∈ samples, ¬s.IsOf path id) (f : Field) :
    lastGiven path id f samples = 0 := by
  have hnone : samples.reverse.find? (fun s => s.Gives path id f) = none := by
    rw [List.find?_eq_none]
    intro s hs hgives
    exact h s (List.mem_reverse.1 hs) (of_decide_eq_true hgives).2
  rw [lastGiven, hnone]
  rfl

/-- The record of a program with the id that samples tell of: its type and name come from the first of them, each of
its fields from the last that gives it. -/
structure IsRecordOf (path : String) (samples : List Sample) (id : Int) (r : ProgramRecord) : Prop where
  id_eq : r.id = id
  named : ∃ s, samples.find? (fun s => s.IsOf path id) = some s ∧
    r.bpfType = s.label "program_type" ∧ r.name = s.label "name"
  get_eq : ∀ f, r.get f = lastGiven path id f samples

/-- What samples make of the record of an id: none where no sample is of a program with it. -/
inductive Recorded (path : String) (samples : List Sample) (id : Int) : Option ProgramRecord → Prop
  | absent (h : ∀ s ∈ samples, ¬s.IsOf path id) : Recorded path samples id none
  | present {r : ProgramRecord} (h : IsRecordOf path samples id r) : Recorded path samples id (some r)

namespace Recorded

variable {samples : List Sample} {s : Sample} {r? : Option ProgramRecord}

theorem concat_of_not_isOf (h : Recorded path samples id r?) (hs : ¬s.IsOf path id) :
    Recorded path (samples ++ [s]) id r? := by
  cases h with
  | absent h =>
    refine .absent fun t ht => ?_
    rcases List.mem_append.1 ht with ht | ht
    · exact h t ht
    · rw [List.mem_singleton.1 ht]
      exact hs
  | present h =>
    obtain ⟨hid, ⟨t, ht, hlabels⟩, hget⟩ := h
    refine .present ⟨hid, ⟨t, ?_, hlabels⟩, fun f => ?_⟩
    · rw [List.find?_append, ht, Option.some_or]
    · rw [hget, lastGiven_concat, if_neg fun hgives => hs hgives.2]

theorem get_set_eq_lastGiven {r : ProgramRecord} (h : ∀ g, r.get g = lastGiven path id g samples)
    (hs : s.IsOf path id) {f : Field} (hf : s.family = familyOf path f) (g : Field) :
    (r.set s.value f).get g = lastGiven path id g (samples ++ [s]) := by
  have hgives : s.Gives path id g ↔ f = g := by
    rw [Sample.Gives, ← Sample.field?_eq_some_iff, Sample.field?_eq_some_iff.2 hf, Option.some.injEq,
      and_iff_left hs]
  simp only [ProgramRecord.get_set, lastGiven_concat, hgives, h g]

theorem concat_of_isOf (h : Recorded path samples id r?) (hs : s.IsOf path id) {f : Field}
    (hf : s.family = familyOf path f) :
    IsRecordOf path (samples ++ [s]) id ((r?.getD (s.newRecord s.idValue)).set s.value f) := by
  cases h with
  | absent h =>
    -- the sample begins the record and names it
    have hnone : samples.find? (fun s => s.IsOf path id) = none :=
      List.find?_eq_none.2 fun t ht => by simpa using h t ht
    have hzero : ∀ g, (s.newRecord s.idValue).get g = lastGiven path id g samples := by
      intro g
      rw [lastGiven_of_not_isOf h]
      cases g <;> rfl
    refine ⟨?_, ⟨s, ?_, ?_, ?_⟩, get_set_eq_lastGiven hzero hs hf⟩
    · rw [Option.getD_none, ProgramRecord.id_set]
      exact hs.2.2
    · rw [List.find?_append, hnone, Option.none_or, List.find?_singleton, if_pos (decide_eq_true hs)]
    · rw [Option.getD_none, ProgramRecord.bpfType_set, Sample.newRecord]
    · rw [Option.getD_none, ProgramRecord.name_set, Sample.newRecord]
  | present h =>
    obtain ⟨hid, ⟨t, ht, htype, hname⟩, hget⟩ := h
    refine ⟨?_, ⟨t, ?_, ?_, ?_⟩, get_set_eq_lastGiven hget hs hf⟩
    · rw [Option.getD_some, ProgramRecord.id_set, hid]
    · rw [List.find?_append, ht, Option.some_or]
    · rw [Option.getD_some, ProgramRecord.bpfType_set, htype]
    · rw [Option.getD_some, ProgramRecord.name_set, hname]

theorem concat (h : Recorded path samples id r?) (hshort : (s.label "id").length ≤ Numeral.maxDigits) :
    Recorded path (samples ++ [s]) id (s.write path id r?) := by
  by_cases hs : s.IsOf path id
  · obtain ⟨f, hf, hwrite⟩ := Sample.write_of_isOf hshort hs r?
    rw [hwrite]
    exact .present (h.concat_of_isOf hs hf)
  · rw [Sample.write_of_not_isOf hshort hs]
    exact h.concat_of_not_isOf hs

theorem map_carryOver (h : Recorded path samples id r?) (previous : Option ProgramRecord) :
    Recorded path samples id (r?.map (·.carryOver previous)) := by
  cases h with
  | absent h => exact .absent h
  | present h =>
    obtain ⟨hid, ⟨s, hs, htype, hname⟩, hget⟩ := h
    refine .present ⟨?_, ⟨s, hs, ?_, ?_⟩, fun f => ?_⟩
    · rw [ProgramRecord.id_carryOver, hid]
    · rw [ProgramRecord.bpfType_carryOver, htype]
    · rw [ProgramRecord.name_carryOver, hname]
    · rw [ProgramRecord.get_carryOver, hget]

/-- There is a record exactly where a sample is of a program with the id. -/
theorem isSome_iff (h : Recorded path samples id r?) : r?.isSome ↔ ∃ s ∈ samples, s.IsOf path id := by
  cases h with
  | absent h =>
    constructor
    · intro hsome
      cases hsome
    · rintro ⟨s, hs, hof⟩
      exact absurd hof (h s hs)
  | present h =>
    obtain ⟨s, hs, -⟩ := h.named
    have hof := List.find?_some hs
    exact iff_of_true rfl ⟨s, List.mem_of_find?_eq_some hs, of_decide_eq_true hof⟩

end Recorded

theorem recorded_foldl_write {samples : List Sample}
    (hshort : ∀ s ∈ samples, (s.label "id").length ≤ Numeral.maxDigits) :
    Recorded path samples id (samples.foldl (Sample.write path id) none) := by
  induction samples using List.reverseRecOn with
  | nil => exact .absent (by simp)
  | append_singleton samples s ih =>
    rw [List.forall_mem_append, List.forall_mem_singleton] at hshort
    rw [List.foldl_append]
    exact (ih hshort.1).concat hshort.2

/-! ### Samples of other families -/

theorem foldSample_of_not_isRelevant {s : Sample} (h : ¬s.IsRelevant path) (records : Records) :
    foldSample path records s = .ok records := by
  have hnone : s.field? path = none :=
    Option.not_isSome_iff_eq_none.1 fun hknown => h (Sample.isKnown_iff_isRelevant.1 hknown)
  simp only [foldSample, hnone]

theorem gather_filter_isRelevant (samples : List Sample) (records : Records) :
    gather path records (samples.filter fun s => s.IsRelevant path) = gather path records samples := by
  induction samples generalizing records with
  | nil => rfl
  | cons s samples ih =>
    by_cases hs : s.IsRelevant path
    · rw [List.filter_cons, if_pos (decide_eq_true hs), gather, gather]
      cases foldSample path records s with
      | error e => rfl
      | ok records' => exact ih records'
    · rw [List.filter_cons, if_neg (by simpa using hs), gather, foldSample_of_not_isRelevant hs]
      exact ih records

theorem foldPrograms_filter_isRelevant (previous : Records) (samples : List Sample) :
    foldPrograms path previous (samples.filter fun s => s.IsRelevant path) =
      foldPrograms path previous samples := by
  rw [foldPrograms_eq, foldPrograms_eq, gather_filter_isRelevant]

/-! ### Samples with and without numbers -/

section Short

variable {samples : List Sample} (hshort : ∀ s ∈ samples, (s.label "id").length ≤ Numeral.maxDigits)

include hshort

theorem foldPrograms_of_not_isNumbered (previous : Records) {s : Sample}
    (h : samples.find? (fun s => s.IsRelevant path ∧ ¬s.IsNumbered) = some s) :
    foldPrograms path previous samples = .error (.parse s.line (.idLabel s.family)) := by
  obtain ⟨hs, before, after, rfl, hbefore⟩ := List.find?_eq_some_iff_append.1 h
  obtain ⟨hrelevant, hnumbered⟩ := of_decide_eq_true hs
  have hgather : gather path [] (before ++ s :: after) = .error (.parse s.line (.idLabel s.family)) := by
    refine gather_eq_error_iff.2 ⟨before, s, after, rfl, fun t ht hknown => ?_, ?_, ?_⟩
    · have htrelevant := Sample.isKnown_iff_isRelevant.1 hknown
      have htnumbered := hbefore t ht
      rw [Sample.exists_id_iff (hshort t (List.mem_append_left _ ht))]
      simpa [htrelevant] using htnumbered
    · exact Sample.isKnown_iff_isRelevant.2 hrelevant
    · rw [Sample.id_eq (hshort s (by simp)), if_neg hnumbered]
  rw [foldPrograms_eq, hgather]
  rfl

theorem exists_foldPrograms_of_isNumbered (previous : Records)
    (h : ∀ s ∈ samples, s.IsRelevant path → s.IsNumbered) :
    ∃ records, foldPrograms path previous samples = .ok records := by
  refine exists_foldPrograms_iff.2 fun s hs hknown => ?_
  exact (Sample.exists_id_iff (hshort s hs)).2 (h s hs (Sample.isKnown_iff_isRelevant.1 hknown))

/-- What is read at an id is what the samples make of its record. -/
theorem recorded_of_foldPrograms {previous records : Records}
    (h : foldPrograms path previous samples = .ok records) (id : Int) :
    Recorded path samples id (Assoc.get? id records) := by
  obtain ⟨gathered, hgather, rfl⟩ := foldPrograms_eq_ok_iff.1 h
  rw [get?_withBaseline, get?_ordered (nodup_keys_gather hgather List.nodup_nil), get?_gather hgather]
  exact (recorded_foldl_write hshort).map_carryOver _

end Short

/-- Of samples with short id labels: the fold is refused at the first sample of a field that has no number of 32 bits
for its id. Otherwise its records stand in the order of their ids, which are those of the samples of fields, and each
record is what the samples of its program tell. Other samples count for nothing. -/
theorem foldPrograms_spec {samples : List Sample}
    (hshort : ∀ s ∈ samples, (s.label "id").length ≤ Numeral.maxDigits) (previous : Records) (path : String) :
    (∀ s, samples.find? (fun s => s.IsRelevant path ∧ ¬s.IsNumbered) = some s →
        foldPrograms path previous samples = .error (.parse s.line (.idLabel s.family))) ∧
      ((∀ s ∈ samples, s.IsRelevant path → s.IsNumbered) →
        ∃ records, foldPrograms path previous samples = .ok records ∧
          (records.map Prod.fst).Pairwise (· < ·) ∧
          (∀ id, id ∈ records.map Prod.fst ↔ ∃ s ∈ samples, s.IsOf path id) ∧
          ∀ p ∈ records, IsRecordOf path samples p.1 p.2) ∧
      foldPrograms path previous (samples.filter fun s => s.IsRelevant path) =
        foldPrograms path previous samples := by
  refine ⟨fun s hs => foldPrograms_of_not_isNumbered hshort previous hs, fun hnumbered => ?_,
    foldPrograms_filter_isRelevant previous samples⟩
  obtain ⟨records, hfold⟩ := exists_foldPrograms_of_isNumbered hshort previous hnumbered
  have hrecorded := recorded_of_foldPrograms hshort hfold
  have hascending := keys_ascending_of_foldPrograms hfold
  refine ⟨records, hfold, hascending, fun id => ?_, fun p hp => ?_⟩
  · rw [← (hrecorded id).isSome_iff, Option.isSome_iff_ne_none, Ne, Assoc.get?_eq_none_iff, not_not]
  · have hread := (Assoc.mem_iff_get? (hascending.imp Int.ne_of_lt)).1 hp
    have hthis := hrecorded p.1
    rw [hread] at hthis
    cases hthis with
    | present h => exact h

/-- Two counts of the program 7, of which the first says 007, and what a map and a metric of no field say between
them. -/
def countsOfSeven : List Sample :=
  [⟨"bpf_prog_execution_count", .counter, [("id", "007"), ("name", "p")], 2, 3⟩,
    ⟨"bpf_map_memory_locked_bytes", .gauge, [("id", "9")], 8, 6⟩,
    ⟨"bpf_prog_cost", .gauge, [], 1, 9⟩,
    ⟨"bpf_prog_execution_count", .counter, [("id", "7"), ("name", "q")], 5, 10⟩]

/-- The two are of one program, which the first names and the second counts; with one more count that has no labels,
all are refused. -/
theorem foldPrograms_countsOfSeven :
    (∃ records, foldPrograms "bpf_prog" [] countsOfSeven = .ok records ∧ 7 ∈ records.map Prod.fst ∧
        ∀ p ∈ records, p.1 = 7 ∧ p.2.name = "p" ∧ p.2.runCount = 5) ∧
      foldPrograms "bpf_prog" [] (countsOfSeven ++ [⟨"bpf_prog_execution_count", .counter, [], 1, 11⟩]) =
        .error (.parse 11 (.idLabel "bpf_prog_execution_count")) := by
  constructor
  · have hshort : ∀ s ∈ countsOfSeven, (s.label "id").length ≤ Numeral.maxDigits := by decide +kernel
    obtain ⟨-, hnumbered, -⟩ := foldPrograms_spec hshort [] "bpf_prog"
    obtain ⟨records, hfold, -, hkeys, hrecords⟩ := hnumbered (by decide +kernel)
    refine ⟨records, hfold, (hkeys 7).2 (by decide +kernel), fun p hp => ?_⟩
    obtain ⟨s, hs, hof⟩ := (hkeys p.1).1 (List.mem_map_of_mem hp)
    have hseven : ∀ s ∈ countsOfSeven, s.IsRelevant "bpf_prog" → s.idValue = 7 := by decide +kernel
    have hid : p.1 = 7 := by
      rw [← hof.2.2, hseven s hs hof.1]
      rfl
    obtain ⟨-, ⟨t, ht, -, hname⟩, hget⟩ := hrecords p hp
    rw [hid] at ht hget
    have hfirst : countsOfSeven.find? (fun s => s.IsOf "bpf_prog" 7) = countsOfSeven.head? := by decide +kernel
    have hcount : lastGiven "bpf_prog" 7 .runCount countsOfSeven = 5 := by decide +kernel
    rw [hfirst] at ht
    obtain rfl := Option.some.inj ht
    exact ⟨hid, hname, (hget .runCount).trans hcount⟩
  · have hshort : ∀ s ∈ countsOfSeven ++ [⟨"bpf_prog_execution_count", .counter, [], 1, 11⟩],
        (s.label "id").length ≤ Numeral.maxDigits := by
      decide +kernel
    obtain ⟨hrefused, -⟩ := foldPrograms_spec hshort [] "bpf_prog"
    exact hrefused ⟨"bpf_prog_execution_count", .counter, [], 1, 11⟩ (by decide +kernel)

end Exposition

end BpfExporter
