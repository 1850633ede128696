import BpfExporter.Collection
import BpfExporter.Proofs.ExposedNames
import BpfExporter.Proofs.FamilyText
import BpfExporter.Proofs.Names

/-! The name that a family gives itself, beside the one that it is shown by. Its own name has the unit, and misses
that a counter drops one `_total` of its base name first. The two are the same for gauges and for most counters; a
counter with a base name that ends so has another name of its own, but where its unit puts the ending back. -/
namespace BpfExporter

open Exposition

namespace Exposition

theorem withUnit_empty (name : String) : withUnit name "" = name := rfl

theorem withUnit_of_ne {unit : String} (h : unit ≠ "") (name : String) :
    withUnit name unit = if endsWith name ("_" ++ unit) = true then name else name ++ "_" ++ unit := by
  have hunit : unit.isEmpty = false := by simpa using h
  rw [withUnit, hunit, Bool.false_or]

theorem endsWith_append_self (name ending : String) : endsWith (name ++ ending) ending = true := by
  rw [endsWith, List.isSuffixOf_iff_suffix, String.toList_append]
  exact List.suffix_append _ _

/-- With a unit a name and the name that `_total` follows are the same only where the unit is that ending. -/
theorem withUnit_append_total_iff (name unit : String) :
    withUnit (name ++ "_total") unit = withUnit name unit ↔ unit = "total" ∧ endsWith name "_total" = false := by
  have hlonger : ∀ {a b : String}, b.length < a.length → a ≠ b := fun h he =>
    Nat.ne_of_gt h (congrArg String.length he)
  have hsix : "_total".length = 6 := rfl
  have hjoin : "_total" = "_" ++ "total" := rfl
  by_cases hempty : unit = ""
  · subst hempty
    refine iff_of_false (hlonger ?_) (fun h => absurd h.1 (by decide))
    rw [withUnit_empty, withUnit_empty, String.length_append]
    omega
  rw [withUnit_of_ne hempty, withUnit_of_ne hempty]
  by_cases hshort : endsWith name ("_" ++ unit) = true
  · rw [if_pos hshort]
    refine iff_of_false (hlonger ?_) ?_
    · split <;> simp only [String.length_append] <;> omega
    · rintro ⟨rfl, hends⟩
      exact absurd (hshort.symm.trans hends) (by decide)
  by_cases hlong : endsWith (name ++ "_total") ("_" ++ unit) = true
  · rw [if_neg hshort, if_pos hlong, String.append_assoc, String.append_right_inj]
    constructor
    · intro he
      rw [hjoin, String.append_right_inj] at he
      subst he
      exact ⟨rfl, Bool.not_eq_true _ ▸ hshort⟩
    · rintro ⟨rfl, -⟩
      rfl
  · rw [if_neg hshort, if_neg hlong]
    refine iff_of_false (hlonger ?_) ?_
    · simp only [String.length_append]
      omega
    · rintro ⟨rfl, -⟩
      exact hlong (endsWith_append_self name "_total")

theorem withUnit_eq_empty_iff {name unit : String} : withUnit name unit = "" ↔ name = "" ∧ unit = "" := by
  by_cases hempty : unit = ""
  · subst hempty
    rw [withUnit_empty, eq_self, and_true]
  · obtain ⟨tail, htail⟩ := exists_withUnit_eq name unit
    refine iff_of_false (fun h => ?_) (fun h => hempty h.2)
    obtain ⟨rfl, -⟩ := String.append_eq_empty_iff.1 (htail.symm.trans h)
    rw [withUnit_of_ne hempty] at h
    split at h
    · next hends => simp [endsWith] at hends
    · simp [hempty] at h

theorem dropTotal_eq_empty_iff {base : String} : dropTotal base = "" ↔ base = "" ∨ base = "_total" := by
  constructor
  · intro h
    obtain ⟨tail, htail, hbase⟩ := exists_eq_dropTotal base
    rw [h, String.empty_append] at hbase
    rwa [hbase]
  · rintro (rfl | rfl) <;> decide

end Exposition

namespace Family

variable {κ : Type}

/-- The name of its own that a family has is not the one that it is shown by. -/
def IsMisnamed (f : Family κ) : Prop :=
  f.spec.type = .counter ∧ endsWith f.baseName "_total" = true ∧
    (f.spec.unit = "total" → endsWith (dropTotal f.baseName) "_total" = true)

theorem name_eq_exposedName_iff_not_isMisnamed (f : Family κ) : f.name = f.exposedName ↔ ¬f.IsMisnamed := by
  rw [name, exposedName, IsMisnamed]
  cases f.spec.type with
  | gauge => exact iff_of_true rfl (by simp)
  | counter =>
    rw [Exposition.exposedName]
    by_cases hends : endsWith f.baseName "_total" = true
    · have hiff := withUnit_append_total_iff (dropTotal f.baseName) f.spec.unit
      rw [dropTotal_append_total hends] at hiff
      rw [hiff]
      simp [hends]
    · have hdrop : dropTotal f.baseName = f.baseName := by rw [dropTotal, if_neg hends]
      rw [hdrop]
      exact iff_of_true rfl (by simp [hends])

/-- Only a counter can lack a name, by one that is dropped as a whole. -/
theorem exposedName_eq_empty_iff (f : Family κ) : f.exposedName = "" ↔
    f.spec.unit = "" ∧ (f.baseName = "" ∨ f.spec.type = .counter ∧ f.baseName = "_total") := by
  rw [exposedName]
  cases f.spec.type with
  | gauge => simp [Exposition.exposedName, withUnit_eq_empty_iff, and_comm]
  | counter => simp [Exposition.exposedName, withUnit_eq_empty_iff, dropTotal_eq_empty_iff, and_comm]

/-- Both metrics of a family have one name, on the lines of the head as well, and the samples have it with `_total`
for a counter and as it is for a gauge. It is the name of the family's own unless the family is a counter that is
misnamed, and the metrics are shown unless the name is empty. -/
theorem metric_name_eq_iff (f : Family κ) :
    (f.metric.name = f.name ↔ ¬f.IsMisnamed) ∧ f.describe.name = f.metric.name ∧
      (∀ s ∈ f.metric.samples, s.name = f.metric.name ++ if f.spec.type = .counter then "_total" else "") ∧
      encodeHead f.metric = ofLines (familyLines f.metric.name f.spec []) ∧
      ∀ m ∈ [f.describe, f.metric], Collection.shown f (.ok m) = .ok m ↔
        ¬(f.spec.unit = "" ∧ (f.baseName = "" ∨ f.spec.type = .counter ∧ f.baseName = "_total")) := by
  refine ⟨?_, rfl, fun s hs => ?_, f.encodeHead_describe, fun m hm => ?_⟩
  · rw [← name_eq_exposedName_iff_not_isMisnamed]
    exact eq_comm
  · obtain ⟨item, -, rfl⟩ := List.mem_map.1 hs
    rw [sample]
    cases f.spec.type with
    | counter => rfl
    | gauge => exact String.append_empty.symm
  · rw [← exposedName_eq_empty_iff, Collection.shown]
    by_cases hempty : f.exposedName = "" <;> simp [hempty]

end Family

/-- No kind of the fixed table is misnamed, whatever the path. -/
theorem Kind.name_family (path : String) (k : Kind) : (k.family path).name = (k.family path).exposedName := by
  have htable : ∀ k ∈ table, endsWith k.stem "_total" = false := by decide +kernel
  have hlength : "_total".length ≤ k.stem.length := (length_stem k k.mem_table).1
  have hbase : (k.family path).baseName = path ++ k.stem := by
    simp only [family, Family.make, stem, String.append_assoc]
  rw [Family.name_eq_exposedName_iff_not_isMisnamed]
  rintro ⟨-, hends, -⟩
  rw [hbase, endsWith_append hlength, htable k k.mem_table] at hends
  cases hends

/-- A counter of a base name that ends with `_total`. -/
theorem Collection.register_misnamed : ∃ f c, (empty .prog "bpf_prog").register (.kind (.prog .runTime))
      ⟨.str "counter", "run_total", "h", ""⟩ = .ok (f, c) ∧
    f.name = "bpf_prog_run_total" ∧ f.describe.name = "bpf_prog_run" ∧ f.metric.name = "bpf_prog_run" :=
  ⟨_, _, rfl, by decide, by decide, by decide⟩

end BpfExporter
