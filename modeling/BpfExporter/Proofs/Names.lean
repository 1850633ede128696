import BpfExporter.Exposition.Fold
import BpfExporter.Proofs.Writing
import BpfExporter.Registry

/-! The names of the fixed table. What stands in front of a long enough name has no say in its unit and its
type, so a family of the table is exposed as the path and a fixed tail. The tails of the table lay claim to
distinct names, and the tails of program kinds are the names that records are read by. -/
namespace BpfExporter

open Exposition.Grammar (isMetricName isMetricName_append)

namespace Exposition

theorem endsWith_append {base ending : String} (h : ending.length ≤ base.length) (path : String) :
    endsWith (path ++ base) ending = endsWith base ending := by
  have hsuffix : base.toList <:+ path.toList ++ base.toList := List.suffix_append _ _
  have hlength : ending.toList.length ≤ base.toList.length := by
    rw [String.length_toList, String.length_toList]
    exact h
  rw [Bool.eq_iff_iff]
  simp only [endsWith, String.toList_append, List.isSuffixOf_iff_suffix]
  constructor
  · intro he
    exact List.suffix_of_suffix_length_le he hsuffix hlength
  · intro he
    exact he.trans hsuffix

theorem withUnit_append {base unit : String} (h : unit.length < base.length) (path : String) :
    withUnit (path ++ base) unit = path ++ withUnit base unit := by
  have hlength : ("_" ++ unit).length ≤ base.length := by
    have : "_".length = 1 := rfl
    rw [String.length_append]
    omega
  rw [withUnit, withUnit, endsWith_append hlength]
  by_cases hc : (unit.isEmpty || endsWith base ("_" ++ unit)) = true
  · rw [if_pos hc, if_pos hc]
  · rw [if_neg hc, if_neg hc]
    simp only [String.append_assoc]

theorem dropTotal_append {base : String} (h : 6 ≤ base.length) (path : String) :
    dropTotal (path ++ base) = path ++ dropTotal base := by
  have hlength : "_total".length ≤ base.length := h
  rw [dropTotal, dropTotal, endsWith_append hlength]
  by_cases hc : endsWith base "_total" = true
  · have htake : (path ++ base).length - 6 = path.toList.length + (base.length - 6) := by
      rw [String.length_append, String.length_toList]
      omega
    rw [if_pos hc, if_pos hc, htake, String.toList_append, List.take_length_add_append,
      String.ofList_append, String.ofList_toList]
  · rw [if_neg hc, if_neg hc]

end Exposition

namespace Kind

/-- What stands after the path in the name of a family, as long as unit and type have had no say. -/
def stem (k : Kind) : String := "_" ++ k.subject.name ++ "_" ++ k.spec.name

/-- What stands after the path in the exposed name of a family. -/
def tail (k : Kind) : String := Exposition.exposedName k.stem k.spec.unit k.spec.type

def family (path : String) (k : Kind) : Family Kind :=
  Family.make (path ++ "_" ++ k.subject.name) k k.spec

def table : List Kind := all .prog ++ all .map ++ all .link

theorem mem_table (k : Kind) : k ∈ table := by
  have := k.mem_all
  cases hk : k.subject <;> rw [hk] at this <;> simp [table, this]

theorem exposedName_append {base : String} (h : 6 ≤ base.length) {unit : String} {t : MetricType}
    (hunit : unit.length < base.length) (hdropped : unit.length < (Exposition.dropTotal base).length)
    (path : String) :
    Exposition.exposedName (path ++ base) unit t = path ++ Exposition.exposedName base unit t := by
  cases t with
  | counter =>
    rw [Exposition.exposedName, Exposition.dropTotal_append h, Exposition.withUnit_append hdropped]
    rfl
  | gauge =>
    rw [Exposition.exposedName, Exposition.withUnit_append hunit]
    rfl

theorem length_stem : ∀ k ∈ table, 6 ≤ k.stem.length ∧ k.spec.unit.length < k.stem.length ∧
    k.spec.unit.length < (Exposition.dropTotal k.stem).length := by
  decide +kernel

theorem exposedName_family (path : String) (k : Kind) : (k.family path).exposedName = path ++ k.tail := by
  obtain ⟨h, hunit, hdropped⟩ := length_stem k k.mem_table
  have hbase : path ++ "_" ++ k.subject.name ++ "_" ++ k.spec.name = path ++ k.stem := by
    simp only [stem, String.append_assoc]
  have hname := exposedName_append h hunit hdropped (t := k.spec.type) path
  rw [← hbase] at hname
  exact hname

theorem claimedNames_append (path name : String) (t : MetricType) :
    Exposition.claimedNames (path ++ name) t = (Exposition.claimedNames name t).map (path ++ ·) := by
  cases t <;> simp [Exposition.claimedNames, String.append_assoc]

theorem claimedNames_tail_disjoint :
    ∀ k ∈ table, ∀ k' ∈ table, k ≠ k' → ∀ n ∈ Exposition.claimedNames k.tail k.spec.type,
      n ∉ Exposition.claimedNames k'.tail k'.spec.type := by
  decide +kernel

theorem claimedNames_family_disjoint (path : String) {k k' : Kind} (h : k ≠ k') {n : String}
    (hn : n ∈ (k.family path).claimedNames) : n ∉ (k'.family path).claimedNames := by
  have hclaimed : ∀ k : Kind, (k.family path).claimedNames =
      (Exposition.claimedNames k.tail k.spec.type).map (path ++ ·) := by
    intro k
    rw [← claimedNames_append, ← exposedName_family]
    rfl
  rw [hclaimed] at hn ⊢
  obtain ⟨m, hm, rfl⟩ := List.mem_map.1 hn
  intro hn'
  obtain ⟨m', hm', he⟩ := List.mem_map.1 hn'
  have hsame : m' = m := by
    apply String.toList_inj.1
    have := congrArg String.toList he
    simpa using this
  rw [hsame] at hm'
  exact claimedNames_tail_disjoint k k.mem_table k' k'.mem_table h m hm hm'

theorem isMetricChar_tail : ∀ k ∈ table,
    k.tail.toList.all (fun c => c.isAlphanum || c == '_' || c == ':') = true := by
  decide +kernel

theorem isMetricName_tail (k : Kind) : isMetricName k.tail.toList = true := by
  have htable : ∀ k ∈ table, isMetricName k.tail.toList = true := by decide +kernel
  exact htable k k.mem_table

theorem isMetricName_exposedName {path : String} (h : isMetricName path.toList = true) (k : Kind) :
    isMetricName (k.family path).exposedName.toList = true := by
  rw [exposedName_family, String.toList_append]
  exact isMetricName_append h (isMetricChar_tail k k.mem_table)

end Kind

namespace ProgMetric

def field : ProgMetric → ProgramRecord.Field
  | .sizeJitted => .sizeJitted
  | .sizeTranslated => .sizeTranslated
  | .uptime => .uptime
  | .runTime => .runTime
  | .runCount => .runCount
  | .verifiedInstructions => .verifiedInstructions
  | .memoryLocked => .memoryLocked

end ProgMetric

namespace Exposition

end Exposition

end BpfExporter
