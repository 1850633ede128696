import BpfExporter.Proofs.LineReading
import BpfExporter.Proofs.Operations

/-! What exposed names are made of. A family is exposed by a path, its subject, its name and its unit, and none of
them is looked at when it is registered. So what holds of each character of the exposed name holds of each of
theirs, and the name is one of the format when each of them can stand where it stands. -/
namespace BpfExporter

namespace Exposition

open Grammar

/-- What a name of a metric may begin with, and what may follow. -/
def isMetricStart (c : Char) : Bool := c.isAlpha || c == '_' || c == ':'

def isMetricChar (c : Char) : Bool := c.isAlphanum || c == '_' || c == ':'

theorem isMetricName_iff {cs : List Char} :
    isMetricName cs = true ↔ (∃ c ∈ cs.head?, isMetricStart c = true) ∧ ∀ c ∈ cs, isMetricChar c = true := by
  cases cs with
  | nil => simp [isMetricName, isWord]
  | cons c cs =>
    have hchar : isMetricStart c = true → isMetricChar c = true := SampleLine.isMetricChar_of_isMetricStart c
    have hname : isMetricName (c :: cs) = (isMetricStart c && cs.all isMetricChar) := rfl
    rw [hname, Bool.and_eq_true, List.all_eq_true]
    simp only [List.head?_cons, Option.mem_def, Option.some.injEq, exists_eq_left', List.forall_mem_cons]
    exact ⟨fun h => ⟨h.1, hchar h.1, h.2⟩, fun h => ⟨h.1, h.2.2⟩⟩

/-! ### Units and totals -/

theorem head?_toList_append {s : String} (h : s ≠ "") (t : String) :
    (s ++ t).toList.head? = s.toList.head? := by
  rw [String.toList_append]
  cases hs : s.toList with
  | nil => exact absurd (String.toList_eq_nil_iff.1 hs) h
  | cons c cs => rfl

theorem exists_withUnit_eq (base unit : String) : ∃ tail, withUnit base unit = base ++ tail := by
  unfold withUnit
  split
  · exact ⟨"", String.append_empty.symm⟩
  · exact ⟨"_" ++ unit, String.append_assoc⟩

theorem dropTotal_append_total {base : String} (h : endsWith base "_total" = true) :
    dropTotal base ++ "_total" = base := by
  obtain ⟨front, hfront⟩ := List.isSuffixOf_iff_suffix.1 h
  have hlength : base.length - 6 = front.length := by
    have htotal := congrArg List.length hfront
    have hsix : "_total".toList.length = 6 := rfl
    rw [List.length_append, hsix, String.length_toList] at htotal
    omega
  rw [← String.toList_inj, dropTotal, if_pos h, hlength, ← hfront, List.take_left, String.toList_append,
    String.toList_ofList]

theorem exists_eq_dropTotal (base : String) :
    ∃ tail, (tail = "" ∨ tail = "_total") ∧ base = dropTotal base ++ tail := by
  by_cases h : endsWith base "_total" = true
  · exact ⟨"_total", .inr rfl, (dropTotal_append_total h).symm⟩
  · exact ⟨"", .inl rfl, by rw [dropTotal, if_neg h, String.append_empty]⟩

variable {q : Char → Prop}

theorem forall_mem_withUnit_iff (hq : q '_') (base unit : String) :
    (∀ c ∈ (withUnit base unit).toList, q c) ↔ (∀ c ∈ base.toList, q c) ∧ ∀ c ∈ unit.toList, q c := by
  unfold withUnit
  split
  · next h =>
    have hunit : ∀ c ∈ unit.toList, c ∈ base.toList := by
      rcases Bool.or_eq_true_iff.1 h with he | hends
      · simp [String.isEmpty_iff.1 he]
      · intro c hc
        exact (List.isSuffixOf_iff_suffix.1 hends).subset (by simp [hc])
    exact ⟨fun h => ⟨h, fun c hc => h c (hunit c hc)⟩, And.left⟩
  · simp [String.toList_append, or_imp, forall_and, hq]

theorem forall_mem_dropTotal_iff (hq : ∀ c ∈ "_total".toList, q c) (base : String) :
    (∀ c ∈ (dropTotal base).toList, q c) ↔ ∀ c ∈ base.toList, q c := by
  obtain ⟨tail, htail, hbase⟩ := exists_eq_dropTotal base
  have hq' : ∀ c ∈ tail.toList, q c := by
    rcases htail with rfl | rfl
    · simp
    · exact hq
  have happend : base.toList = (dropTotal base).toList ++ tail.toList := by
    rw [← String.toList_append, ← hbase]
  rw [happend, List.forall_mem_append]
  exact ⟨fun h => ⟨h, hq'⟩, And.left⟩

/-- What the characters of an exposed name are like, those of its base name and its unit are like. -/
theorem forall_mem_exposedName_iff (hq : ∀ c ∈ "_total".toList, q c) (base unit : String) (t : MetricType) :
    (∀ c ∈ (exposedName base unit t).toList, q c) ↔
      (∀ c ∈ base.toList, q c) ∧ ∀ c ∈ unit.toList, q c := by
  have hline : q '_' := hq '_' (by simp)
  cases t with
  | counter => rw [exposedName, forall_mem_withUnit_iff hline, forall_mem_dropTotal_iff hq]
  | gauge => rw [exposedName, forall_mem_withUnit_iff hline]

theorem forall_mem_sampleName_iff (hq : ∀ c ∈ "_total".toList, q c) (name : String) (t : MetricType) :
    (∀ c ∈ (sampleName name t).toList, q c) ↔ ∀ c ∈ name.toList, q c := by
  cases t with
  | counter =>
    rw [sampleName, String.toList_append, List.forall_mem_append]
    exact ⟨And.left, fun h => ⟨h, hq⟩⟩
  | gauge => rfl

/-- The first character of a base name that is more than `_total` is the first of the name of the samples. -/
theorem head?_sampleName_exposedName {base : String} (hempty : base ≠ "") (htotal : base ≠ "_total")
    (unit : String) (t : MetricType) :
    (sampleName (exposedName base unit t) t).toList.head? = base.toList.head? := by
  cases t with
  | gauge =>
    obtain ⟨tail, htail⟩ := exists_withUnit_eq base unit
    rw [sampleName, exposedName, htail, head?_toList_append hempty]
  | counter =>
    obtain ⟨tail, htail⟩ := exists_withUnit_eq (dropTotal base) unit
    obtain ⟨dropped, hdropped, hbase⟩ := exists_eq_dropTotal base
    have hfront : dropTotal base ≠ "" := by
      intro hnone
      rw [hnone, String.empty_append] at hbase
      exact hdropped.elim (fun h => hempty (hbase.trans h)) fun h => htotal (hbase.trans h)
    have hhead : base.toList.head? = (dropTotal base).toList.head? := by
      rw [← head?_toList_append hfront dropped, ← hbase]
    rw [sampleName, exposedName, htail, String.append_assoc, head?_toList_append hfront, hhead]

end Exposition

open Exposition
open Exposition.Grammar (isMetricName)

/-! ### Names of families -/

/-- The text has neither a space nor an end of line. -/
def IsOneWord (s : String) : Prop := ∀ c ∈ s.toList, c ≠ ' ' ∧ c ≠ '\n'

/-- The base name of a family that is registered under a path. -/
def baseName (path : String) (s : Subject) (spec : Spec) : String := path ++ "_" ++ s.name ++ "_" ++ spec.name

variable {q : Char → Prop}

theorem forall_mem_baseName_iff (hq : ∀ s : Subject, ∀ c ∈ ("_" ++ s.name ++ "_").toList, q c) (path : String)
    (s : Subject) (spec : Spec) :
    (∀ c ∈ (baseName path s spec).toList, q c) ↔ (∀ c ∈ path.toList, q c) ∧ ∀ c ∈ spec.name.toList, q c := by
  have happend : baseName path s spec = path ++ (("_" ++ s.name ++ "_") ++ spec.name) := by
    simp only [baseName, String.append_assoc]
  rw [happend, String.toList_append, String.toList_append, List.forall_mem_append, List.forall_mem_append]
  exact ⟨fun h => ⟨h.1, h.2.2⟩, fun h => ⟨h.1, hq s, h.2⟩⟩

theorem isOneWord_exposedName_iff (path : String) (s : Subject) (spec : Spec) :
    IsOneWord (exposedName (baseName path s spec) spec.unit spec.type) ↔
      IsOneWord path ∧ IsOneWord spec.name ∧ IsOneWord spec.unit := by
  rw [IsOneWord, forall_mem_exposedName_iff (by simp), forall_mem_baseName_iff, and_assoc]
  · rfl
  · intro s
    cases s <;> simp [Subject.name]

/-- An exposed name can stand before values when the path is empty or a name of the format, and name and unit go on
as one. -/
theorem isMetricName_exposedName_iff (path : String) (s : Subject) (spec : Spec) :
    isMetricName (sampleName (exposedName (baseName path s spec) spec.unit spec.type) spec.type).toList = true ↔
      (path = "" ∨ isMetricName path.toList = true) ∧ (∀ c ∈ spec.name.toList, isMetricChar c = true) ∧
        ∀ c ∈ spec.unit.toList, isMetricChar c = true := by
  -- Of the two lines in a base name only one could be that of a `_total`.
  have hlines : 2 ≤ (baseName path s spec).toList.count '_' := by
    simp [baseName, String.toList_append, List.count_append]
    omega
  have htotal : baseName path s spec ≠ "_total" := by
    intro h
    rw [h] at hlines
    exact absurd hlines (by decide)
  have hempty : baseName path s spec ≠ "" := by
    intro h
    rw [h] at hlines
    exact absurd hlines (by decide)
  have hchars : ∀ s : Subject, ∀ c ∈ ("_" ++ s.name ++ "_").toList, isMetricChar c = true := by
    intro s
    cases s <;> exact List.all_eq_true.1 (by decide)
  have htail : ∀ c ∈ "_total".toList, isMetricChar c = true := List.all_eq_true.1 (by decide)
  rw [isMetricName_iff, head?_sampleName_exposedName hempty htotal, forall_mem_sampleName_iff htail,
    forall_mem_exposedName_iff htail, forall_mem_baseName_iff hchars]
  by_cases hpath : path = ""
  · subst hpath
    have hhead : (baseName "" s spec).toList.head? = some '_' := by
      rw [baseName, String.empty_append, String.append_assoc, String.append_assoc,
        head?_toList_append (by decide)]
      rfl
    simp [hhead, isMetricStart]
  · have hhead : (baseName path s spec).toList.head? = path.toList.head? := by
      rw [baseName, String.append_assoc, String.append_assoc, String.append_assoc, head?_toList_append hpath]
    rw [hhead, isMetricName_iff]
    simp only [hpath, false_or, and_assoc]

end BpfExporter
