import BpfExporter.Registry
import BpfExporter.Proofs.LabelOrder
import BpfExporter.Proofs.Writing

/-! The text of families. A registry has a text exactly when every value it holds is an integer with a place
in its family's type and no label has too many digits, and then each family has its head and a line for each of its
items. -/
namespace BpfExporter

/-- The integer that a value is. -/
def Json.int? : Json → Option Int
  | .int n => some n
  | _ => none

theorem Json.int?_eq_some_iff {v : Json} {n : Int} : v.int? = some n ↔ v = .int n := by
  cases v <;> simp [int?]

def LabelSet.numbers : LabelSet → List Int
  | .prog l => [l.id, l.tag]
  | .map l => [l.id]
  | .link l => [l.id, l.progId]

theorem LabelSet.isWritable_iff {l : LabelSet} :
    l.isWritable = true ↔ ∀ n ∈ l.numbers, n.natAbs < 10 ^ Numeral.maxDigits := by
  cases l <;> simp [isWritable, pairs, numbers, Numeral.isSome_write?_iff]

namespace Exposition

theorem exists_map_eq_ok_iff {ε α β : Type} {x : Except ε α} {f : α → β} :
    (∃ b, x.map f = .ok b) ↔ ∃ a, x = .ok a := by
  cases x <;> simp [Except.map]

def ofLines (lines : List String) : String := lines.foldr (fun line text => line ++ "\n" ++ text) ""

@[simp] theorem ofLines_nil : ofLines [] = "" := rfl

@[simp] theorem ofLines_cons (line : String) (lines : List String) :
    ofLines (line :: lines) = line ++ "\n" ++ ofLines lines := rfl

theorem ofLines_append (ls ms : List String) : ofLines (ls ++ ms) = ofLines ls ++ ofLines ms := by
  induction ls with
  | nil => simp
  | cons l ls ih => simp [ih, String.append_assoc]

/-- The value is an integer with a place in the samples of the type. -/
def Fits (t : MetricType) (v : Json) : Prop := ∃ n, v = .int n ∧ inRange t n = true

theorem exists_formatValue_iff {t : MetricType} {v : Json} :
    (∃ text, formatValue t.name v = .ok text) ↔ Fits t v := by
  cases v with
  | int n => by_cases h : inRange t n = true <;> simp [formatValue, Fits, h]
  | _ => simp [formatValue, Fits]

theorem formatLabels_of_isWritable {labels : List (String × Json)} (h : ∀ p ∈ labels, p.2.isWritable = true) :
    formatLabels labels = .ok (LabelText.format labels) := if_pos (List.all_eq_true.2 h)

theorem exists_encodeSample_iff {t : MetricType} {s : MetricSample} (hs : ∀ p ∈ s.labels, p.2.isWritable = true) :
    (∃ text, encodeSample t.name s = .ok text) ↔ Fits t s.value := by
  rw [encodeSample, formatLabels_of_isWritable hs]
  exact exists_map_eq_ok_iff.trans exists_formatValue_iff

theorem exists_encodeSamples_iff {t : MetricType} {ss : List MetricSample}
    (hss : ∀ s ∈ ss, ∀ p ∈ s.labels, p.2.isWritable = true) :
    (∃ text, encodeSamples t.name ss = .ok text) ↔ ∀ s ∈ ss, Fits t s.value := by
  induction ss with
  | nil => simp [encodeSamples]
  | cons s ss ih =>
    obtain ⟨hs, hrest⟩ := List.forall_mem_cons.1 hss
    rw [List.forall_mem_cons, ← exists_encodeSample_iff hs, ← ih hrest, encodeSamples]
    cases encodeSample t.name s with
    | error e => simp
    | ok line => simp [exists_map_eq_ok_iff]

theorem exists_encode_iff {ms : List (Except String Metric)} :
    (∃ text, encode ms = .ok text) ↔ ∀ x ∈ ms, ∃ m, x = .ok m ∧ ∃ text, encodeMetric m = .ok text := by
  induction ms with
  | nil => simp [encode]
  | cons x ms ih =>
    rw [List.forall_mem_cons, ← ih]
    cases x with
    | error reason => simp [encode]
    | ok m =>
      rw [encode]
      cases hm : encodeMetric m with
      | error e => simp [hm]
      | ok text => simp [hm, exists_map_eq_ok_iff]

end Exposition

open Exposition

namespace Family

variable {κ : Type} {f : Family κ}

/-- Every label can be shown, and every value has a place in the type of the family. -/
def Fits (f : Family κ) : Prop := ∀ p ∈ f.entries, p.1.isWritable = true ∧ Exposition.Fits f.spec.type p.2

theorem fits_items_iff :
    (∀ p ∈ f.items, p.1.isWritable = true ∧ Exposition.Fits f.spec.type p.2) ↔ f.Fits := by
  simp only [mem_items, Fits]

theorem collect_of_isWritable (h : ∀ p ∈ f.entries, p.1.isWritable = true) : f.collect = .ok f.metric :=
  if_pos (List.all_eq_true.2 fun p hp => h p (mem_items.1 hp))

theorem collect_of_fits (h : f.Fits) : f.collect = .ok f.metric := collect_of_isWritable fun p hp => (h p hp).1

theorem encodeMetric_eq (f : Family κ) : encodeMetric f.metric =
    (encodeSamples f.spec.type.name (f.items.map f.sample)).map (encodeHead f.describe ++ ·) := by
  have htype : (MetricType.ofName? f.metric.type).isNone = false := by simp [metric, describe]
  rw [encodeMetric, htype, if_neg Bool.false_ne_true]
  rfl

theorem isWritable_sample (f : Family κ) (item : LabelSet × Json) :
    ∀ p ∈ (f.sample item).labels, p.2.isWritable = true := by
  intro p hp
  obtain ⟨q, -, rfl⟩ := List.mem_map.1 hp
  exact Json.isWritable_str _

theorem exists_encodeMetric_iff :
    (∃ text, encodeMetric f.metric = .ok text) ↔ ∀ p ∈ f.items, Exposition.Fits f.spec.type p.2 := by
  rw [encodeMetric_eq, exists_map_eq_ok_iff,
    exists_encodeSamples_iff (List.forall_mem_map.2 fun item _ => f.isWritable_sample item), List.forall_mem_map]
  rfl

/-- A family is produced and written exactly when it fits. -/
theorem exists_collect_iff :
    (∃ m, f.collect = .ok m ∧ ∃ text, encodeMetric m = .ok text) ↔ f.Fits := by
  simp only [← fits_items_iff, imp_and, forall_and]
  rw [← exists_encodeMetric_iff, collect_eq, ← List.all_eq_true]
  by_cases hlabels : (f.items.all fun item => item.1.isWritable) = true
  · simp [hlabels]
  · simp [hlabels]

end Family

namespace Registry

/-- A registry has a text exactly when all its values have a place in their families and all its labels can be
shown. -/
theorem exists_render_iff {r : Registry} : (∃ text, r.render = .ok text) ↔ ∀ f ∈ r.families, f.Fits := by
  rw [render, renderWith, exists_encode_iff, List.forall_mem_map]
  exact forall₂_congr fun f _ => Family.exists_collect_iff

def metrics (r : Registry) : List Exposition.Metric := r.families.map Family.metric

theorem render_eq_encode {r : Registry} (h : ∀ f ∈ r.families, ∀ p ∈ f.entries, p.1.isWritable = true) :
    r.render = Exposition.encode (r.metrics.map .ok) := by
  rw [metrics, List.map_map]
  exact congrArg Exposition.encode (List.map_congr_left fun f hf => Family.collect_of_isWritable (h f hf))

theorem encode_metrics_of_render {r : Registry} {text : String} (h : r.render = .ok text) :
    Exposition.encode (r.metrics.map .ok) = .ok text := by
  have hfits := exists_render_iff.1 ⟨text, h⟩
  rw [← render_eq_encode fun f hf p hp => (hfits f hf p hp).1]
  exact h

end Registry

/-- The line of a value. -/
def sampleLine (name : String) (t : MetricType) (p : LabelSet × Int) : String :=
  sampleName name t ++ LabelText.format (p.1.pairs.map fun q => (q.1, .str q.2.display)) ++ " " ++
    toString p.2

/-- The lines of a family: its head and a line for each of its values. -/
def familyLines (name : String) (spec : Spec) (items : List (LabelSet × Int)) : List String :=
  ["# HELP " ++ name ++ " " ++ Escape.helpText spec.help, "# TYPE " ++ name ++ " " ++ spec.type.name] ++
    (if spec.unit = "" then [] else ["# UNIT " ++ name ++ " " ++ spec.unit]) ++
    items.map (sampleLine name spec.type)

theorem familyLines_eq_append (name : String) (spec : Spec) (items : List (LabelSet × Int)) :
    familyLines name spec items = familyLines name spec [] ++ items.map (sampleLine name spec.type) := by
  simp [familyLines]

namespace Family

variable {κ : Type} {f : Family κ}

/-- The integers that a family holds, in the order of their label sets. -/
def ints (f : Family κ) : List (LabelSet × Int) := f.items.filterMap fun p => p.2.int?.map fun n => (p.1, n)

theorem mem_ints {p : LabelSet × Int} : p ∈ f.ints ↔ (p.1, .int p.2) ∈ f.entries := by
  simp only [ints, List.mem_filterMap, Option.map_eq_some_iff, Json.int?_eq_some_iff, mem_items]
  constructor
  · rintro ⟨⟨l, v⟩, hmem, n, rfl, rfl⟩
    exact hmem
  · intro hmem
    exact ⟨_, hmem, p.2, rfl, rfl⟩

theorem pairwise_ints (h : (f.entries.map Prod.fst).Nodup) :
    (f.ints.map Prod.fst).Pairwise fun a b => a.compare b = .lt := by
  have hitems : f.items.Pairwise fun p q => p.1.compare q.1 = .lt := List.pairwise_map.1 (pairwise_items h)
  rw [List.pairwise_map, ints, List.pairwise_filterMap]
  refine hitems.imp fun hpq p' hp' q' hq' => ?_
  obtain ⟨_, -, rfl⟩ := Option.map_eq_some_iff.1 hp'
  obtain ⟨_, -, rfl⟩ := Option.map_eq_some_iff.1 hq'
  exact hpq

theorem map_int_ints (h : f.Fits) : (f.ints.map fun p => (p.1, .int p.2)) = f.items := by
  have hitems := fits_items_iff.2 h
  rw [ints]
  generalize f.items = items at hitems
  induction items with
  | nil => rfl
  | cons p items ih =>
    obtain ⟨⟨-, n, hn, -⟩, hrest⟩ := List.forall_mem_cons.1 hitems
    have hint : p.2.int?.map (fun n => (p.1, n)) = some (p.1, n) := by
      rw [hn]
      rfl
    simp only [List.filterMap_cons, hint, List.map_cons, ih hrest, ← hn]

theorem inRange_of_mem_ints (h : f.Fits) {p : LabelSet × Int} (hp : p ∈ f.ints) :
    inRange f.spec.type p.2 = true := by
  obtain ⟨-, n, hn, hrange⟩ := h _ (mem_ints.1 hp)
  rw [Json.int.inj hn]
  exact hrange

/-- The lines of a family as it stands. -/
def lines (f : Family κ) : List String := familyLines f.exposedName f.spec f.ints

theorem encodeSamples_ints (f : Family κ) {items : List (LabelSet × Int)}
    (h : ∀ p ∈ items, inRange f.spec.type p.2 = true) :
    encodeSamples f.spec.type.name (items.map fun p => f.sample (p.1, .int p.2)) =
      .ok (ofLines (items.map (sampleLine f.exposedName f.spec.type))) := by
  induction items with
  | nil => rfl
  | cons p items ih =>
    obtain ⟨hp, hrest⟩ := List.forall_mem_cons.1 h
    have hline : encodeSample f.spec.type.name (f.sample (p.1, .int p.2)) =
        .ok (sampleLine f.exposedName f.spec.type p ++ "\n") := by
      rw [encodeSample, formatLabels_of_isWritable (f.isWritable_sample _)]
      simp [sample, formatValue, hp, Except.map, sampleLine]
    rw [List.map_cons, encodeSamples, hline]
    simp [ih hrest, Except.map]

theorem encodeHead_describe (f : Family κ) :
    encodeHead f.describe = ofLines (familyLines f.exposedName f.spec []) := by
  show "# HELP " ++ f.exposedName ++ " " ++ Escape.helpText f.spec.help ++ "\n" ++
    "# TYPE " ++ f.exposedName ++ " " ++ f.spec.type.name ++ "\n" ++
    (if f.spec.unit.isEmpty then "" else "# UNIT " ++ f.exposedName ++ " " ++ f.spec.unit ++ "\n") = _
  by_cases hunit : f.spec.unit = ""
  · have hempty : f.spec.unit.isEmpty = true := by simp [hunit]
    simp only [familyLines, hempty, if_true, if_pos hunit, List.map_nil, List.append_nil, ofLines_cons,
      ofLines_nil, String.append_assoc, String.append_empty]
  · have hempty : f.spec.unit.isEmpty = false := by simp [hunit]
    simp only [familyLines, hempty, Bool.false_eq_true, if_false, if_neg hunit, List.cons_append,
      List.nil_append, List.map_nil, List.append_nil, ofLines_cons, ofLines_nil, String.append_assoc,
      String.append_empty]

theorem encodeMetric_of_fits (h : f.Fits) : encodeMetric f.metric = .ok (ofLines f.lines) := by
  rw [encodeMetric_eq, ← map_int_ints h, List.map_map, encodeHead_describe, lines,
    familyLines_eq_append _ _ f.ints, ofLines_append]
  exact congrArg _ (f.encodeSamples_ints fun _ => inRange_of_mem_ints h)

end Family

/-- The text of a registry whose values fit: the lines of its families one after another, and the end. -/
theorem Registry.render_of_fits {r : Registry} (h : ∀ f ∈ r.families, f.Fits) :
    r.render = .ok (ofLines (r.families.flatMap Family.lines ++ ["# EOF"])) := by
  show encode (r.families.map Family.collect) = _
  generalize r.families = fs at h
  induction fs with
  | nil => rfl
  | cons f fs ih =>
    obtain ⟨hf, hfs⟩ := List.forall_mem_cons.1 h
    simp only [List.map_cons, encode, Family.collect_of_fits hf, Family.encodeMetric_of_fits hf, ih hfs, Except.map,
      List.flatMap_cons, List.append_assoc, ofLines_append]

end BpfExporter
