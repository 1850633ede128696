import Mathlib
import BpfExporter.Proofs.Entries
import BpfExporter.Proofs.Rendering
import BpfExporter.Proofs.Store

/-! Time series. A sample belongs to the series of its name and of its labels as they are shown, and a text with
two samples of one series is refused as a whole. Names tell the samples of two families apart, label sets those of
one family. -/
namespace BpfExporter

open Exposition

/-- The samples go by one name and show the same labels, in whatever order. -/
def Exposition.MetricSample.SameSeries (s t : MetricSample) : Prop :=
  s.name = t.name ∧ (s.labels.map fun p => (p.1, p.2.display)).Perm (t.labels.map fun p => (p.1, p.2.display))

namespace LabelSet

theorem subject_eq_of_labelNames_perm : ∀ {s t : Subject}, s.labelNames.Perm t.labelNames → s = t
  | .prog, .prog, _ | .map, .map, _ | .link, .link, _ => rfl
  | .prog, .map, h | .prog, .link, h | .map, .prog, h | .link, .prog, h => absurd h.length_eq (by decide)
  | .map, .link, h => absurd (h.subset (a := "map_type") (by decide)) (by decide)
  | .link, .map, h => absurd (h.subset (a := "link_type") (by decide)) (by decide)

/-- Label sets that show the same labels are the same: a number has one text, and the shape is in the names. -/
theorem eq_of_texts_perm {a b : LabelSet} (h : a.texts.Perm b.texts) : a = b := by
  have hnames : (a.texts.map Prod.fst).Nodup := by
    rw [names_texts]
    exact nodup_labelNames _
  have hget : ∀ n, Assoc.get? n a.texts = Assoc.get? n b.texts := Assoc.get?_perm h hnames
  have hsubject : a.subject = b.subject := by
    refine subject_eq_of_labelNames_perm ?_
    rw [← names_texts, ← names_texts]
    exact h.map Prod.fst
  have hid := hget "id"
  cases a <;> cases b <;> simp only [subject, reduceCtorEq] at hsubject
  case prog.prog a b =>
    have htype := hget "program_type"
    have hname := hget "name"
    have htag := hget "tag"
    cases a
    cases b
    simp [texts, pairs, Assoc.get?, Json.display, Json.inspect, Int.repr_inj] at hid htype hname htag
    rw [hid, htype, hname, htag]
  case map.map a b =>
    have htype := hget "map_type"
    have hname := hget "name"
    cases a
    cases b
    simp [texts, pairs, Assoc.get?, Json.display, Json.inspect, Int.repr_inj] at hid htype hname
    rw [hid, htype, hname]
  case link.link a b =>
    have htype := hget "link_type"
    have hprog := hget "prog_id"
    cases a
    cases b
    simp [texts, pairs, Assoc.get?, Json.display, Json.inspect, Int.repr_inj] at hid htype hprog
    rw [hid, htype, hprog]

end LabelSet

namespace Family

variable {f : Family Kind}

theorem exposedName_mem_claimedNames (f : Family Kind) : f.exposedName ∈ f.claimedNames := by
  rw [claimedNames]
  cases f.spec.type <;> exact List.mem_cons_self

theorem name_mem_claimedNames {s : MetricSample} (hs : s ∈ f.metric.samples) : s.name ∈ f.claimedNames := by
  obtain ⟨item, -, rfl⟩ := List.mem_map.1 hs
  simp only [sample, claimedNames]
  cases f.spec.type <;> simp [sampleName, Exposition.claimedNames]

theorem labels_sample (f : Family Kind) (item : LabelSet × Json) :
    ((f.sample item).labels.map fun p => (p.1, p.2.display)) = item.1.texts := by
  simp only [sample, List.map_map]
  rfl

theorem pairwise_samples (hf : (f.entries.map Prod.fst).Nodup) :
    f.metric.samples.Pairwise fun s t => ¬s.SameSeries t := by
  have hitems : (f.items.map Prod.fst).Nodup := (List.mergeSort_perm _ _).map Prod.fst |>.nodup_iff.2 hf
  refine List.pairwise_map.2 ((List.pairwise_map.1 hitems).imp ?_)
  intro p q hpq hsame
  have htexts : p.1.texts.Perm q.1.texts := by
    rw [← labels_sample f p, ← labels_sample f q]
    exact hsame.2
  exact hpq (LabelSet.eq_of_texts_perm htexts)

end Family

namespace Registry

/-- A kind that is not registered is refused for its names exactly when one of them is claimed. -/
theorem register_namesTaken_iff (r : Registry) (k : Kind) (spec : Spec) :
    (∃ names, r.register (.kind k) (.ofSpec spec) = (.error (.configuration (.namesTaken names)), r)) ↔
      r.families.contains k = false ∧ ∃ n ∈ (r.newFamily k spec).claimedNames, n ∈ r.claimedNames := by
  have htype := ofJson_ofSpec spec
  cases hk : r.families.contains k with
  | true => simp [register_eq, KindArg.check, hk]
  | false =>
    cases htaken : r.taken (r.newFamily k spec) with
    | nil =>
      have hfree := taken_eq_nil_iff.1 htaken
      rw [register_of_free hk htype hfree]
      simpa using hfree
    | cons n ns =>
      have hclaimed : ¬∀ n ∈ (r.newFamily k spec).claimedNames, n ∉ r.claimedNames := by
        rw [← taken_eq_nil_iff, htaken]
        exact List.cons_ne_nil n ns
      have hrefused : r.register (.kind k) (.ofSpec spec) =
          (.error (.configuration (.namesTaken (n :: ns))), r) := by
        rw [newFamily] at htaken
        simp only [register_eq, KindArg.check, hk, htype]
        simp [Registration.ofSpec, htaken]
      simp only [not_forall, not_not, exists_prop] at hclaimed
      exact iff_of_true ⟨n :: ns, hrefused⟩ ⟨rfl, hclaimed⟩

end Registry

/-- No time series comes twice. Whatever is registered under whatever names, and whatever is written, read from
sources and cleared, the text is of metrics that all have names of their own, and no two samples in all of them
have one name and show the same labels. A registration that would add a name that is claimed is refused for it. -/
theorem pairwise_series {path : String} {ops : List Operation} {r : Registry}
    (hr : r = (Registry.empty path).performAll ops) :
    (∀ text, r.render = .ok text → encode (r.metrics.map .ok) = .ok text) ∧
      ((∀ f ∈ r.families, ∀ p ∈ f.entries, p.1.isWritable = true) → r.render = encode (r.metrics.map .ok)) ∧
      (r.metrics.map Metric.name).Nodup ∧
      (r.metrics.flatMap Metric.samples).Pairwise (fun s t => ¬s.SameSeries t) ∧
      ∀ k spec, (∃ names, r.register (.kind k) (.ofSpec spec) = (.error (.configuration (.namesTaken names)), r)) ↔
        r.families.contains k = false ∧ ∃ n ∈ (r.newFamily k spec).claimedNames, n ∈ r.claimedNames := by
  have hdistinct : r.Distinct := hr ▸ Registry.distinct_performAll path ops
  have hkeys : ∀ f ∈ r.families, (f.entries.map Prod.fst).Nodup := hr ▸ Registry.nodup_keys_performAll path ops
  refine ⟨fun _ => Registry.encode_metrics_of_render, Registry.render_eq_encode, ?_, ?_, r.register_namesTaken_iff⟩
  · rw [Registry.metrics, List.map_map]
    refine List.pairwise_map.2 (hdistinct.names.imp ?_)
    intro f g hfg (hname : f.exposedName = g.exposedName)
    have hclaimed := g.exposedName_mem_claimedNames
    rw [← hname] at hclaimed
    exact hfg _ f.exposedName_mem_claimedNames hclaimed
  · rw [Registry.metrics, List.flatMap_map, List.pairwise_flatMap]
    refine ⟨fun f hf => Family.pairwise_samples (hkeys f hf), hdistinct.names.imp ?_⟩
    intro f g hfg s hs t ht hsame
    have hclaimed := Family.name_mem_claimedNames ht
    rw [← hsame.1] at hclaimed
    exact hfg _ (Family.name_mem_claimedNames hs) hclaimed

def runsTotal : Spec := ⟨"runs_total", "Runs", "", .counter⟩

def twoRuns : Registry := (Registry.empty "bpf").performAll
  [.register (.kind (.prog .runCount)) (.ofSpec runsTotal),
    .update (.kind (.prog .runCount)) (.prog ⟨7, "xdp", "p", 0⟩) (.int 4),
    .update (.kind (.prog .runCount)) (.prog ⟨9, "xdp", "p", 0⟩) (.int 4)]

theorem twoRuns_eq : twoRuns = ⟨"bpf", [.prog], [⟨.prog .runCount, runsTotal, "bpf_prog_runs_total",
    [(.prog ⟨7, "xdp", "p", 0⟩, .int 4), (.prog ⟨9, "xdp", "p", 0⟩, .int 4)]⟩]⟩ := by
  have hregister : (Registry.empty "bpf").register (.kind (.prog .runCount)) (.ofSpec runsTotal) =
      (.ok (), ⟨"bpf", [.prog], [(Registry.empty "bpf").newFamily (.prog .runCount) runsTotal]⟩) :=
    Registry.register_of_free rfl rfl fun _ _ => List.not_mem_nil
  rw [twoRuns, Registry.performAll, List.foldl_cons, Registry.perform, hregister]
  rfl

/-- The samples of two programs differ in their labels alone, and a gauge is refused under the name that the counter
claims for a time of creation. -/
theorem pairwise_series_created :
    (twoRuns.metrics.flatMap Metric.samples).map (fun s => (s.name, s.labels.map fun p => p.2.display)) =
        [("bpf_prog_runs_total", ["7", "xdp", "p", "0"]), ("bpf_prog_runs_total", ["9", "xdp", "p", "0"])] ∧
      (twoRuns.metrics.flatMap Metric.samples).Pairwise (fun s t => ¬s.SameSeries t) ∧
      twoRuns.metrics.map Metric.name = ["bpf_prog_runs"] ∧
      twoRuns.render = encode (twoRuns.metrics.map .ok) ∧
      ∃ names, twoRuns.register (.kind (.prog .sizeJitted))
        (.ofSpec ⟨"runs_created", "Creation of the runs", "", .gauge⟩) =
          (.error (.configuration (.namesTaken names)), twoRuns) := by
  obtain ⟨-, htext, -, hseries, hrefused⟩ := pairwise_series (r := twoRuns) rfl
  have hclaimed : "bpf_prog_runs_created" ∈ twoRuns.claimedNames := by
    rw [twoRuns_eq]
    decide +kernel
  have hwritable : ∀ f ∈ twoRuns.families, ∀ p ∈ f.entries, p.1.isWritable = true := by
    rw [twoRuns_eq]
    decide +kernel
  have hitems : ∀ f ∈ twoRuns.families, f.items = f.entries := fun f hf => by
    rw [twoRuns_eq] at hf
    exact List.mergeSort_of_pairwise (by revert f; decide +kernel)
  refine ⟨?_, hseries, ?_, htext hwritable, (hrefused _ _).2 ⟨?_, "bpf_prog_runs_created", ?_, hclaimed⟩⟩
  · have hsamples : twoRuns.metrics.flatMap Metric.samples =
        twoRuns.families.flatMap fun f => f.entries.map f.sample := by
      rw [Registry.metrics, List.flatMap_map]
      exact List.flatMap_congr fun f hf => congrArg (·.map f.sample) (hitems f hf)
    rw [hsamples, twoRuns_eq]
    decide +kernel
  · rw [twoRuns_eq]
    decide +kernel
  · rw [twoRuns_eq]
    rfl
  · rw [twoRuns_eq]
    decide +kernel

end BpfExporter
