import BpfExporter.Proofs.LabelOrder
import BpfExporter.Proofs.PassEntries

/-! The order of listings. A family shows its values in the order of their label sets, so all that matters is what
is read of it; and where no label set is written twice, what is read does not depend on the order of the writes. So
the order in which objects are listed, or values handed in, cannot be told from a text. -/
namespace BpfExporter

/-! ### Families of which the same is read -/

namespace Family

variable {κ : Type}

/-- The families differ in the order of their entries alone. -/
structure Alike (f g : Family κ) : Prop where
  clear_eq : f.clear = g.clear
  nodup_left : (f.entries.map Prod.fst).Nodup
  nodup_right : (g.entries.map Prod.fst).Nodup
  get?_eq : ∀ l, f.get? l = g.get? l

variable {f g : Family κ}

theorem Alike.refl (hf : (f.entries.map Prod.fst).Nodup) : f.Alike f := ⟨rfl, hf, hf, fun _ => rfl⟩

theorem Alike.items_eq (h : f.Alike g) : f.items = g.items := by
  have hentries : f.entries.Perm g.entries := Assoc.perm_of_get?_eq h.nodup_left h.nodup_right h.get?_eq
  have hitems : f.items.Perm g.items :=
    (List.mergeSort_perm _ _).trans (hentries.trans (List.mergeSort_perm _ _).symm)
  exact LabelSet.eq_of_perm_of_ascending hitems (pairwise_items h.nodup_left) (pairwise_items h.nodup_right)

theorem metric_eq_of_items (f : Family κ) :
    f.metric = { f.clear.describe with samples := f.items.map f.clear.sample } := rfl

theorem Alike.metric_eq (h : f.Alike g) : f.metric = g.metric := by
  rw [metric_eq_of_items, metric_eq_of_items, h.clear_eq, h.items_eq]

theorem Alike.collect_eq (h : f.Alike g) : f.collect = g.collect := by
  rw [Family.collect_eq, Family.collect_eq, h.items_eq, h.metric_eq]

theorem Alike.write (h : f.Alike g) {ps qs : List (LabelSet × Json)} (hps : ps.Perm qs)
    (hkeys : (ps.map Prod.fst).Nodup) : (f.write ps).Alike (g.write qs) where
  clear_eq := h.clear_eq
  nodup_left := Assoc.nodup_keys_setAll h.nodup_left ps
  nodup_right := Assoc.nodup_keys_setAll h.nodup_right qs
  get?_eq l := by
    have hprior : Assoc.get? l f.entries = Assoc.get? l g.entries := h.get?_eq l
    rw [get?, get?, Family.write, Family.write, Assoc.get?_setAll_perm hps hkeys, Assoc.get?_setAll,
      Assoc.get?_setAll, hprior]

end Family

/-! ### Listings -/

def Record.snapshot? (r : Record) : Option Snapshot :=
  match r.load? with
  | .ok snapshot? => snapshot?
  | .error _ => none

theorem Record.loadAll_eq_filterMap {rs : List Record} (h : ∀ r ∈ rs, ∃ s?, r.load? = .ok s?) :
    loadAll rs = .ok (rs.filterMap snapshot?) := by
  induction rs with
  | nil => rfl
  | cons r rs ih =>
    obtain ⟨⟨s?, hload⟩, hrs⟩ := List.forall_mem_cons.1 h
    have hsnapshot : r.snapshot? = s? := by rw [snapshot?, hload]
    rw [loadAll, hload, ih hrs, List.filterMap_cons, hsnapshot]
    cases s? <;> rfl

/-- The same listing of a subject in another order. Every record is taken for a snapshot or passed over, and no two
snapshots have one label set. -/
inductive Listing.Reordered (s : Subject) : Listing → Listing → Prop
  | failed (f : ListingFailure) : Reordered s (.error f) (.error f)
  | listed {rs rs' : List Record} (perm : rs.Perm rs') (loads : ∀ r ∈ rs, ∃ snapshot?, r.load? = .ok snapshot?)
      (distinct : ((rs.filterMap Record.snapshot?).map (LabelSet.ofSnapshot · s)).Nodup) :
      Reordered s (.ok rs) (.ok rs')

namespace Listing.Reordered

variable {s : Subject} {l l' : Listing}

theorem symm (h : Reordered s l l') : Reordered s l' l := by
  cases h with
  | failed f => exact .failed f
  | listed perm loads distinct =>
    have hlabels := (perm.filterMap Record.snapshot?).map (LabelSet.ofSnapshot · s)
    exact .listed perm.symm (fun r hr => loads r (perm.mem_iff.2 hr)) (hlabels.nodup_iff.1 distinct)

theorem isTimely (h : Reordered s l l') : l.IsTimely := by
  intro records hrecords r hr
  cases h with
  | failed f => cases hrecords
  | listed perm loads distinct =>
    obtain rfl := Except.ok.inj hrecords
    exact Record.exists_load?_iff.1 (loads r hr)

theorem load (h : Reordered s l l') : (∃ e, l.load s = .error e ∧ l'.load s = .error e) ∨
    ∃ ss ss', l.load s = .ok ss ∧ l'.load s = .ok ss' ∧ ss.Perm ss' ∧
      (ss.map (LabelSet.ofSnapshot · s)).Nodup := by
  cases h with
  | failed f => exact .inl ⟨_, rfl, rfl⟩
  | @listed rs rs' perm loads distinct =>
    have hload := Record.loadAll_eq_filterMap loads
    have hload' := Record.loadAll_eq_filterMap fun r hr => loads r (perm.mem_iff.2 hr)
    refine .inr ⟨_, _, ?_, ?_, perm.filterMap Record.snapshot?, distinct⟩
    · rw [Listing.load, hload]
    · rw [Listing.load, hload']

theorem adapterError?_eq {source source' : Source} (h : (source s).Reordered s (source' s)) :
    Registry.adapterError? source s = Registry.adapterError? source' s := by
  rw [Registry.adapterError?, Registry.adapterError?]
  generalize source s = l at h ⊢
  generalize source' s = l' at h ⊢
  cases h <;> rfl

end Listing.Reordered

namespace Family.Alike

variable {source source' : Source} {f g : Family Kind}

/-- Families that are alike are so after the pass of a subject, in whatever order its objects are listed. -/
theorem pass (h : f.Alike g) {s : Subject} (hs : (source s).Reordered s (source' s)) (now : Instant) :
    (f.pass source now s).Alike (g.pass source' now s) := by
  rw [Family.pass, Family.pass]
  rcases hs.load with ⟨e, hload, hload'⟩ | ⟨ss, ss', hload, hload', hperm, hlabels⟩
  · rw [hload, hload']
    exact h
  · rw [hload, hload']
    -- what a family takes is not up to its entries
    have htaken : g.writes s now ss' = f.writes s now ss' := congrArg (fun c => c.writes s now ss') h.clear_eq.symm
    simp only [htaken]
    exact h.write (f.writes_perm s now hperm) (hlabels.sublist (f.keys_writes_sublist s now ss))

theorem passes (h : f.Alike g) {subjects : List Subject}
    (hs : ∀ s ∈ subjects, (source s).Reordered s (source' s)) (now : Instant) :
    (subjects.foldl (fun f s => f.pass source now s) f).Alike
      (subjects.foldl (fun f s => f.pass source' now s) g) := by
  induction subjects generalizing f g with
  | nil => exact h
  | cons s subjects ih =>
    obtain ⟨hs, hsubjects⟩ := List.forall_mem_cons.1 hs
    exact ih (h.pass hs now) hsubjects

end Family.Alike

namespace Registry

theorem exportText_eq_of_alike {r : Registry} {F G : Family Kind → Family Kind}
    (h : ∀ f ∈ r.families, (F f).Alike (G f)) :
    exportText { r with families := r.families.map F } = exportText { r with families := r.families.map G } := by
  have hmetrics : (r.families.map F).map Family.collect = (r.families.map G).map Family.collect := by
    rw [List.map_map, List.map_map]
    exact List.map_congr_left fun f hf => (h f hf).collect_eq
  have hrender : render { r with families := r.families.map F } = render { r with families := r.families.map G } :=
    congrArg Exposition.encode hmetrics
  have hclear : Families.clear (r.families.map F) = Families.clear (r.families.map G) := by
    rw [Families.clear, Families.clear, List.map_map, List.map_map]
    exact List.map_congr_left fun f hf => (h f hf).clear_eq
  rw [exportText_eq, exportText_eq, hrender, clear, clear, hclear]

/-! ### Updates -/

end Registry

/-- A value that is handed in for a label set of a kind. -/
structure Handed where
  kind : Kind
  labels : LabelSet
  value : Json

def Handed.operation (u : Handed) : Operation := .update (.kind u.kind) u.labels u.value

namespace Family

variable {f : Family Kind} {us us' : List Handed}

/-- What is stored in the family of the values handed in: those of its kind, where the label set is one of the
subject. -/
def given (f : Family Kind) (us : List Handed) : List (LabelSet × Json) :=
  us.filterMap fun u =>
    if u.kind = f.kind ∧ u.labels.subject = u.kind.subject then some (u.labels, u.value) else none

theorem write_given_singleton (f : Family Kind) (u : Handed) : f.write (f.given [u]) =
    if u.kind = f.kind ∧ u.labels.subject = u.kind.subject then f.set u.labels u.value else f := by
  by_cases h : u.kind = f.kind ∧ u.labels.subject = u.kind.subject <;>
    simp [given, h, write, Assoc.setAll, set]

theorem nodup_keys_given (h : (us.map fun u => (u.kind, u.labels)).Nodup) (f : Family Kind) :
    ((f.given us).map Prod.fst).Nodup := by
  have hne : us.Pairwise fun u v => (u.kind, u.labels) ≠ (v.kind, v.labels) := List.pairwise_map.1 h
  refine List.pairwise_map.2 (List.pairwise_filterMap.2 (hne.imp ?_))
  intro u v huv p hp q hq hpq
  simp only [Option.ite_none_right_eq_some, Option.some.injEq] at hp hq
  obtain ⟨⟨hu, -⟩, rfl⟩ := hp
  obtain ⟨⟨hv, -⟩, rfl⟩ := hq
  exact huv (Prod.ext (hu.trans hv.symm) hpq)

end Family

namespace Registry

theorem perform_handed (r : Registry) (u : Handed) :
    r.perform u.operation = { r with families := r.families.map fun f => f.write (f.given [u]) } := by
  simp only [Family.write_given_singleton, Handed.operation]
  cases hk : r.families.contains u.kind with
  | false =>
    have hother : ∀ f ∈ r.families, (if u.kind = f.kind ∧ u.labels.subject = u.kind.subject then
        f.set u.labels u.value else f) = f := by
      intro f hf
      rw [Families.contains_eq] at hk
      have hne : u.kind ≠ f.kind := fun e => of_decide_eq_false hk (List.mem_map.2 ⟨f, hf, e.symm⟩)
      simp [hne]
    rw [List.map_congr_left hother, List.map_id']
    simp [perform, update, KindArg.check, hk]
  | true =>
    by_cases hl : u.labels.subject = u.kind.subject
    · have hstore : r.families.store u.kind u.labels u.value = r.families.map fun f =>
          if u.kind = f.kind ∧ u.labels.subject = u.kind.subject then f.set u.labels u.value else f := by
        rw [Families.store]
        refine List.map_congr_left fun f _ => ?_
        by_cases hf : f.kind = u.kind
        · simp [hf, hl]
        · have hne : ¬u.kind = f.kind := fun e => hf e.symm
          simp [hf, hne]
      simp [perform, update, KindArg.check, hk, hl, hstore]
    · simp [perform, update, KindArg.check, hk, hl]

theorem performAll_handed (r : Registry) (us : List Handed) :
    r.performAll (us.map Handed.operation) =
      { r with families := r.families.map fun f => f.write (f.given us) } := by
  induction us generalizing r with
  | nil => simp [performAll, Family.given, Family.write, Assoc.setAll]
  | cons u us ih =>
    have hsplit : ∀ f : Family Kind, f.given (u :: us) = f.given [u] ++ f.given us := by
      intro f
      rw [Family.given, Family.given, Family.given, ← List.filterMap_append]
      rfl
    have hfirst : r.performAll ((u :: us).map Handed.operation) =
        (r.perform u.operation).performAll (us.map Handed.operation) := rfl
    rw [hfirst, ih, perform_handed, List.map_map]
    simp only [hsplit, Family.write_append]
    rfl

end Registry

/-- Nothing tells the order in which objects were listed or values handed in. Take a registry as any operations have
left it. Two collections from sources that list the same of every subject in another order come to their end with
the same failures, and the export after the one has the same text, or the same error, as after the other, and leaves
the same registry. So do the exports after values handed in in one order or another, no two for one label set of a
kind. -/
theorem exportText_of_reordered {path : String} {ops : List Operation} {r : Registry}
    (hr : r = (Registry.empty path).performAll ops) :
    (∀ (source source' : Source) (now : Instant),
      (∀ s ∈ r.subjects, (source s).Reordered s (source' s)) →
      ∃ errors, (r.collect (some source) now).1 = .ok errors ∧ (r.collect (some source') now).1 = .ok errors ∧
        (r.collect (some source) now).2.exportText = (r.collect (some source') now).2.exportText) ∧
      ∀ us us' : List Handed, us.Perm us' → (us.map fun u => (u.kind, u.labels)).Nodup →
        (r.performAll (us.map Handed.operation)).exportText =
          (r.performAll (us'.map Handed.operation)).exportText := by
  have hkinds : (r.families.map Family.kind).Nodup := hr ▸ (Registry.distinct_performAll path ops).kinds
  have hkeys : ∀ f ∈ r.families, (f.entries.map Prod.fst).Nodup := hr ▸ Registry.nodup_keys_performAll path ops
  constructor
  · intro source source' now h
    have hcollect := Registry.collect_eq_passes (r := r) (fun s hs => (h s hs).isTimely) now
    have hcollect' := Registry.collect_eq_passes (r := r) (fun s hs => (h s hs).symm.isTimely) now
    rw [Registry.passes_eq_map hkinds] at hcollect hcollect'
    have herrors : r.subjects.filterMap (Registry.adapterError? source) =
        r.subjects.filterMap (Registry.adapterError? source') :=
      List.filterMap_congr fun s hs => (h s hs).adapterError?_eq
    refine ⟨r.subjects.filterMap (Registry.adapterError? source), ?_, ?_, ?_⟩
    · rw [hcollect]
    · rw [hcollect', herrors]
    · rw [hcollect, hcollect']
      exact Registry.exportText_eq_of_alike fun f hf => (Family.Alike.refl (hkeys f hf)).passes h now
  · intro us us' hperm hdistinct
    rw [Registry.performAll_handed, Registry.performAll_handed]
    exact Registry.exportText_eq_of_alike fun f hf =>
      (Family.Alike.refl (hkeys f hf)).write (hperm.filterMap _) (Family.nodup_keys_given hdistinct f)

theorem bounds_ranFour : ∀ f ∈ [("run_cnt", (4 : Int))], Snapshot.minField ≤ f.2 ∧ f.2 ≤ Snapshot.maxField := by
  decide

def ranProgram (id : Nat) (h : id ≤ Snapshot.maxId := by decide) : Record :=
  .ready ⟨id, "xdp", "p", none, [("run_cnt", 4)], none, h, Snapshot.le_maxTag_of_mem_none, bounds_ranFour⟩

def runsInOrder (programs : List Record) : Source
  | .prog => .ok programs
  | _ => .ok []

def ranBoth : Registry := ⟨"bpf", [.prog, .map],
  [⟨.prog .runCount, (Kind.prog .runCount).spec, "bpf_prog_execution",
      [(.prog ⟨7, "xdp", "p", 0⟩, .int 4), (.prog ⟨9, "xdp", "p", 0⟩, .int 4)]⟩,
    Family.make "bpf_map" (.map .keySize) (Kind.map .keySize).spec]⟩

def ranBothLines : List String :=
  ["# HELP bpf_prog_execution_count Accumulated execution count of the program",
    "# TYPE bpf_prog_execution_count counter", "# UNIT bpf_prog_execution_count count",
    "bpf_prog_execution_count_total\x7bid=\"7\",program_type=\"xdp\",name=\"p\",tag=\"0\"\x7d 4",
    "bpf_prog_execution_count_total\x7bid=\"9\",program_type=\"xdp\",name=\"p\",tag=\"0\"\x7d 4",
    "# HELP bpf_map_key_size_bytes Size of map key", "# TYPE bpf_map_key_size_bytes gauge",
    "# UNIT bpf_map_key_size_bytes bytes", "# EOF"]

theorem render_ranBoth : ranBoth.render = .ok (Exposition.ofLines ranBothLines) := by
  have hfits : ∀ f ∈ ranBoth.families, f.Fits := by
    intro f hf p hp
    simp only [ranBoth, List.mem_cons, List.not_mem_nil, or_false] at hf
    rcases hf with rfl | rfl
    · simp only [List.mem_cons, List.not_mem_nil, or_false] at hp
      rcases hp with rfl | rfl <;> exact ⟨by decide +kernel, 4, rfl, rfl⟩
    · exact absurd hp List.not_mem_nil
  have hitems : ∀ f ∈ ranBoth.families, f.items = f.entries := fun f hf =>
    List.mergeSort_of_pairwise (by revert f; decide +kernel)
  have hlines : ∀ f ∈ ranBoth.families, f.lines =
      familyLines f.exposedName f.spec (f.entries.filterMap fun p => p.2.int?.map fun n => (p.1, n)) :=
    fun f hf => by rw [Family.lines, Family.ints, hitems f hf]
  rw [Registry.render_of_fits hfits, List.flatMap, List.map_congr_left hlines]
  exact congrArg (Except.ok <| Exposition.ofLines ·) (by decide +kernel)

/-- The size of a map's key, which is no number, and the runs of a program. -/
def handedAcross : List Handed :=
  [⟨.map .keySize, .map ⟨3, "hash", "m"⟩, .str "four"⟩, ⟨.prog .runCount, .prog ⟨7, "xdp", "p", 0⟩, .int 4⟩]

def handedBoth : Registry := ⟨"bpf", [.prog, .map],
  [⟨.prog .runCount, (Kind.prog .runCount).spec, "bpf_prog_execution", [(.prog ⟨7, "xdp", "p", 0⟩, .int 4)]⟩,
    ⟨.map .keySize, (Kind.map .keySize).spec, "bpf_map_key_size", [(.map ⟨3, "hash", "m"⟩, .str "four")]⟩]⟩

theorem render_handedBoth : handedBoth.render = .error (.notInteger (.str "four")) := by
  have hwritable : ∀ f ∈ handedBoth.families, ∀ p ∈ f.entries, p.1.isWritable = true := by decide +kernel
  rw [Registry.render_eq_encode hwritable]
  simp only [Registry.metrics, handedBoth, Family.metric, Family.items, List.map_cons, List.mergeSort_singleton]
  rfl

/-- The programs come in the text in the order of their numbers, whichever is listed first. Of what is handed in one
value is none that can be written, and nothing is left of it either. -/
theorem exportText_of_reordered_runs :
    (runsAndKeys.collect (some (runsInOrder [ranProgram 9, ranProgram 7])) ⟨1772366400000000⟩).2.exportText =
        (runsAndKeys.collect (some (runsInOrder [ranProgram 7, ranProgram 9])) ⟨1772366400000000⟩).2.exportText ∧
      (runsAndKeys.collect (some (runsInOrder [ranProgram 7, ranProgram 9])) ⟨1772366400000000⟩).2.exportText =
        (.ok (Exposition.ofLines ranBothLines), runsAndKeys) ∧
      (runsAndKeys.performAll (handedAcross.map Handed.operation)).exportText =
        (.error (.notInteger (.str "four")), runsAndKeys) ∧
      (runsAndKeys.performAll (handedAcross.reverse.map Handed.operation)).exportText =
        (.error (.notInteger (.str "four")), runsAndKeys) := by
  have hlisted : ∀ s, (runsInOrder [ranProgram 9, ranProgram 7] s).Reordered s
      (runsInOrder [ranProgram 7, ranProgram 9] s) := by
    intro s
    cases s with
    | prog =>
      refine .listed (.swap _ _ []) (fun record hrecord => ?_) (by decide)
      simp only [List.mem_cons, List.not_mem_nil, or_false] at hrecord
      rcases hrecord with rfl | rfl <;> exact ⟨_, rfl⟩
    | map => exact .listed .nil (fun _ hrecord => absurd hrecord List.not_mem_nil) List.nodup_nil
    | link => exact .listed .nil (fun _ hrecord => absurd hrecord List.not_mem_nil) List.nodup_nil
  have hruns := exportText_of_reordered (r := runsAndKeys) rfl
  obtain ⟨errors, -, -, htext⟩ := hruns.1 (runsInOrder [ranProgram 9, ranProgram 7])
    (runsInOrder [ranProgram 7, ranProgram 9]) ⟨1772366400000000⟩ fun s _ => hlisted s
  have hcollect : runsAndKeys.collect (some (runsInOrder [ranProgram 7, ranProgram 9])) ⟨1772366400000000⟩ =
      (.ok [], ranBoth) := by
    rw [families_runsAndKeys]
    rfl
  have hclear : ranBoth.clear = runsAndKeys := families_runsAndKeys.symm
  have hhanded := hruns.2 _ _ (List.reverse_perm handedAcross).symm (by decide)
  have hstored : runsAndKeys.performAll (handedAcross.map Handed.operation) = handedBoth := by
    rw [families_runsAndKeys]
    rfl
  have hclear' : handedBoth.clear = runsAndKeys := families_runsAndKeys.symm
  have hrefused : (runsAndKeys.performAll (handedAcross.map Handed.operation)).exportText =
      (.error (.notInteger (.str "four")), runsAndKeys) := by
    rw [hstored, Registry.exportText_eq, render_handedBoth, hclear']
  refine ⟨htext, ?_, hrefused, hhanded.symm.trans hrefused⟩
  rw [hcollect, Registry.exportText_eq, render_ranBoth, hclear]

end BpfExporter
