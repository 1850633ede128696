import BpfExporter.Proofs.Assoc
import BpfExporter.Proofs.Operations

/-! The families of a registry after a run. What a family has when it is made, and what a write and a clearing
keep, every family has; so no label set has two values. A kind is bound once, and no name is claimed twice. -/
namespace BpfExporter

namespace Families

variable {P : Family Kind → Prop}

theorem forall_store (hset : ∀ f l v, P f → P (f.set l v)) {fs : Families Kind} (hfs : ∀ f ∈ fs, P f)
    (k : Kind) (l : LabelSet) (v : Json) : ∀ f ∈ fs.store k l v, P f := by
  rw [store, List.forall_mem_map]
  intro f hf
  by_cases hk : (f.kind == k) = true
  · rw [if_pos hk]
    exact hset f l v (hfs f hf)
  · rw [if_neg hk]
    exact hfs f hf

theorem forall_observe (hset : ∀ f l v, P f → P (f.set l v)) {fs : Families Kind} (hfs : ∀ f ∈ fs, P f)
    (l : LabelSet) (x : Reading) : ∀ f ∈ fs.observe l x, P f := by
  rw [observe]
  split
  · exact hfs
  · split
    · exact hfs
    · exact forall_store hset hfs _ _ _

theorem forall_clear (hclear : ∀ f, P f → P f.clear) {fs : Families Kind} (hfs : ∀ f ∈ fs, P f) :
    ∀ f ∈ fs.clear, P f :=
  List.forall_mem_map.2 fun f hf => hclear f (hfs f hf)

end Families

namespace Registry

variable {P : Family Kind → Prop}

theorem forall_families_register (hmake : ∀ path k spec, P (Family.make path k spec)) {r : Registry}
    (hr : ∀ f ∈ r.families, P f) (arg : KindArg) (entry : Registration) :
    ∀ f ∈ (r.register arg entry).2.families, P f := by
  rcases r.register_cases arg entry with ⟨_, hsame⟩ | ⟨s, _, -, hsame⟩ | ⟨k, t, -, -, -, -, hnew⟩
  · rw [hsame]
    exact hr
  · rw [hsame, families_withSubject]
    exact hr
  · rw [hnew]
    intro f hf
    rcases List.mem_append.1 hf with hf | hf
    · exact hr f hf
    · rw [List.mem_singleton.1 hf]
      exact hmake _ _ _

theorem forall_families_collect (hset : ∀ f l v, P f → P (f.set l v)) {r : Registry}
    (hr : ∀ f ∈ r.families, P f) (source : Option Source) (now : Instant) :
    ∀ f ∈ (r.collect source now).2.families, P f := by
  cases source with
  | none => exact hr
  | some source =>
    exact collectEach_induction (P := fun fs => ∀ f ∈ fs, P f) (fun _ _ _ _ _ hfs =>
      Families.observeAll_induction (P := fun fs => ∀ f ∈ fs, P f)
        (fun _ _ _ x _ _ hfs => Families.forall_observe hset hfs _ x) hfs) hr

theorem update_cases (r : Registry) (arg : KindArg) (labels : LabelSet) (value : Json) :
    (∃ e, r.update arg labels value = .error e) ∨ r.update arg labels value = .ok r ∨
      ∃ k, arg = .kind k ∧ r.families.contains k = true ∧ labels.subject = k.subject ∧
        r.update arg labels value = .ok { r with families := r.families.store k labels value } := by
  cases arg with
  | foreign v => exact .inl ⟨.notAKind v, rfl⟩
  | kind k =>
    cases hk : r.families.contains k with
    | false => exact .inr (.inl (by simp [update, KindArg.check, hk]))
    | true =>
      by_cases hl : labels.subject = k.subject
      · exact .inr (.inr ⟨k, rfl, hk, hl, by simp [update, KindArg.check, hk, hl]⟩)
      · exact .inl ⟨.wrongLabels k.subject labels.subject, by simp [update, KindArg.check, hk, hl]⟩

theorem forall_families_clear (hclear : ∀ f, P f → P f.clear) {r : Registry} (hr : ∀ f ∈ r.families, P f) :
    ∀ f ∈ r.clear.families, P f := Families.forall_clear hclear hr

/-- A family is made empty and then written to and cleared, whatever is done to its registry. -/
theorem forall_families_performAll (hmake : ∀ path k spec, P (Family.make path k spec))
    (hset : ∀ f l v, P f → P (f.set l v)) (hclear : ∀ f, P f → P f.clear) (path : String)
    (ops : List Operation) : ∀ f ∈ ((empty path).performAll ops).families, P f := by
  have hregister : ∀ (r : Registry) k, (∀ f ∈ r.families, P f) →
      ∀ f ∈ (r.register (.kind k) (tableEntry k)).2.families, P f :=
    fun r k hr => forall_families_register hmake hr _ _
  refine performAll_induction (P := fun r => ∀ f ∈ r.families, P f) (fun op _ r hr => ?_)
    fun _ hf => absurd hf List.not_mem_nil
  cases op with
  | register arg entry => exact forall_families_register hmake hr arg entry
  | registerKind arg => exact registerKind_induction (P := fun r => ∀ f ∈ r.families, P f) hregister hr arg
  | registerAll s args => exact registerAll_induction (P := fun r => ∀ f ∈ r.families, P f) hregister hr s args
  | update arg labels value =>
    rcases r.update_cases arg labels value with ⟨e, he⟩ | hsame | ⟨k, -, -, -, hstored⟩
    · rw [perform, he]
      exact hr
    · rw [perform, hsame]
      exact hr
    · rw [perform, hstored]
      exact Families.forall_store hset hr k labels value
  | collect source now => exact forall_families_collect hset hr source now
  | scrape source now =>
    cases hc : (r.collect source now).1 with
    | ok errors =>
      rw [perform, scrape_of_collect_ok hc]
      exact forall_families_clear hclear hr
    | error e =>
      rw [perform, scrape_of_collect_error hc]
      exact forall_families_collect hset hr source now
  | renderText =>
    rw [perform_renderText]
    exact hr
  | exportText =>
    rw [perform_exportText]
    exact forall_families_clear hclear hr
  | clear => exact forall_families_clear hclear hr

theorem nodup_keys_performAll (path : String) (ops : List Operation) :
    ∀ f ∈ ((empty path).performAll ops).families, (f.entries.map Prod.fst).Nodup :=
  forall_families_performAll (P := fun f => (f.entries.map Prod.fst).Nodup) (fun _ _ _ => List.nodup_nil)
    (fun _ l v hf => Assoc.nodup_keys_set hf l v) (fun _ _ => List.nodup_nil) path ops

/-! ### Kinds and names -/

/-- A kind has one family, and families do not share names. -/
structure Distinct (r : Registry) : Prop where
  kinds : (r.families.map Family.kind).Nodup
  names : r.families.Pairwise fun f g => ∀ n ∈ f.claimedNames, n ∉ g.claimedNames

theorem Distinct.register {r : Registry} (h : r.Distinct) (arg : KindArg) (entry : Registration) :
    (r.register arg entry).2.Distinct := by
  rcases r.register_cases arg entry with ⟨_, hsame⟩ | ⟨s, _, -, hsame⟩ | ⟨k, t, -, -, hk, hn, hnew⟩
  · rw [hsame]
    exact h
  · have hfamilies := r.families_withSubject s
    rw [hsame]
    exact ⟨hfamilies ▸ h.kinds, hfamilies ▸ h.names⟩
  · have hk' : k ∉ r.families.map Family.kind := by
      rw [Families.contains_eq] at hk
      exact of_decide_eq_false hk
    rw [hnew]
    constructor
    · rw [List.map_append, List.map_singleton, List.nodup_append]
      refine ⟨h.kinds, by simp, fun j hj i hi hji => hk' ?_⟩
      rw [hji, List.mem_singleton.1 hi] at hj
      exact hj
    · rw [List.pairwise_append]
      refine ⟨h.names, List.pairwise_singleton _ _, fun f hf g hg n hnf hng => ?_⟩
      rw [List.mem_singleton.1 hg] at hng
      exact hn n hng (List.mem_flatMap.2 ⟨f, hf, hnf⟩)

theorem distinct_clear_iff (r : Registry) : r.clear.Distinct ↔ r.Distinct := by
  have hkinds : r.clear.families.map Family.kind = r.families.map Family.kind := Families.kinds_clear _
  have hnames : (r.clear.families.Pairwise fun f g => ∀ n ∈ f.claimedNames, n ∉ g.claimedNames) ↔
      r.families.Pairwise fun f g => ∀ n ∈ f.claimedNames, n ∉ g.claimedNames := List.pairwise_map
  exact ⟨fun h => ⟨hkinds ▸ h.kinds, hnames.1 h.names⟩, fun h => ⟨hkinds ▸ h.kinds, hnames.2 h.names⟩⟩

theorem distinct_performAll (path : String) (ops : List Operation) : ((empty path).performAll ops).Distinct :=
  performAll_of_register (Q := fun _ => True) distinct_clear_iff (fun _ arg entry _ h => h.register arg entry)
    (fun _ => trivial) (fun _ _ _ => trivial) ⟨List.nodup_nil, List.Pairwise.nil⟩

end Registry

end BpfExporter
