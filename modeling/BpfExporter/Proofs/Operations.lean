import BpfExporter.Collect

/-! What can be done to a registry, and runs of it. A registration is refused or adds one empty family, an
update and a collection change entries alone, and what every single step keeps is kept by a run. -/
namespace BpfExporter

inductive Operation
  | register (arg : KindArg) (entry : Registration)
  | registerKind (arg : KindArg)
  | registerAll (s : Subject) (args : List KindArg)
  | update (arg : KindArg) (labels : LabelSet) (value : Json)
  | collect (source : Option Source) (now : Instant)
  | scrape (source : Option Source) (now : Instant)
  | renderText
  | exportText
  | clear

namespace Operation

/-- The operation binds kinds. -/
def IsRegistration : Operation → Prop
  | .register _ _ | .registerKind _ | .registerAll _ _ => True
  | _ => False

instance : DecidablePred IsRegistration
  | .register _ _ | .registerKind _ | .registerAll _ _ => isTrue trivial
  | .update _ _ _ | .collect _ _ | .scrape _ _ | .renderText | .exportText | .clear => isFalse id

/-- The operation binds kinds as the fixed table has them, if it binds any, and values come from sources
alone. -/
def IsTabled : Operation → Prop
  | .register _ _ | .update _ _ _ => False
  | _ => True

/-- The source that the operation consults, and when. -/
def pass? : Operation → Option (Source × Instant)
  | .collect source now | .scrape source now => source.map (·, now)
  | _ => none

end Operation

namespace Families

variable {κ : Type} [DecidableEq κ]

theorem contains_eq (fs : Families κ) (k : κ) : fs.contains k = decide (k ∈ fs.map Family.kind) := by
  rw [Bool.eq_iff_iff]
  simp [contains, find?, List.find?_isSome]

omit [DecidableEq κ] in
theorem kinds_clear (fs : Families κ) : fs.clear.map Family.kind = fs.map Family.kind := by
  rw [clear, List.map_map]
  rfl

theorem contains_clear (fs : Families κ) (k : κ) : fs.clear.contains k = fs.contains k := by
  rw [contains_eq, contains_eq, kinds_clear]

end Families

namespace Registry

def perform (r : Registry) : Operation → Registry
  | .register arg entry => (r.register arg entry).2
  | .registerKind arg => (r.registerKind arg).2
  | .registerAll s args => (r.registerAll s args).2
  | .update arg labels value =>
    match r.update arg labels value with
    | .ok r' => r'
    | .error _ => r
  | .collect source now => (r.collect source now).2
  | .scrape source now => (r.scrape source now).2
  | .renderText => r.renderText.2
  | .exportText => r.exportText.2
  | .clear => r.clear

theorem perform_renderText (r : Registry) : r.perform .renderText = r := congrArg Prod.snd r.renderText_eq

theorem perform_exportText (r : Registry) : r.perform .exportText = r.clear := congrArg Prod.snd r.exportText_eq

def performAll (r : Registry) (ops : List Operation) : Registry := ops.foldl perform r

theorem performAll_append (r : Registry) (ops ops' : List Operation) :
    r.performAll (ops ++ ops') = (r.performAll ops).performAll ops' := List.foldl_append

/-- What every operation keeps is kept by a run. -/
theorem performAll_induction {P : Registry → Prop} {ops : List Operation}
    (h : ∀ op ∈ ops, ∀ r, P r → P (r.perform op)) {r : Registry} (hr : P r) : P (r.performAll ops) :=
  List.foldlRecOn ops perform hr fun r hr op hop => h op hop r hr

/-! ### Registrations -/

/-- The family that a registration binds to a kind. -/
def newFamily (r : Registry) (k : Kind) (spec : Spec) : Family Kind :=
  Family.make (r.subjectPath k.subject) k spec

theorem taken_eq_nil_iff {r : Registry} {f : Family Kind} :
    r.taken f = [] ↔ ∀ n ∈ f.claimedNames, n ∉ r.claimedNames := by
  simp [taken, List.eq_nil_iff_forall_not_mem, List.mem_mergeSort, List.mem_eraseDups]

theorem register_of_free {r : Registry} {k : Kind} {entry : Registration} {t : MetricType}
    (hk : r.families.contains k = false) (ht : MetricType.ofJson entry.type = .ok t)
    (hn : ∀ n ∈ (r.newFamily k ⟨entry.name, entry.help, entry.unit, t⟩).claimedNames, n ∉ r.claimedNames) :
    r.register (.kind k) entry = (.ok (), { r.withSubject k.subject with
      families := r.families ++ [r.newFamily k ⟨entry.name, entry.help, entry.unit, t⟩] }) := by
  have htaken := taken_eq_nil_iff.2 hn
  simp only [newFamily] at htaken
  simp [register_eq, KindArg.check, hk, ht, htaken, newFamily]

theorem registerKind_of_free {r : Registry} {k : Kind} (hk : r.families.contains k = false)
    (hn : ∀ n ∈ (r.newFamily k k.spec).claimedNames, n ∉ r.claimedNames) :
    r.registerKind (.kind k) = (.ok (), { r.withSubject k.subject with
      families := r.families ++ [r.newFamily k k.spec] }) := by
  have htype : MetricType.ofJson (tableEntry k).type = .ok k.spec.type := by
    simp [tableEntry, MetricType.ofJson]
  exact register_of_free hk htype hn

theorem registerKind_empty (path : String) (k : Kind) : (empty path).registerKind (.kind k) =
    (.ok (), { (empty path).withSubject k.subject with families := [(empty path).newFamily k k.spec] }) :=
  registerKind_of_free rfl fun _ _ => List.not_mem_nil

/-- A registration is refused for its configuration or for its type, or it adds an empty family. -/
theorem register_cases (r : Registry) (arg : KindArg) (entry : Registration) :
    (∃ e, r.register arg entry = (.error (.configuration e), r)) ∨
      (∃ subject e, MetricType.ofJson entry.type = .error e ∧
        r.register arg entry = (.error e, r.withSubject subject)) ∨
      ∃ k t, arg = .kind k ∧ MetricType.ofJson entry.type = .ok t ∧ r.families.contains k = false ∧
        (∀ n ∈ (r.newFamily k ⟨entry.name, entry.help, entry.unit, t⟩).claimedNames, n ∉ r.claimedNames) ∧
        r.register arg entry = (.ok (), { r.withSubject k.subject with
          families := r.families ++ [r.newFamily k ⟨entry.name, entry.help, entry.unit, t⟩] }) := by
  cases arg with
  | foreign v => exact .inl ⟨_, rfl⟩
  | kind k =>
    cases hk : r.families.contains k with
    | true => exact .inl ⟨.alreadyRegistered k.subject k, by simp [register_eq, KindArg.check, hk]⟩
    | false =>
      cases ht : MetricType.ofJson entry.type with
      | error e => exact .inr (.inl ⟨k.subject, e, rfl, by simp [register_eq, KindArg.check, hk, ht]⟩)
      | ok t =>
        cases hn : r.taken (r.newFamily k ⟨entry.name, entry.help, entry.unit, t⟩) with
        | nil =>
          have hfree := taken_eq_nil_iff.1 hn
          exact .inr (.inr ⟨k, t, rfl, rfl, hk, hfree, register_of_free hk ht hfree⟩)
        | cons n ns =>
          simp only [newFamily] at hn
          exact .inl ⟨.namesTaken (n :: ns), by simp [register_eq, KindArg.check, hk, ht, hn]⟩

theorem families_withSubject (r : Registry) (s : Subject) : (r.withSubject s).families = r.families := by
  unfold withSubject
  split <;> rfl

theorem path_withSubject (r : Registry) (s : Subject) : (r.withSubject s).path = r.path := by
  unfold withSubject
  split <;> rfl

theorem mem_withSubject (r : Registry) (s : Subject) : s ∈ (r.withSubject s).subjects := by
  unfold withSubject
  split
  · next h => exact List.contains_iff_mem.1 h
  · exact List.mem_append_right _ List.mem_cons_self

theorem withSubject_of_mem {r : Registry} {s : Subject} (h : s ∈ r.subjects) : r.withSubject s = r := by
  rw [withSubject, if_pos (List.contains_iff_mem.2 h)]

variable {c : Exposition.ClientLibrary}

/-- What the registration of every kind keeps is kept by all ways to bind kinds of the table. -/
theorem registerKind_induction {P : Registry → Prop}
    (h : ∀ r k, P r → P (r.registerWith c (.kind k) (tableEntry k)).2) {r : Registry} (hr : P r)
    (arg : KindArg) : P (r.registerKindWith c arg).2 := by
  cases arg with
  | kind k => exact h r k hr
  | foreign v => exact hr

theorem registerEach_induction {P : Registry → Prop}
    (h : ∀ r k, P r → P (r.registerWith c (.kind k) (tableEntry k)).2) {r : Registry} (hr : P r)
    (args : List KindArg) : P (r.registerEachWith c args).2 := by
  induction args generalizing r with
  | nil => exact hr
  | cons a args ih =>
    have ha := registerKind_induction h hr a
    rw [registerEachWith]
    split
    · next r' hr' =>
      rw [hr'] at ha
      exact ih ha
    · exact ha

theorem registerAll_induction {P : Registry → Prop}
    (h : ∀ r k, P r → P (r.registerWith c (.kind k) (tableEntry k)).2) {r : Registry} (hr : P r) (s : Subject)
    (args : List KindArg) : P (r.registerAllWith c s args).2 := by
  rw [registerAllWith]
  split
  · exact hr
  · exact registerEach_induction h hr args

end Registry

/-! ### Collections -/

namespace Families

theorem observeAll_induction {P : Families Kind → Prop} {subject : Subject} {now : Instant}
    {snapshots : List Snapshot}
    (h : ∀ s ∈ snapshots, s.isNamed subject = true → ∀ x ∈ s.readings now subject, ∀ fs, P fs →
      P (fs.observe (LabelSet.ofSnapshot s subject) x))
    {fs : Families Kind} (hfs : P fs) : P (fs.observeAll subject now snapshots) := by
  refine List.foldlRecOn _ _ hfs fun fs hfs s hs => ?_
  obtain ⟨hmem, hnamed⟩ := List.mem_filter.1 hs
  exact List.foldlRecOn _ _ hfs fun fs hfs x hx => h s hmem hnamed x hx fs hfs

@[simp] theorem clear_store (fs : Families Kind) (k : Kind) (l : LabelSet) (v : Json) :
    (fs.store k l v).clear = fs.clear := by
  simp only [store, clear, List.map_map]
  refine List.map_congr_left fun f _ => ?_
  simp only [Function.comp_apply]
  split <;> rfl

@[simp] theorem clear_observe (labels : LabelSet) (fs : Families Kind) (x : Reading) :
    (fs.observe labels x).clear = fs.clear := by
  unfold observe
  split
  · rfl
  · split
    · rfl
    · exact clear_store _ _ _ _

@[simp] theorem clear_observeAll (subject : Subject) (now : Instant) (fs : Families Kind)
    (snapshots : List Snapshot) : (fs.observeAll subject now snapshots).clear = fs.clear :=
  observeAll_induction (P := fun fs' => fs'.clear = fs.clear)
    (fun _ _ _ _ _ _ h => (clear_observe _ _ _).trans h) rfl

end Families

namespace Registry

/-- What the pass of every subject keeps is kept by a collection, also by one that ends early. -/
theorem collectEach_induction {P : Families Kind → Prop} {source : Source} {now : Instant}
    {ss : List Subject}
    (h : ∀ s ∈ ss, ∀ snapshots, (source s).load s = .ok snapshots → ∀ fs, P fs →
      P (Families.observeAll s now fs snapshots))
    {fs : Families Kind} (hfs : P fs) : P (collectEach source now fs ss).2 := by
  induction ss generalizing fs with
  | nil => exact hfs
  | cons s ss ih =>
    obtain ⟨hs, hss⟩ := List.forall_mem_cons.1 h
    rw [collectEach_cons]
    split
    · exact hfs
    · exact ih hss hfs
    · next snapshots hload => exact ih hss (hs snapshots hload fs hfs)

/-- A collection changes entries alone. -/
theorem clear_collect (r : Registry) (source : Option Source) (now : Instant) :
    (r.collect source now).2.clear = r.clear := by
  cases source with
  | none => rfl
  | some source =>
    have hclear : (collectEach source now r.families r.subjects).2.clear = r.families.clear :=
      collectEach_induction (P := fun fs => fs.clear = r.families.clear)
        (fun _ _ _ _ _ h => (Families.clear_observeAll _ _ _ _).trans h) rfl
    simp only [collect, clear, hclear]

theorem scrape_of_collect_ok {r : Registry} {source : Option Source} {now : Instant}
    {errors : List AdapterError} (h : (r.collect source now).1 = .ok errors) :
    (r.scrape source now).2 = r.clear := by
  rw [← clear_collect r source now]
  cases hc : r.collect source now with
  | mk result r' =>
    rw [hc] at h
    obtain rfl : result = .ok errors := h
    simp only [scrape, hc, exportText_eq]
    cases r'.render <;> rfl

theorem scrape_of_collect_error {r : Registry} {source : Option Source} {now : Instant}
    {e : CollectError} (h : (r.collect source now).1 = .error e) :
    r.scrape source now = (.error (.collect e), (r.collect source now).2) := by
  cases hc : r.collect source now with
  | mk result r' =>
    rw [hc] at h
    obtain rfl : result = .error e := h
    simp only [scrape, hc]

/-! ### What operations leave as it is -/

@[simp] theorem clear_clear (r : Registry) : r.clear.clear = r.clear := by
  simp only [clear, Families.clear, List.map_map]
  rfl

/-- A cycle keeps the families and the subjects; only entries come and go. -/
theorem clear_scrape (r : Registry) (source : Option Source) (now : Instant) :
    (r.scrape source now).2.clear = r.clear := by
  cases hc : (r.collect source now).1 with
  | ok errors => rw [scrape_of_collect_ok hc, clear_clear]
  | error e => rw [scrape_of_collect_error hc, clear_collect]

theorem clear_update {r r' : Registry} {arg : KindArg} {labels : LabelSet} {value : Json}
    (h : r.update arg labels value = .ok r') : r'.clear = r.clear := by
  cases arg with
  | foreign v => cases h
  | kind k =>
    simp only [update, KindArg.check] at h
    split at h
    · rw [Except.ok.inj h]
    split at h
    · cases h
    · rw [← Except.ok.inj h]
      simp only [clear, Families.clear_store]

/-- But for registrations, operations change entries alone. -/
theorem clear_perform {op : Operation} (h : ¬op.IsRegistration) (r : Registry) :
    (r.perform op).clear = r.clear := by
  cases op with
  | register arg entry => exact absurd trivial h
  | registerKind arg => exact absurd trivial h
  | registerAll s args => exact absurd trivial h
  | update arg labels value =>
    rw [perform]
    split
    · next r' hr' => exact clear_update hr'
    · rfl
  | collect source now => exact r.clear_collect source now
  | scrape source now => exact r.clear_scrape source now
  | renderText => rw [perform_renderText]
  | exportText => rw [perform_exportText, clear_clear]
  | clear => exact r.clear_clear

/-- What does not speak of entries is kept by a run when the registrations keep it, those of the run and those
of the fixed table. -/
theorem performAll_of_register {P : Registry → Prop} {Q : Registration → Prop} {ops : List Operation}
    (hclear : ∀ r : Registry, P r.clear ↔ P r)
    (hregister : ∀ r arg entry, Q entry → P r → P (r.register arg entry).2)
    (htable : ∀ k, Q (tableEntry k)) (hops : ∀ arg entry, .register arg entry ∈ ops → Q entry)
    {r : Registry} (hr : P r) : P (r.performAll ops) := by
  have hkind : ∀ r k, P r → P (r.register (.kind k) (tableEntry k)).2 :=
    fun r k => hregister r (.kind k) _ (htable k)
  have hother : ∀ op, ¬Operation.IsRegistration op → ∀ r, P r → P (r.perform op) := by
    intro op hop r hr
    rw [← hclear, clear_perform hop, hclear]
    exact hr
  refine performAll_induction (fun op hop r hr => ?_) hr
  cases op with
  | register arg entry => exact hregister r arg entry (hops arg entry hop) hr
  | registerKind arg => exact registerKind_induction hkind hr arg
  | registerAll s args => exact registerAll_induction hkind hr s args
  | _ => exact hother _ id r hr

/-! ### Registrations are blind to entries -/

theorem claimedNames_clear (r : Registry) : r.clear.claimedNames = r.claimedNames := by
  simp only [claimedNames, clear, Families.clear, List.flatMap_map]
  rfl

theorem clear_withSubject (r : Registry) (s : Subject) : (r.withSubject s).clear = r.clear.withSubject s := by
  have hsubjects : r.clear.subjects = r.subjects := rfl
  rw [withSubject, withSubject, hsubjects]
  split <;> rfl

theorem register_clear (r : Registry) (arg : KindArg) (entry : Registration) :
    r.clear.register arg entry = ((r.register arg entry).1, (r.register arg entry).2.clear) := by
  cases arg with
  | foreign v => rfl
  | kind k =>
    have hcontains : r.clear.families.contains k = r.families.contains k := Families.contains_clear _ _
    have htaken : ∀ f, r.clear.taken f = r.taken f := fun f => by
      rw [taken, taken, claimedNames_clear]
    have hpath : r.clear.subjectPath k.subject = r.subjectPath k.subject := rfl
    simp only [register_eq, KindArg.check, hcontains, htaken, hpath]
    split
    · rfl
    split
    · rw [clear_withSubject]
    split
    · rw [← clear_withSubject]
      simp [clear, Families.clear, Family.make, Family.clear, families_withSubject]
    · rfl

theorem registerKind_clear (r : Registry) (arg : KindArg) :
    r.clear.registerKind arg = ((r.registerKind arg).1, (r.registerKind arg).2.clear) := by
  cases arg with
  | kind k => exact r.register_clear (.kind k) (tableEntry k)
  | foreign v => rfl

theorem registerEach_clear (r : Registry) (args : List KindArg) :
    r.clear.registerEach args = ((r.registerEach args).1, (r.registerEach args).2.clear) := by
  induction args generalizing r with
  | nil => rfl
  | cons a args ih =>
    rw [registerEach_cons, registerEach_cons, registerKind_clear]
    cases hr : r.registerKind a with
    | mk result r' =>
      cases result with
      | ok u => exact ih r'
      | error e => rfl

theorem registerAll_clear (r : Registry) (s : Subject) (args : List KindArg) :
    r.clear.registerAll s args = ((r.registerAll s args).1, (r.registerAll s args).2.clear) := by
  rw [registerAll_eq, registerAll_eq]
  split
  · rfl
  · exact r.registerEach_clear args

theorem perform_clear {op : Operation} (h : op.IsRegistration) (r : Registry) :
    r.clear.perform op = (r.perform op).clear := by
  cases op with
  | register arg entry => exact congrArg Prod.snd (r.register_clear arg entry)
  | registerKind arg => exact congrArg Prod.snd (r.registerKind_clear arg)
  | registerAll s args => exact congrArg Prod.snd (r.registerAll_clear s args)
  | _ => exact absurd h id

/-- But for entries, a run leaves what its registrations alone would leave. -/
theorem clear_performAll (r : Registry) (ops : List Operation) :
    (r.performAll ops).clear = r.clear.performAll (ops.filter Operation.IsRegistration) := by
  induction ops generalizing r with
  | nil => rfl
  | cons op ops ih =>
    have hrest : (r.performAll (op :: ops)).clear =
        (r.perform op).clear.performAll (ops.filter Operation.IsRegistration) := ih _
    by_cases hop : op.IsRegistration
    · rw [hrest, List.filter_cons_of_pos (by simpa using hop), ← perform_clear hop]
      rfl
    · rw [hrest, List.filter_cons_of_neg (by simpa using hop), clear_perform hop]

end Registry

end BpfExporter
