import BpfExporter.Proofs.Cycles

/-! The passes of a collection, subject by subject. The families of a registry fall apart into those of each
subject, a pass writes to those of its own subject alone, and a subject is consulted once. So the failure of a
listing costs its own subject and no other. -/
namespace BpfExporter

namespace Yield

def records : Yield → List Record
  | .done | .failed _ => []
  | .record r rest => r :: rest.records

def failure? : Yield → Option ListingFailure
  | .done => none
  | .failed f => some f
  | .record _ rest => rest.failure?

theorem listing_of_failure? {y : Yield} {f : ListingFailure} (h : y.failure? = some f) :
    y.listing = .error f := by
  induction y with
  | done => cases h
  | failed g => exact congrArg Except.error (Option.some.inj h)
  | record r rest ih => rw [listing, ih h]; rfl

theorem listing_of_no_failure {y : Yield} (h : y.failure? = none) : y.listing = .ok y.records := by
  induction y with
  | done => rfl
  | failed g => cases h
  | record r rest ih => rw [listing, ih h]; rfl

theorem isTimely_listing {y : Yield} (h : ∀ r ∈ y.records, ∃ snapshot?, r.load? = .ok snapshot?) :
    y.listing.IsTimely := by
  intro records hlisting record hrecord
  cases hfailure : y.failure? with
  | some f =>
    rw [listing_of_failure? hfailure] at hlisting
    cases hlisting
  | none =>
    rw [listing_of_no_failure hfailure] at hlisting
    obtain rfl := Except.ok.inj hlisting
    exact Record.exists_load?_iff.1 (h record hrecord)

end Yield

def Source.ofYields (yields : Subject → Yield) : Source := fun s => (yields s).listing

/-! ### The families of one subject -/

namespace Families

variable {fs : Families Kind} {k : Kind} {s : Subject}

def ofSubject (fs : Families Kind) (s : Subject) : Families Kind := fs.filter fun f => f.kind.subject = s

theorem ofSubject_store (fs : Families Kind) (k : Kind) (l : LabelSet) (v : Json) (s : Subject) :
    (fs.store k l v).ofSubject s = (fs.ofSubject s).store k l v := by
  have hsubject : ((fun f : Family Kind => decide (f.kind.subject = s)) ∘
      fun f => if f.kind == k then f.set l v else f) = fun f => decide (f.kind.subject = s) := by
    funext f
    simp only [Function.comp_apply]
    split <;> rfl
  simp only [ofSubject, store, List.filter_map, hsubject]

theorem store_ofSubject_of_ne (h : k.subject ≠ s) (l : LabelSet) (v : Json) :
    (fs.ofSubject s).store k l v = fs.ofSubject s := by
  have hstay : ∀ f ∈ fs.ofSubject s, (if f.kind == k then f.set l v else f) = f := by
    intro f hf
    have hs : f.kind.subject = s := of_decide_eq_true (List.mem_filter.1 hf).2
    have hne : f.kind ≠ k := fun e => h (e ▸ hs)
    simp [hne]
  rw [store, List.map_congr_left hstay, List.map_id']

theorem find?_ofSubject (fs : Families Kind) (k : Kind) :
    (fs.ofSubject k.subject).find? k = fs.find? k := by
  rw [find?, ofSubject, List.find?_filter, find?]
  congr 1
  funext f
  by_cases hf : f.kind = k <;> simp [hf]

/-- A reading is observed among the families of its subject, and there alone. -/
theorem ofSubject_observe (l : LabelSet) (fs : Families Kind) (x : Reading) (s : Subject) :
    (fs.observe l x).ofSubject s =
      if x.kind.subject = s then (fs.ofSubject s).observe l x else fs.ofSubject s := by
  by_cases hs : x.kind.subject = s
  · subst hs
    rw [if_pos rfl, observe, observe, find?_ofSubject]
    cases fs.find? x.kind with
    | none => rfl
    | some f =>
      simp only
      split
      · rfl
      · exact ofSubject_store _ _ _ _ _
  · rw [if_neg hs, observe]
    cases fs.find? x.kind with
    | none => rfl
    | some f =>
      simp only
      split
      · rfl
      · rw [ofSubject_store, store_ofSubject_of_ne hs]

end Families

theorem Snapshot.subject_of_mem_readings {snapshot : Snapshot} {now : Instant} {s : Subject} {x : Reading}
    (hx : x ∈ snapshot.readings now s) : x.kind.subject = s := by
  have hnumbers : ∀ ks : List Kind, (∀ k ∈ ks, k.subject = s) → ∀ x ∈ snapshot.numberReadings ks,
      x.kind.subject = s := by
    intro ks hks x hx
    obtain ⟨k, hk, hread⟩ := List.mem_filterMap.1 hx
    obtain ⟨v, -, rfl⟩ := Option.map_eq_some_iff.1 hread
    exact hks k hk
  cases s with
  | prog =>
    rcases List.mem_append.1 hx with hx | hx
    · obtain ⟨n, -, rfl⟩ := Option.map_eq_some_iff.1 (Option.mem_toList.1 hx)
      rfl
    · exact hnumbers _ (by decide) x hx
  | map => exact hnumbers _ (by decide) x hx
  | link =>
    obtain rfl := List.mem_singleton.1 hx
    rfl

namespace Families

theorem ofSubject_observeAll (s : Subject) (now : Instant) (fs : Families Kind) (snapshots : List Snapshot)
    (t : Subject) :
    (fs.observeAll s now snapshots).ofSubject t =
      if s = t then (fs.ofSubject t).observeAll s now snapshots else fs.ofSubject t := by
  -- First the readings of one snapshot, then the snapshots; the families are general in both inductions.
  have hreadings : ∀ (l : LabelSet) (xs : List Reading), (∀ x ∈ xs, x.kind.subject = s) →
      ∀ fs : Families Kind, (xs.foldl (observe l) fs).ofSubject t =
        if s = t then xs.foldl (observe l) (fs.ofSubject t) else fs.ofSubject t := by
    intro l xs hxs
    induction xs with
    | nil => intro fs; simp
    | cons x xs ih =>
      intro fs
      obtain ⟨hx, hxs⟩ := List.forall_mem_cons.1 hxs
      rw [List.foldl_cons, List.foldl_cons, ih hxs, ofSubject_observe, hx]
      split <;> rfl
  unfold observeAll
  induction snapshots.filter (·.isNamed s) generalizing fs with
  | nil => simp
  | cons snapshot snapshots ih =>
    rw [List.foldl_cons, List.foldl_cons, ih, observeSnapshot,
      hreadings _ _ fun x hx => Snapshot.subject_of_mem_readings hx]
    split <;> rfl

end Families

namespace Registry

/-! ### The passes of all subjects -/

/-- The pass of one subject; a listing that fails leaves the families as they are. -/
def pass (source : Source) (now : Instant) (s : Subject) (fs : Families Kind) : Families Kind :=
  match (source s).load s with
  | .ok snapshots => fs.observeAll s now snapshots
  | .error _ => fs

def adapterError? (source : Source) (s : Subject) : Option AdapterError :=
  match source s with
  | .error f => some (f.forSubject s)
  | .ok _ => none

theorem ofSubject_pass (source : Source) (now : Instant) (s : Subject) (fs : Families Kind) (t : Subject) :
    (pass source now s fs).ofSubject t =
      if s = t then pass source now s (fs.ofSubject t) else fs.ofSubject t := by
  unfold pass
  cases (source s).load s with
  | ok snapshots => exact Families.ofSubject_observeAll s now fs snapshots t
  | error e => simp

theorem adapterError?_ofYields (yields : Subject → Yield) :
    adapterError? (.ofYields yields) = fun s => (yields s).failure?.map (·.forSubject s) := by
  funext s
  cases hfailure : (yields s).failure? with
  | some f => simp [adapterError?, Source.ofYields, Yield.listing_of_failure? hfailure]
  | none => simp [adapterError?, Source.ofYields, Yield.listing_of_no_failure hfailure]

/-- A collection of timely listings is one pass after another, with the failures in the same order. -/
theorem collectEach_eq_passes {source : Source} {now : Instant} {ss : List Subject}
    (h : source.IsTimely ss) (fs : Families Kind) :
    collectEach source now fs ss =
      (.ok (ss.filterMap (adapterError? source)), ss.foldl (fun fs s => pass source now s fs) fs) := by
  induction ss generalizing fs with
  | nil => rfl
  | cons s ss ih =>
    obtain ⟨hs, hss⟩ := List.forall_mem_cons.1 h
    rw [collectEach_cons, List.foldl_cons, List.filterMap_cons, pass, adapterError?]
    cases hsource : source s with
    | error f =>
      simp only [Listing.load, ih hss]
      rfl
    | ok records =>
      obtain ⟨snapshots, hload⟩ := Record.exists_loadAll_iff.2 (hs records hsource)
      simp only [Listing.load, hload, ih hss]

theorem collect_eq_passes {r : Registry} {source : Source} (h : source.IsTimely r.subjects) (now : Instant) :
    r.collect (some source) now = (.ok (r.subjects.filterMap (adapterError? source)),
      { r with families := r.subjects.foldl (fun fs s => pass source now s fs) r.families }) := by
  simp only [collect, collectEach_eq_passes h]
  rfl

/-- Passes of distinct subjects do not meet: each finds the families of its subject as they were at first. -/
theorem ofSubject_passes (source : Source) (now : Instant) {ss : List Subject} (hss : ss.Nodup)
    (fs : Families Kind) (t : Subject) :
    (ss.foldl (fun fs s => pass source now s fs) fs).ofSubject t =
      if t ∈ ss then pass source now t (fs.ofSubject t) else fs.ofSubject t := by
  induction ss generalizing fs with
  | nil => rfl
  | cons s ss ih =>
    obtain ⟨hs, hss⟩ := List.nodup_cons.1 hss
    rw [List.foldl_cons, ih hss, ofSubject_pass]
    by_cases hst : s = t
    -- The subject has had its pass now, and is not among those that are left.
    · subst hst
      simp [hs]
    · have hts : ¬t = s := fun e => hst e.symm
      simp [hst, hts]

/-! ### The subjects of a registry -/

variable {r : Registry}

theorem subjects_withSubject (r : Registry) (s : Subject) :
    (r.withSubject s).subjects = if s ∈ r.subjects then r.subjects else r.subjects ++ [s] := by
  simp only [withSubject, List.contains_iff_mem]
  split <;> rfl

/-- A subject is consulted once, and one that has a family is consulted. -/
structure Consults (r : Registry) : Prop where
  nodup : r.subjects.Nodup
  mem : ∀ f ∈ r.families, f.kind.subject ∈ r.subjects

theorem Consults.withSubject (h : r.Consults) (s : Subject) :
    (r.withSubject s).Consults ∧ s ∈ (r.withSubject s).subjects := by
  have hmem : ∀ t, t ∈ r.subjects ∨ t = s → t ∈ (r.withSubject s).subjects := by
    intro t ht
    rw [subjects_withSubject]
    by_cases hs : s ∈ r.subjects
    · rw [if_pos hs]
      exact ht.elim id fun e => e ▸ hs
    · rw [if_neg hs]
      simpa using ht
  refine ⟨⟨?_, fun f hf => ?_⟩, hmem s (.inr rfl)⟩
  · rw [subjects_withSubject]
    by_cases hs : s ∈ r.subjects
    · rw [if_pos hs]
      exact h.nodup
    · rw [if_neg hs, List.nodup_append]
      refine ⟨h.nodup, by simp, fun a ha b hb => ?_⟩
      rw [List.mem_singleton.1 hb]
      exact fun e => hs (e ▸ ha)
  · rw [families_withSubject] at hf
    exact hmem _ (.inl (h.mem f hf))

theorem Consults.register (h : r.Consults) (arg : KindArg) (entry : Registration) :
    (r.register arg entry).2.Consults := by
  rcases r.register_cases arg entry with ⟨_, hsame⟩ | ⟨s, _, -, hsame⟩ | ⟨k, t, -, -, -, -, hnew⟩
  · rw [hsame]
    exact h
  · rw [hsame]
    exact (h.withSubject s).1
  · obtain ⟨hconsults, hk⟩ := h.withSubject k.subject
    rw [hnew]
    refine ⟨hconsults.nodup, fun f hf => ?_⟩
    rcases List.mem_append.1 hf with hf | hf
    · exact hconsults.mem f (by rwa [families_withSubject])
    · rw [List.mem_singleton.1 hf]
      exact hk

theorem consults_clear_iff (r : Registry) : r.clear.Consults ↔ r.Consults := by
  have hkinds : (∀ f ∈ r.clear.families, f.kind.subject ∈ r.subjects) ↔
      ∀ f ∈ r.families, f.kind.subject ∈ r.subjects := List.forall_mem_map
  exact ⟨fun h => ⟨h.nodup, hkinds.1 h.mem⟩, fun h => ⟨h.nodup, hkinds.2 h.mem⟩⟩

theorem consults_performAll (path : String) (ops : List Operation) :
    ((empty path).performAll ops).Consults :=
  performAll_of_register (Q := fun _ => True) consults_clear_iff (fun _ arg entry _ h => h.register arg entry)
    (fun _ => trivial) (fun _ _ _ => trivial) ⟨List.nodup_nil, fun _ hf => absurd hf List.not_mem_nil⟩

theorem eraseDups_concat {α : Type} [DecidableEq α] (as : List α) (a : α) :
    (as ++ [a]).eraseDups = if a ∈ as then as.eraseDups else as.eraseDups ++ [a] := by
  by_cases h : a ∈ as
  · have hnone : [a].removeAll as = [] := by simp [List.removeAll, h]
    rw [List.eraseDups_append, hnone, if_pos h, List.eraseDups_nil, List.append_nil]
  · have hall : [a].removeAll as = [a] := by simp [List.removeAll, h]
    rw [List.eraseDups_append, hall, if_neg h, List.eraseDups_cons]
    rfl

/-- The subjects are those of the families, in the order in which they first come. -/
def FollowsFamilies (r : Registry) : Prop := r.subjects = (r.families.map fun f => f.kind.subject).eraseDups

theorem FollowsFamilies.register (h : r.FollowsFamilies) (arg : KindArg) {entry : Registration}
    (hentry : ∃ t, MetricType.ofJson entry.type = .ok t) : (r.register arg entry).2.FollowsFamilies := by
  obtain ⟨t, ht⟩ := hentry
  rcases r.register_cases arg entry with ⟨_, hsame⟩ | ⟨_, e, he, -⟩ | ⟨k, t, -, -, -, -, hnew⟩
  · rw [hsame]
    exact h
  · rw [ht] at he
    cases he
  · have hlast : (r.newFamily k ⟨entry.name, entry.help, entry.unit, t⟩).kind.subject = k.subject := rfl
    have hmem : k.subject ∈ r.families.map (fun f => f.kind.subject) ↔ k.subject ∈ r.subjects := by
      rw [h, List.mem_eraseDups]
    rw [hnew, FollowsFamilies, List.map_append, List.map_singleton, hlast, eraseDups_concat, ← h,
      subjects_withSubject]
    simp only [hmem]

theorem followsFamilies_clear_iff (r : Registry) : r.clear.FollowsFamilies ↔ r.FollowsFamilies := by
  have hkinds : r.clear.families.map (fun f => f.kind.subject) = r.families.map fun f => f.kind.subject := by
    rw [clear, Families.clear, List.map_map]
    rfl
  rw [FollowsFamilies, FollowsFamilies, hkinds]
  rfl

/-- Where no registration is refused for its type, a subject comes with the first family of its own. -/
theorem followsFamilies_performAll (path : String) {ops : List Operation}
    (h : ∀ arg entry, .register arg entry ∈ ops → ∃ t, MetricType.ofJson entry.type = .ok t) :
    ((empty path).performAll ops).FollowsFamilies := by
  have htable : ∀ k, ∃ t, MetricType.ofJson (tableEntry k).type = .ok t := fun k =>
    ⟨k.spec.type, by simp [tableEntry, MetricType.ofJson]⟩
  exact performAll_of_register followsFamilies_clear_iff (fun _ arg _ hentry hr => hr.register arg hentry)
    htable h rfl

end Registry

/-- Sources fail independently. A subject that is consulted is so once, in the order in which the subjects came
to be registered, and the failures of a collection are those of the listings of these subjects, one for each in
the same order. A subject whose listing fails keeps its families as they are, however many records came before
the failure; the families of any other are what its pass alone makes of them. Nothing but entries changes. -/
theorem collect_each_subject {path : String} {ops : List Operation} {r : Registry}
    (hr : r = (Registry.empty path).performAll ops) {yields : Subject → Yield}
    (hyields : ∀ s ∈ r.subjects, ∀ record ∈ (yields s).records, ∃ snapshot?, record.load? = .ok snapshot?)
    (now : Instant) :
    r.subjects.Nodup ∧ (∀ f ∈ r.families, f.kind.subject ∈ r.subjects) ∧
      ((∀ arg entry, .register arg entry ∈ ops → ∃ t, MetricType.ofJson entry.type = .ok t) →
        r.subjects = (r.families.map fun f => f.kind.subject).eraseDups) ∧
      ∃ r', r.collect (some (.ofYields yields)) now =
          (.ok (r.subjects.filterMap fun s => (yields s).failure?.map (·.forSubject s)), r') ∧
        r'.clear = r.clear ∧
        (∀ s ∈ r.subjects, (yields s).failure? ≠ none → r'.familiesOf s = r.familiesOf s) ∧
        ∀ s ∈ r.subjects, (yields s).failure? = none → r'.familiesOf s =
          (Registry.collectEach (.ofYields yields) now (r.familiesOf s) [s]).2 := by
  have hconsults : r.Consults := by
    rw [hr]
    exact Registry.consults_performAll path ops
  have hfollows : (∀ arg entry, .register arg entry ∈ ops → ∃ t, MetricType.ofJson entry.type = .ok t) →
      r.FollowsFamilies := by
    intro h
    rw [hr]
    exact Registry.followsFamilies_performAll path h
  have htimely : (Source.ofYields yields).IsTimely r.subjects :=
    fun s hs => Yield.isTimely_listing (hyields s hs)
  have hcollect := Registry.collect_eq_passes htimely now
  have hfamilies := Registry.ofSubject_passes (.ofYields yields) now hconsults.nodup r.families
  have hclear := r.clear_collect (some (.ofYields yields)) now
  rw [hcollect] at hclear
  refine ⟨hconsults.nodup, hconsults.mem, hfollows, _, ?_, hclear, fun s hs hfailure => ?_, fun s hs hfailure => ?_⟩
  · rw [hcollect, Registry.adapterError?_ofYields]
  · obtain ⟨f, hf⟩ := Option.ne_none_iff_exists'.1 hfailure
    refine (hfamilies s).trans ?_
    rw [if_pos hs, Registry.pass, Source.ofYields, Yield.listing_of_failure? hf]
    rfl
  · have halone : Source.IsTimely (.ofYields yields) [s] := by
      intro t ht
      rw [List.mem_singleton.1 ht]
      exact htimely s hs
    rw [Registry.collectEach_eq_passes halone]
    refine (hfamilies s).trans ?_
    rw [if_pos hs]
    rfl

/-- A program whose listing fails behind it, and a map. -/
def yieldsAcross : Subject → Yield
  | .prog => .record ranFourTimes (.failed (.system "denied"))
  | .map => .record (.raw (.obj [("id", .int 3), ("name", .str "m"),
      ("numeric_fields", .obj [("bytes_key", .int 4)])])) .done
  | .link => .done

theorem collect_each_subject_denied : ∃ r',
    runsAndKeys.collect (some (.ofYields yieldsAcross)) ⟨1772366400000000⟩ =
        (.ok [⟨"prog", "listing failed: denied"⟩], r') ∧
      r'.familiesOf .prog = runsAndKeys.familiesOf .prog ∧
      (r'.familiesOf .map).map Family.entries = [[(.map ⟨3, "", "m"⟩, .int 4)]] := by
  have hyields : ∀ s ∈ runsAndKeys.subjects, ∀ record ∈ (yieldsAcross s).records,
      ∃ snapshot?, record.load? = .ok snapshot? := by
    intro s _ record hrecord
    cases s with
    | prog =>
      obtain rfl := List.mem_singleton.1 hrecord
      exact ⟨_, rfl⟩
    | map =>
      obtain rfl := List.mem_singleton.1 hrecord
      exact ⟨_, rfl⟩
    | link => cases hrecord
  have hruns : runsAndKeys = (Registry.empty "bpf").performAll
      [.registerKind (.kind (.prog .runCount)), .registerKind (.kind (.map .keySize))] := rfl
  have hsubjects : runsAndKeys.subjects = [.prog, .map] := by
    rw [families_runsAndKeys]
  obtain ⟨-, -, -, r', hcollect, -, hfailed, hpassed⟩ :=
    collect_each_subject hruns hyields ⟨1772366400000000⟩
  refine ⟨r', ?_, ?_, ?_⟩
  · rw [hcollect, hsubjects]
    rfl
  · exact hfailed .prog (by simp [hsubjects]) (by simp [yieldsAcross, Yield.failure?])
  · rw [hpassed .map (by simp [hsubjects]) rfl, families_runsAndKeys]
    rfl

end BpfExporter
