import BpfExporter.Proofs.ReadableNames
import BpfExporter.Proofs.SubjectPasses

/-! Refused registrations. A registration enters its subject and its family before the names are looked at, and
takes them back when one of them is taken; names are never taken by families of another subject, so nothing is
left of it. A type that is none is found out in between, and then a subject without families stays: each later
collection consults it, and its listing can fail. -/
namespace BpfExporter

namespace Exposition

theorem exists_dropTotal_eq (front rest : String) :
    ∃ rest', dropTotal (front ++ "_" ++ rest) = front ++ rest' := by
  obtain ⟨tail, rfl | rfl, hbase⟩ := exists_eq_dropTotal (front ++ "_" ++ rest)
  · rw [String.append_empty] at hbase
    exact ⟨"_" ++ rest, by rw [← hbase, String.append_assoc]⟩
  · have hlists := congrArg String.toList hbase
    simp only [String.toList_append, List.append_assoc] at hlists
    rcases List.append_eq_append_iff.1 hlists with ⟨cs, hdropped, -⟩ | ⟨cs, hfront, htotal⟩
    · refine ⟨String.ofList cs, String.toList_inj.1 ?_⟩
      rw [hdropped, String.toList_append, String.toList_ofList]
    -- The only line in `_total` is its first character.
    · have hcs : cs = [] := by
        cases cs with
        | nil => rfl
        | cons c cs =>
          have hline : '_' ∈ "total".toList := by
            rw [show "total".toList = "_total".toList.tail from rfl, htotal]
            simp
          exact absurd hline (by decide)
      refine ⟨"", String.toList_inj.1 ?_⟩
      rw [String.append_empty, hfront, hcs, List.append_nil]

theorem exists_exposedName_eq (path : String) (s : Subject) (spec : Spec) :
    ∃ rest, exposedName (baseName path s spec) spec.unit spec.type = path ++ "_" ++ s.name ++ rest := by
  cases spec.type with
  | counter =>
    obtain ⟨kept, hkept⟩ := exists_dropTotal_eq (path ++ "_" ++ s.name) spec.name
    obtain ⟨tail, htail⟩ := exists_withUnit_eq (dropTotal (baseName path s spec)) spec.unit
    exact ⟨kept ++ tail, by rw [exposedName, htail, baseName, hkept, String.append_assoc]⟩
  | gauge =>
    obtain ⟨tail, htail⟩ := exists_withUnit_eq (baseName path s spec) spec.unit
    refine ⟨"_" ++ spec.name ++ tail, ?_⟩
    rw [exposedName, htail, baseName]
    simp only [String.append_assoc]

theorem exists_claimedName_eq {name n : String} {t : MetricType} (hn : n ∈ claimedNames name t) :
    ∃ ending, n = name ++ ending := by
  cases t with
  | counter =>
    simp only [claimedNames, List.mem_cons, List.not_mem_nil, or_false] at hn
    rcases hn with rfl | rfl | rfl
    · exact ⟨"", String.append_empty.symm⟩
    · exact ⟨"_total", rfl⟩
    · exact ⟨"_created", rfl⟩
  | gauge => exact ⟨"", (List.mem_singleton.1 hn).trans String.append_empty.symm⟩

end Exposition

theorem Subject.eq_of_name_append {s t : Subject} {path a b : String}
    (h : path ++ "_" ++ s.name ++ a = path ++ "_" ++ t.name ++ b) : s = t := by
  have hnames : s.name.toList ++ a.toList = t.name.toList ++ b.toList := by
    have hlists := congrArg String.toList h
    simp only [String.toList_append, List.append_assoc, List.append_cancel_left_eq] at hlists
    exact hlists
  cases s <;> cases t <;> simp [Subject.name] at hnames ⊢

theorem MetricType.eq_of_ofJson_error {v : Json} {e : RegisterError} (h : MetricType.ofJson v = .error e) :
    e = .invalidType v := by
  unfold MetricType.ofJson at h
  split at h
  · split at h
    · cases h
    · exact (Except.error.inj h).symm
  · exact (Except.error.inj h).symm

namespace Registry

variable {path : String} {r : Registry}

theorem IsNamed.exists_claimedName_eq (h : r.IsNamed path) {f : Family Kind} (hf : f ∈ r.families) {n : String}
    (hn : n ∈ f.claimedNames) : ∃ rest, n = path ++ "_" ++ f.kind.subject.name ++ rest := by
  obtain ⟨ending, rfl⟩ := Exposition.exists_claimedName_eq hn
  obtain ⟨rest, hname⟩ := Exposition.exists_exposedName_eq path f.kind.subject f.spec
  rw [Family.exposedName, h.2 f hf, hname]
  exact ⟨rest ++ ending, String.append_assoc⟩

/-- A name is only ever taken by a family of the same subject. -/
theorem IsNamed.subject_eq_of_claimed (h : r.IsNamed path) {f : Family Kind} (hf : f ∈ r.families) {k : Kind}
    {spec : Spec} {n : String} (hn : n ∈ (r.newFamily k spec).claimedNames) (hnf : n ∈ f.claimedNames) :
    f.kind.subject = k.subject := by
  obtain ⟨ending, rfl⟩ := Exposition.exists_claimedName_eq hn
  obtain ⟨a, ha⟩ := Exposition.exists_exposedName_eq path k.subject spec
  obtain ⟨b, hb⟩ := h.exists_claimedName_eq hf hnf
  have hnew : (r.newFamily k spec).exposedName = path ++ "_" ++ k.subject.name ++ a := by
    rw [← ha, ← h.1]
    rfl
  rw [hnew, String.append_assoc] at hb
  exact Subject.eq_of_name_append hb.symm

/-! ### The steps of a registration -/

/-- The registry without the family of a kind, and without the subject if no other family of it is left. -/
def takeBack (r : Registry) (k : Kind) : Registry :=
  let kept := r.families.erase k
  { r with
    subjects := if kept.any fun f => f.kind.subject = k.subject then r.subjects else r.subjects.erase k.subject
    families := kept }

/-- The registration as it is carried out: the subject is entered, then the family, and the family is taken back
when one of its names is taken. -/
def registerInSteps (r : Registry) (arg : KindArg) (entry : Registration) :
    Except RegisterError Unit × Registry :=
  match arg.check with
  | .error e => (.error (.configuration e), r)
  | .ok k =>
    let entered := r.withSubject k.subject
    if entered.families.contains k then (.error (.configuration (.alreadyRegistered k.subject k)), entered)
    else match MetricType.ofJson entry.type with
      | .error e => (.error e, entered)
      | .ok t =>
        let f := r.newFamily k ⟨entry.name, entry.help, entry.unit, t⟩
        let held : Registry := { entered with families := entered.families ++ [f] }
        match r.taken f with
        | [] => (.ok (), held)
        | names => (.error (.configuration (.namesTaken names)), held.takeBack k)

theorem mem_kinds_of_contains {k : Kind} (h : r.families.contains k = true) : ∃ f ∈ r.families, f.kind = k := by
  rw [Families.contains_eq, decide_eq_true_iff] at h
  exact List.mem_map.1 h

theorem takeBack_append {k : Kind} (hk : r.families.contains k = false)
    (hsubject : ∃ f ∈ r.families, f.kind.subject = k.subject) {g : Family Kind} (hg : g.kind = k) :
    takeBack { r with families := r.families ++ [g] } k = r := by
  have hother : ∀ f ∈ r.families, (f.kind != k) = true := by
    intro f hf
    rw [Families.contains_eq, decide_eq_false_iff_not] at hk
    exact bne_iff_ne.2 fun he => hk (he ▸ List.mem_map_of_mem hf)
  have hkept : Families.erase (r.families ++ [g]) k = r.families := by
    rw [Families.erase, List.filter_append, List.filter_eq_self.2 hother]
    simp [hg]
  have hany : (r.families.any fun f => decide (f.kind.subject = k.subject)) = true := by
    simpa using hsubject
  simp only [takeBack, hkept, hany, if_true]

/-- The steps of a registration come to the registration. -/
theorem registerInSteps_eq (hnamed : r.IsNamed path) (hconsults : r.Consults) (arg : KindArg)
    (entry : Registration) : r.registerInSteps arg entry = r.register arg entry := by
  cases arg with
  | foreign v => rfl
  | kind k =>
    simp only [registerInSteps, register_eq, KindArg.check, families_withSubject]
    cases hk : r.families.contains k with
    | true =>
      obtain ⟨f, hf, hfk⟩ := mem_kinds_of_contains hk
      have hmem : k.subject ∈ r.subjects := hfk ▸ hconsults.mem f hf
      simp only [if_true, withSubject_of_mem hmem]
    | false =>
      cases MetricType.ofJson entry.type with
      | error e => rfl
      | ok t =>
        have hfamily : Family.make (r.subjectPath k.subject) k ⟨entry.name, entry.help, entry.unit, t⟩ =
            r.newFamily k ⟨entry.name, entry.help, entry.unit, t⟩ := rfl
        simp only [hfamily]
        cases hn : r.taken (r.newFamily k ⟨entry.name, entry.help, entry.unit, t⟩) with
        | nil => rfl
        | cons n ns =>
          -- Who took the name is of the same subject, which so was consulted before.
          obtain ⟨f, hf, hsubject⟩ : ∃ f ∈ r.families, f.kind.subject = k.subject := by
            have hn' : n ∈ r.taken (r.newFamily k ⟨entry.name, entry.help, entry.unit, t⟩) :=
              hn ▸ List.mem_cons_self
            simp only [taken, List.mem_mergeSort, List.mem_eraseDups, List.mem_filter,
              List.contains_iff_mem] at hn'
            obtain ⟨f, hf, hnf⟩ := List.mem_flatMap.1 hn'.2
            exact ⟨f, hf, hnamed.subject_eq_of_claimed hf hn'.1 hnf⟩
          have hmem : k.subject ∈ r.subjects := hsubject ▸ hconsults.mem f hf
          have htaken := takeBack_append hk ⟨f, hf, hsubject⟩
            (g := r.newFamily k ⟨entry.name, entry.help, entry.unit, t⟩) rfl
          simp only [withSubject_of_mem hmem, htaken]

/-! ### One more subject to consult -/

variable {s : Subject}

theorem observeAll_of_ne {fs : Families Kind} (h : ∀ f ∈ fs, f.kind.subject ≠ s) (now : Instant)
    (snapshots : List Snapshot) : fs.observeAll s now snapshots = fs := by
  refine Families.observeAll_induction (P := (· = fs)) (fun snapshot _ _ x hx fs' hfs' => ?_) rfl
  have hnone : fs.find? x.kind = none := by
    rw [Families.find?, List.find?_eq_none]
    intro f hf he
    exact h f hf ((congrArg Kind.subject (eq_of_beq he)).trans (Snapshot.subject_of_mem_readings hx))
  rw [hfs', Families.observe, hnone]

theorem kinds_collectEach (source : Source) (now : Instant) (fs : Families Kind) (ss : List Subject) :
    (collectEach source now fs ss).2.map Family.kind = fs.map Family.kind := by
  refine collectEach_induction (P := fun fs' => fs'.map Family.kind = fs.map Family.kind)
    (fun t _ snapshots _ fs' hfs' => ?_) rfl
  rw [← hfs', ← Families.kinds_clear, Families.clear_observeAll, Families.kinds_clear]

theorem collectEach_append (source : Source) (now : Instant) (fs : Families Kind) (ss ss' : List Subject) :
    collectEach source now fs (ss ++ ss') = match collectEach source now fs ss with
      | (.error e, fs') => (.error e, fs')
      | (.ok errors, fs') =>
        ((collectEach source now fs' ss').1.map (errors ++ ·), (collectEach source now fs' ss').2) := by
  induction ss generalizing fs with
  | nil =>
    simp only [List.nil_append, collectEach]
    cases collectEach source now fs ss' with
    | mk result fs' => cases result <;> rfl
  | cons s ss ih =>
    simp only [List.cons_append, collectEach_cons]
    cases (source s).load s with
    | ok snapshots => exact ih _
    | error e =>
      cases e with
      | clock e => rfl
      | adapter e =>
        simp only [ih]
        cases collectEach source now fs ss with
        | mk result fs' =>
          cases result with
          | error c => rfl
          | ok errors =>
            simp only [Except.map]
            cases (collectEach source now fs' ss').1 <;> rfl

theorem collectEach_of_ne {fs : Families Kind} (h : ∀ f ∈ fs, f.kind.subject ≠ s) (source : Source)
    (now : Instant) : collectEach source now fs [s] = ((collectEach source now [] [s]).1, fs) := by
  simp only [collectEach_cons]
  cases (source s).load s with
  | ok snapshots => simp only [observeAll_of_ne h, collectEach]
  | error e => cases e <;> rfl

/-- A collection that consults one more subject, which has no families, comes to what it came to before and what
the subject comes to alone; the families hold the same. -/
theorem collect_withSubject (hs : s ∉ r.subjects) (h : ∀ f ∈ r.families, f.kind.subject ≠ s) (source : Source)
    (now : Instant) : (r.withSubject s).collect (some source) now =
      ((r.collect (some source) now).1.bind fun errors =>
          (((empty r.path).withSubject s).collect (some source) now).1.map (errors ++ ·),
        (r.collect (some source) now).2.withSubject s) := by
  have hkinds : ∀ f ∈ (collectEach source now r.families r.subjects).2, f.kind.subject ≠ s := by
    intro f hf
    have hk : f.kind ∈ r.families.map Family.kind := by
      rw [← kinds_collectEach source now r.families r.subjects]
      exact List.mem_map_of_mem hf
    obtain ⟨g, hg, hgf⟩ := List.mem_map.1 hk
    exact hgf ▸ h g hg
  have hsubject : ∀ fs, withSubject { r with families := fs } s = ⟨r.path, r.subjects ++ [s], fs⟩ := by
    intro fs
    simp [withSubject, hs]
  have halone : (empty r.path).withSubject s = ⟨r.path, [s], []⟩ := rfl
  rw [halone, show r.withSubject s = _ from hsubject r.families]
  simp only [collect, collectEach_append, hsubject]
  revert hkinds
  cases collectEach source now r.families r.subjects with
  | mk result fs =>
    intro hkinds
    cases result with
    | error e => rfl
    | ok errors =>
      simp only [collectEach_of_ne hkinds]
      cases (collectEach source now [] [s]).1 <;> rfl

/-! ### What is left of a refused registration -/

variable {arg : KindArg} {entry : Registration} {e : RegisterError} {r' : Registry}

/-- A registration is refused for its configuration, or for its type after its subject was entered. -/
theorem of_register_error (h : r.register arg entry = (.error e, r')) :
    (∃ c, e = .configuration c ∧ r' = r) ∨
      ∃ k, arg = .kind k ∧ e = .invalidType entry.type ∧ r' = r.withSubject k.subject := by
  cases arg with
  | foreign v =>
    cases h
    exact .inl ⟨_, rfl, rfl⟩
  | kind k =>
    simp only [register_eq, KindArg.check] at h
    split at h
    · cases h
      exact .inl ⟨_, rfl, rfl⟩
    · cases ht : MetricType.ofJson entry.type with
      | error e' =>
        rw [ht] at h
        cases h
        exact .inr ⟨k, rfl, MetricType.eq_of_ofJson_error ht, rfl⟩
      | ok t =>
        simp only [ht] at h
        split at h
        · cases h
        · cases h
          exact .inl ⟨_, rfl, rfl⟩

theorem withSubject_eq_iff {s : Subject} : r.withSubject s = r ↔ s ∈ r.subjects := by
  refine ⟨fun h => ?_, withSubject_of_mem⟩
  by_cases hs : s ∈ r.subjects
  · exact hs
  · have hlength := congrArg (fun r : Registry => r.subjects.length) h
    simp [subjects_withSubject, hs] at hlength

end Registry

/-- A refused registration leaves path, families and names as they were, and so it does the subjects, unless the
type is none and the subject was never spoken of. Then the subject stays, without a family: what is collected
later is stored as it would have been, but the subject is consulted at the end, and its failure is one of the
collection. -/
theorem register_refused {path : String} {ops : List Operation} {r r' : Registry}
    (hr : r = (Registry.empty path).performAll ops) {arg : KindArg} {entry : Registration} {e : RegisterError}
    (h : r.register arg entry = (.error e, r')) :
    r.registerInSteps arg entry = (.error e, r') ∧
      r'.path = r.path ∧ r'.families = r.families ∧ r'.claimedNames = r.claimedNames ∧
      (r' = r ↔ ∀ k v, arg = .kind k → e = .invalidType v → k.subject ∈ r.subjects) ∧
      ∀ k v, arg = .kind k → e = .invalidType v → k.subject ∉ r.subjects →
        r'.subjects = r.subjects ++ [k.subject] ∧ (∀ f ∈ r.families, f.kind.subject ≠ k.subject) ∧
        ∀ source now, r'.collect (some source) now =
          ((r.collect (some source) now).1.bind fun errors =>
              (((Registry.empty path).withSubject k.subject).collect (some source) now).1.map (errors ++ ·),
            (r.collect (some source) now).2.withSubject k.subject) := by
  have hnamed : r.IsNamed path := by
    rw [hr]
    exact Registry.isNamed_performAll path ops
  have hconsults : r.Consults := by
    rw [hr]
    exact Registry.consults_performAll path ops
  refine ⟨(Registry.registerInSteps_eq hnamed hconsults arg entry).trans h, ?_⟩
  rcases Registry.of_register_error h with ⟨c, rfl, rfl⟩ | ⟨k, rfl, rfl, rfl⟩
  · exact ⟨rfl, rfl, rfl, iff_of_true rfl nofun, nofun⟩
  · have hfamilies := r.families_withSubject k.subject
    refine ⟨r.path_withSubject _, hfamilies, ?_, ?_, fun k' v hk _ hs => ?_⟩
    · rw [Registry.claimedNames, hfamilies, Registry.claimedNames]
    · rw [Registry.withSubject_eq_iff]
      refine ⟨fun hs k' v hk _ => ?_, fun hs => hs k _ rfl rfl⟩
      rwa [← KindArg.kind.inj hk]
    · obtain rfl := KindArg.kind.inj hk
      have hne : ∀ f ∈ r.families, f.kind.subject ≠ k.subject := fun f hf he => hs (he ▸ hconsults.mem f hf)
      refine ⟨?_, hne, fun source now => ?_⟩
      · rw [Registry.subjects_withSubject, if_neg hs]
      · rw [← hnamed.1]
        exact Registry.collect_withSubject hs hne source now

def mapsUnlisted : Source
  | .map => .error (.system "permission denied")
  | _ => .ok []

/-- Key sizes under a type that is none. -/
def keySizeHistogram : Registration := ⟨.str "histogram", "key_size", "Size of map key", "bytes"⟩

theorem register_keySizeHistogram :
    (Registry.empty "bpf").register (.kind (.map .keySize)) keySizeHistogram =
      (.error (.invalidType (.str "histogram")), ⟨"bpf", [.map], []⟩) := rfl

/-- The refused key sizes leave their subject without a family. -/
theorem register_refused_histogram : ∃ r',
    (Registry.empty "bpf").register (.kind (.map .keySize)) keySizeHistogram =
        (.error (.invalidType (.str "histogram")), r') ∧
      r'.subjects = [.map] ∧ r'.families = [] ∧
      (r'.collect (some mapsUnlisted) ⟨1772366400000000⟩).2.subjects = [.map] := by
  have hempty : Registry.empty "bpf" = (Registry.empty "bpf").performAll [] := rfl
  obtain ⟨-, -, hfamilies, -, -, hleft⟩ := register_refused hempty register_keySizeHistogram
  obtain ⟨hsubjects, -, hcollect⟩ := hleft _ _ rfl rfl List.not_mem_nil
  refine ⟨_, register_keySizeHistogram, hsubjects, hfamilies, ?_⟩
  rw [hcollect]
  rfl

/-- The registry is not as before: a later collection consults maps and tells of their failure, which that of a
registry where nothing was tried does not. -/
theorem register_histogram_consulted : ∃ r',
    (Registry.empty "bpf").register (.kind (.map .keySize)) keySizeHistogram =
        (.error (.invalidType (.str "histogram")), r') ∧
      r' ≠ Registry.empty "bpf" ∧ r'.subjects ≠ (Registry.empty "bpf").subjects ∧
      (r'.collect (some mapsUnlisted) ⟨1772366400000000⟩).1 =
        .ok [⟨"map", "listing failed: permission denied"⟩] ∧
      ((Registry.empty "bpf").collect (some mapsUnlisted) ⟨1772366400000000⟩).1 = .ok [] := by
  have hsubjects : (⟨"bpf", [.map], []⟩ : Registry).subjects ≠ (Registry.empty "bpf").subjects :=
    List.cons_ne_nil _ _
  exact ⟨_, register_keySizeHistogram, fun h => hsubjects (congrArg Registry.subjects h), hsubjects, rfl, rfl⟩

end BpfExporter
