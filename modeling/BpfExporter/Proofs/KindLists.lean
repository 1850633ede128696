import BpfExporter.Proofs.Names
import BpfExporter.Proofs.Operations

/-! Lists of kinds. What is no kind of the subject is found before anything is bound; a kind that has a family or
whose names are taken is found only when its turn comes. So what a list leaves is the families of the kinds
before the first that is refused, in the order of the list. -/
namespace BpfExporter

namespace Registry

variable {r : Registry} {s : Subject}

/-- A kind that can be bound: it has no family, and no family has taken a name of its own. -/
def IsFree (r : Registry) (k : Kind) : Prop :=
  r.families.contains k = false ∧ ∀ n ∈ (k.family r.path).claimedNames, n ∉ r.claimedNames

/-- The registry with kinds of a subject bound one after another. -/
def bindAll (r : Registry) (s : Subject) : List Kind → Registry
  | [] => r
  | k :: ks => { r.withSubject s with families := r.families ++ (k :: ks).map (Kind.family r.path) }

/-- What keeps a kind from being bound after others. -/
def obstacle? (r : Registry) (bound : List Kind) (k : Kind) : Option ConfigurationError :=
  if k ∈ bound ∨ r.families.contains k then some (.alreadyRegistered k.subject k)
  else match r.taken (k.family r.path) with
    | [] => none
    | names => some (.namesTaken names)

/-- Kinds of a subject that can be bound one after another. -/
structure Binds (r : Registry) (s : Subject) (ks : List Kind) : Prop where
  subject : ∀ k ∈ ks, k.subject = s
  nodup : ks.Nodup
  free : ∀ k ∈ ks, r.IsFree k

theorem obstacle?_eq_none_iff {bound : List Kind} {k : Kind} :
    r.obstacle? bound k = none ↔ k ∉ bound ∧ r.IsFree k := by
  have htaken := taken_eq_nil_iff (r := r) (f := k.family r.path)
  rw [obstacle?, IsFree, ← htaken, ← Bool.not_eq_true]
  by_cases hk : k ∈ bound ∨ r.families.contains k = true
  · simp only [if_pos hk, reduceCtorEq, false_iff]
    exact fun h => hk.elim h.1 h.2.1
  · rw [if_neg hk]
    obtain ⟨hbound, hfamilies⟩ := not_or.1 hk
    cases r.taken (k.family r.path) <;> simp [hbound, hfamilies]

/-! ### The registry with kinds bound -/

theorem families_bindAll (r : Registry) (s : Subject) (ks : List Kind) :
    (r.bindAll s ks).families = r.families ++ ks.map (Kind.family r.path) := by
  cases ks with
  | nil => exact (List.append_nil _).symm
  | cons k ks => rfl

theorem path_bindAll (r : Registry) (s : Subject) (ks : List Kind) : (r.bindAll s ks).path = r.path := by
  cases ks with
  | nil => rfl
  | cons k ks => exact r.path_withSubject s

theorem withSubject_bindAll (r : Registry) (s : Subject) (ks : List Kind) :
    (r.bindAll s ks).withSubject s =
      { r.withSubject s with families := r.families ++ ks.map (Kind.family r.path) } := by
  cases ks with
  | nil =>
    rw [List.map_nil, List.append_nil, ← r.families_withSubject s]
    rfl
  | cons k ks => exact withSubject_of_mem (r.mem_withSubject s)

theorem bindAll_append (r : Registry) (s : Subject) (ks ks' : List Kind) :
    (r.bindAll s ks).bindAll s ks' = r.bindAll s (ks ++ ks') := by
  cases ks' with
  | nil =>
    rw [List.append_nil]
    rfl
  | cons k' ks' =>
    have hne : ks ++ k' :: ks' ≠ [] := List.append_ne_nil_of_right_ne_nil ks (List.cons_ne_nil k' ks')
    obtain ⟨j, js, hjs⟩ := List.exists_cons_of_ne_nil hne
    rw [bindAll, withSubject_bindAll, families_bindAll, path_bindAll, List.append_assoc, ← List.map_append, hjs]
    rfl

theorem bindAll_eq_iff {ks : List Kind} : r.bindAll s ks = r ↔ ks = [] := by
  refine ⟨fun h => ?_, fun h => h ▸ rfl⟩
  have hfamilies := congrArg Registry.families h
  rw [families_bindAll] at hfamilies
  exact List.map_eq_nil_iff.1 (List.append_right_eq_self.1 hfamilies)

theorem contains_bindAll (ks : List Kind) (k : Kind) :
    (r.bindAll s ks).families.contains k = true ↔ k ∈ ks ∨ r.families.contains k = true := by
  have hkinds : (ks.map (Kind.family r.path)).map Family.kind = ks := by
    rw [List.map_map]
    exact List.map_id'' (fun _ => rfl) ks
  rw [families_bindAll, Families.contains_eq, Families.contains_eq, List.map_append, hkinds]
  simp [or_comm]

theorem taken_bindAll {ks : List Kind} {k : Kind} (h : k ∉ ks) :
    (r.bindAll s ks).taken (k.family r.path) = r.taken (k.family r.path) := by
  have hclaimed : ∀ n ∈ (k.family r.path).claimedNames,
      (r.bindAll s ks).claimedNames.contains n = r.claimedNames.contains n := by
    intro n hn
    have hothers : n ∉ (ks.map (Kind.family r.path)).flatMap Family.claimedNames := by
      intro hmem
      obtain ⟨f, hf, hnf⟩ := List.mem_flatMap.1 hmem
      obtain ⟨k', hk', rfl⟩ := List.mem_map.1 hf
      have hne : k ≠ k' := fun he => h (he ▸ hk')
      exact Kind.claimedNames_family_disjoint r.path hne hn hnf
    rw [claimedNames, families_bindAll, List.flatMap_append, List.contains_eq_mem, List.contains_eq_mem,
      decide_eq_decide, List.mem_append]
    exact or_iff_left hothers
  rw [taken, taken, List.filter_congr hclaimed]

theorem obstacle?_bindAll (ks : List Kind) (k : Kind) : (r.bindAll s ks).obstacle? [] k = r.obstacle? ks k := by
  have hcontains := contains_bindAll (r := r) (s := s) ks k
  simp only [obstacle?, hcontains, List.not_mem_nil, false_or, path_bindAll]
  by_cases hk : k ∈ ks ∨ r.families.contains k = true
  · rw [if_pos hk, if_pos hk]
  · rw [if_neg hk, if_neg hk, taken_bindAll (not_or.1 hk).1]

/-! ### One kind after another -/

theorem registerKind_eq (r : Registry) (k : Kind) : r.registerKind (.kind k) = match r.obstacle? [] k with
    | some e => (.error (.configuration e), r)
    | none => (.ok (), r.bindAll k.subject [k]) := by
  have htype : MetricType.ofJson (tableEntry k).type = .ok k.spec.type := by
    simp [tableEntry, MetricType.ofJson]
  have hfamily : Family.make (r.subjectPath k.subject) k
      ⟨(tableEntry k).name, (tableEntry k).help, (tableEntry k).unit, k.spec.type⟩ = k.family r.path := rfl
  rw [registerKind_eq_register]
  simp only [register_eq, KindArg.check, htype, hfamily, obstacle?, List.not_mem_nil, false_or]
  split
  · rfl
  · cases r.taken (k.family r.path) <;> rfl

theorem Binds.concat {ks : List Kind} (h : r.Binds s ks) {k : Kind} (hs : k.subject = s)
    (hk : r.obstacle? ks k = none) : r.Binds s (ks ++ [k]) := by
  obtain ⟨hnew, hfree⟩ := obstacle?_eq_none_iff.1 hk
  refine ⟨List.forall_mem_append.2 ⟨h.subject, ?_⟩, ?_, List.forall_mem_append.2 ⟨h.free, ?_⟩⟩
  · rwa [List.forall_mem_singleton]
  · rw [List.nodup_append]
    refine ⟨h.nodup, by simp, fun a ha b hb hab => hnew ?_⟩
    rwa [← List.mem_singleton.1 hb, ← hab]
  · rwa [List.forall_mem_singleton]

theorem registerEach_bindAll {bound ks : List Kind} (hbound : r.Binds s bound) (hks : ∀ k ∈ ks, k.subject = s) :
    ∃ more, r.Binds s (bound ++ more) ∧
      ((r.bindAll s bound).registerEach (ks.map .kind) = (.ok (), r.bindAll s (bound ++ more)) ∧ ks = more ∨
        ∃ k rest e, ks = more ++ k :: rest ∧ r.obstacle? (bound ++ more) k = some e ∧
          (r.bindAll s bound).registerEach (ks.map .kind) =
            (.error (.configuration e), r.bindAll s (bound ++ more))) := by
  induction ks generalizing bound with
  | nil =>
    refine ⟨[], ?_⟩
    rw [List.append_nil]
    exact ⟨hbound, .inl ⟨rfl, rfl⟩⟩
  | cons k ks ih =>
    obtain ⟨hk, hks⟩ := List.forall_mem_cons.1 hks
    have hstep := (r.bindAll s bound).registerKind_eq k
    rw [obstacle?_bindAll, hk, bindAll_append] at hstep
    rw [List.map_cons, registerEach_cons, hstep]
    cases hobstacle : r.obstacle? bound k with
    | some e =>
      refine ⟨[], ?_⟩
      rw [List.append_nil]
      exact ⟨hbound, .inr ⟨k, ks, e, rfl, hobstacle, rfl⟩⟩
    | none =>
      obtain ⟨more, hmore, hrun⟩ := ih (hbound.concat hk hobstacle) hks
      rw [List.append_assoc] at hmore hrun
      refine ⟨k :: more, hmore, ?_⟩
      rcases hrun with ⟨hrun, rfl⟩ | ⟨k', rest, e, rfl, he, hrun⟩
      · exact .inl ⟨hrun, rfl⟩
      · exact .inr ⟨k', rest, e, rfl, he, hrun⟩

/-- No argument is found exactly among kinds of the subject. -/
theorem firstNotOf?_eq_none_iff {args : List KindArg} :
    firstNotOf? s args = none ↔ ∃ ks : List Kind, args = ks.map .kind ∧ ∀ k ∈ ks, k.subject = s := by
  constructor
  · intro h
    induction args with
    | nil => exact ⟨[], rfl, nofun⟩
    | cons arg args ih =>
      rw [firstNotOf?, List.find?_cons] at h
      split at h
      · cases h
      · next harg =>
        obtain ⟨ks, rfl, hks⟩ := ih h
        cases arg with
        | foreign v => cases harg
        | kind k => exact ⟨k :: ks, rfl, List.forall_mem_cons.2 ⟨by simpa using harg, hks⟩⟩
  · rintro ⟨ks, rfl, hks⟩
    rw [firstNotOf?, List.find?_eq_none]
    intro arg harg
    obtain ⟨k, hk, rfl⟩ := List.mem_map.1 harg
    simp [hks k hk]

/-- Where kinds can be bound one after another, none of them finds an obstacle behind those before it. -/
theorem Binds.obstacle?_eq_none {bound rest : List Kind} {k : Kind} (h : r.Binds s (bound ++ k :: rest)) :
    r.obstacle? bound k = none := by
  have hfree : r.IsFree k := h.free k (List.mem_append_right _ List.mem_cons_self)
  have hnew : k ∉ bound := fun hk => (List.nodup_append.1 h.nodup).2.2 k hk k List.mem_cons_self rfl
  exact obstacle?_eq_none_iff.2 ⟨hnew, hfree⟩

/-- All of a list is bound, or it is refused at an argument that is no kind of the subject or at the first kind that
finds an obstacle. -/
theorem registerAll_cases (r : Registry) (s : Subject) (args : List KindArg) :
    (∃ ks, args = ks.map .kind ∧ r.Binds s ks ∧ r.registerAll s args = (.ok (), r.bindAll s ks)) ∨
      (∃ arg, firstNotOf? s args = some arg ∧
        r.registerAll s args = (.error (.configuration (.notOfSubject arg.inspect s)), r)) ∨
      ∃ bound k rest e, args = (bound ++ k :: rest).map .kind ∧ (∀ j ∈ k :: rest, j.subject = s) ∧
        r.Binds s bound ∧ r.obstacle? bound k = some e ∧
        r.registerAll s args = (.error (.configuration e), r.bindAll s bound) := by
  rw [registerAll_eq]
  cases hfirst : firstNotOf? s args with
  | some arg => exact .inr (.inl ⟨arg, rfl, rfl⟩)
  | none =>
    have hnone : r.Binds s [] := ⟨by simp, List.nodup_nil, by simp⟩
    obtain ⟨ks, rfl, hks⟩ := firstNotOf?_eq_none_iff.1 hfirst
    obtain ⟨bound, hbound, hrun⟩ := registerEach_bindAll hnone hks
    rw [List.nil_append] at hbound hrun
    rcases hrun with ⟨hrun, rfl⟩ | ⟨k, rest, e, rfl, he, hrun⟩
    · exact .inl ⟨ks, rfl, hbound, hrun⟩
    · refine .inr (.inr ⟨bound, k, rest, e, rfl, ?_, hbound, he, hrun⟩)
      exact fun j hj => hks j (List.mem_append_right _ hj)

end Registry

/-- A list is accepted exactly when it is one of kinds of the subject that can be bound one after another, and then all
of it is. What is left in any case are the families of the kinds before the first that is refused, in the order of
the list; so nothing is left of a refused list only where something in it is no kind of the subject, or its first kind
is refused. -/
theorem registerAll_binds (r : Registry) (s : Subject) (args : List KindArg) :
    ((r.registerAll s args).1 = .ok () ↔ ∃ ks, args = ks.map .kind ∧ r.Binds s ks) ∧
      ∃ bound, r.Binds s bound ∧ (r.registerAll s args).2 = r.bindAll s bound ∧
        ((r.registerAll s args).2 = r ↔ bound = []) ∧
        ((r.registerAll s args).1 = .ok () ∧ args = bound.map .kind ∨
          ∃ e, (r.registerAll s args).1 = .error (.configuration e) ∧
            ((∃ arg, Registry.firstNotOf? s args = some arg ∧ e = .notOfSubject arg.inspect s ∧ bound = []) ∨
              ∃ k rest, args = (bound ++ k :: rest).map .kind ∧ (∀ j ∈ k :: rest, j.subject = s) ∧
                r.obstacle? bound k = some e)) := by
  rcases r.registerAll_cases s args with
    ⟨ks, rfl, hks, hall⟩ | ⟨arg, harg, hnone⟩ | ⟨bound, k, rest, e, rfl, hrest, hbound, he, hsome⟩
  · rw [hall]
    exact ⟨iff_of_true rfl ⟨ks, rfl, hks⟩, ks, hks, rfl, Registry.bindAll_eq_iff, .inl ⟨rfl, rfl⟩⟩
  · have hother : ¬∃ ks, args = ks.map .kind ∧ r.Binds s ks := by
      rintro ⟨ks, rfl, hks⟩
      rw [Registry.firstNotOf?_eq_none_iff.2 ⟨ks, rfl, hks.subject⟩] at harg
      cases harg
    rw [hnone]
    refine ⟨iff_of_false nofun hother, [], ⟨nofun, List.nodup_nil, nofun⟩, rfl, iff_of_true rfl rfl, ?_⟩
    exact .inr ⟨_, rfl, .inl ⟨arg, harg, rfl, rfl⟩⟩
  · have hother : ¬∃ ks, (bound ++ k :: rest).map KindArg.kind = ks.map .kind ∧ r.Binds s ks := by
      rintro ⟨ks, heq, hks⟩
      obtain rfl := (List.map_inj_right fun _ _ => KindArg.kind.inj).1 heq
      rw [hks.obstacle?_eq_none] at he
      cases he
    rw [hsome]
    exact ⟨iff_of_false nofun hother, bound, hbound, rfl, Registry.bindAll_eq_iff,
      .inr ⟨e, rfl, .inr ⟨k, rest, rfl, hrest, he⟩⟩⟩

/-- The runs of programs named twice are refused and stay bound. -/
theorem registerAll_twice :
    (Registry.empty "bpf").registerAll .prog [.kind (.prog .runCount), .kind (.prog .runCount)] =
        (.error (.configuration (.alreadyRegistered .prog (.prog .runCount))),
          (Registry.empty "bpf").bindAll .prog [.prog .runCount]) ∧
      (Registry.empty "bpf").bindAll .prog [.prog .runCount] ≠ Registry.empty "bpf" := by
  have hfirst : (Registry.empty "bpf").registerKind (.kind (.prog .runCount)) =
      (.ok (), (Registry.empty "bpf").bindAll .prog [.prog .runCount]) := Registry.registerKind_empty _ _
  have hsecond : ((Registry.empty "bpf").bindAll .prog [.prog .runCount]).registerKind (.kind (.prog .runCount)) =
      (.error (.configuration (.alreadyRegistered .prog (.prog .runCount))),
        (Registry.empty "bpf").bindAll .prog [.prog .runCount]) := rfl
  refine ⟨?_, fun h => List.cons_ne_nil _ _ (Registry.bindAll_eq_iff.1 h)⟩
  rw [Registry.registerAll_eq, show Registry.firstNotOf? .prog _ = none from rfl]
  simp only [Registry.registerEach_cons, hfirst, hsecond]

end BpfExporter
