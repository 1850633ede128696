import BpfExporter.Proofs.Assoc
import BpfExporter.Proofs.Operations
import BpfExporter.Proofs.SpelledLines

/-! The registry as a store of values. A store knows which kinds are bound, in which order, and what was last
written for each label set; it says which calls are accepted and what they leave. A registry accepts the same
calls, and its text is read off the store. -/
namespace BpfExporter

/-- What is asked of a store: to bind a kind, to write a value, or to drop all values. -/
inductive Call
  | register (arg : KindArg) (spec : Spec)
  | update (arg : KindArg) (labels : LabelSet) (value : Json)
  | clear

def Registration.ofSpec (spec : Spec) : Registration :=
  ⟨.str spec.type.name, spec.name, spec.help, spec.unit⟩

def Call.operation : Call → Operation
  | .register arg spec => .register arg (.ofSpec spec)
  | .update arg labels value => .update arg labels value
  | .clear => .clear

def Registry.refusal? (r : Registry) : Call → Option RegisterError
  | .register arg spec => match (r.register arg (.ofSpec spec)).1 with
    | .ok () => none
    | .error e => some e
  | .update arg labels value => match r.update arg labels value with
    | .ok _ => none
    | .error e => some (.configuration e)
  | .clear => none

namespace Registry

variable {r : Registry}

theorem ofJson_ofSpec (spec : Spec) : MetricType.ofJson (Registration.ofSpec spec).type = .ok spec.type := by
  simp [Registration.ofSpec, MetricType.ofJson]

/-- With a type that is one, a call is refused for its configuration alone and then leaves no trace. -/
theorem perform_of_refusal? {c : Call} {e : RegisterError} (h : r.refusal? c = some e) :
    (∃ e', e = .configuration e') ∧ r.perform c.operation = r := by
  cases c with
  | register arg spec =>
    rcases r.register_cases arg (.ofSpec spec) with ⟨e', he⟩ | ⟨_, e', ht, -⟩ | ⟨k, t, -, -, -, -, hnew⟩
    · simp only [refusal?, he, Option.some.injEq] at h
      exact ⟨⟨e', h.symm⟩, congrArg Prod.snd he⟩
    · rw [ofJson_ofSpec] at ht
      cases ht
    · simp [refusal?, hnew] at h
  | update arg labels value =>
    cases hu : r.update arg labels value with
    | ok r' => simp [refusal?, hu] at h
    | error e' =>
      simp only [refusal?, hu, Option.some.injEq] at h
      exact ⟨⟨e', h.symm⟩, by simp only [Call.operation, perform, hu]⟩
  | clear => cases h

theorem update_of_not_registered {k : Kind} (h : r.families.contains k = false) (labels : LabelSet)
    (value : Json) : r.update (.kind k) labels value = .ok r := by
  simp [update, KindArg.check, h]

end Registry

/-- Kinds in the order in which they were bound, and the value of each for each label set. -/
structure Store where
  bound : List (Kind × Spec)
  value : Kind → LabelSet → Option Json

namespace Store

def empty : Store := ⟨[], fun _ _ => none⟩

def IsBound (s : Store) (k : Kind) : Prop := k ∈ s.bound.map Prod.fst

instance (s : Store) (k : Kind) : Decidable (s.IsBound k) := inferInstanceAs (Decidable (k ∈ _))

def name (path : String) (b : Kind × Spec) : String := Spelled.name path b.1.subject b.2

def claimedNames (path : String) (b : Kind × Spec) : List String := Spelled.names (name path b) b.2.type

/-- A kind is bound once and under names that are free; what is written to a bound kind is written for a label
set of its subject. -/
def Accepts (path : String) (s : Store) : Call → Prop
  | .register (.kind k) spec =>
    ¬s.IsBound k ∧ ∀ n ∈ claimedNames path (k, spec), n ∉ s.bound.flatMap (claimedNames path)
  | .update (.kind k) labels _ => s.IsBound k → labels.subject = k.subject
  | .clear => True
  | .register (.foreign _) _ | .update (.foreign _) _ _ => False

instance (path : String) (s : Store) : (c : Call) → Decidable (s.Accepts path c)
  | .register (.kind _) _ => inferInstanceAs (Decidable (_ ∧ _))
  | .update (.kind _) _ _ => inferInstanceAs (Decidable (_ → _))
  | .clear => inferInstanceAs (Decidable True)
  | .register (.foreign _) _ | .update (.foreign _) _ _ => inferInstanceAs (Decidable False)

def write (s : Store) (k : Kind) (labels : LabelSet) (value : Json) : Store :=
  { s with value := fun j l => if k = j ∧ labels = l then some value else s.value j l }

/-- What an accepted call makes of a store. Writing to a kind that is not bound is accepted and changes
nothing. -/
def take (s : Store) : Call → Store
  | .register (.kind k) spec => { s with bound := s.bound ++ [(k, spec)] }
  | .update (.kind k) labels value => if s.IsBound k then s.write k labels value else s
  | .clear => { s with value := fun _ _ => none }
  | .register (.foreign _) _ | .update (.foreign _) _ _ => s

def after (path : String) (s : Store) (c : Call) : Store := if s.Accepts path c then s.take c else s

def run (path : String) (calls : List Call) : Store := calls.foldl (after path) empty

def family (path : String) (m : Kind → List (LabelSet × Json)) (b : Kind × Spec) : Family Kind :=
  { Family.make (path ++ "_" ++ b.1.subject.name) b.1 b.2 with entries := m b.1 }

theorem exposedName_family (path : String) (m : Kind → List (LabelSet × Json)) (b : Kind × Spec) :
    (family path m b).exposedName = name path b := Spelled.exposedName_eq_name path b.1.subject b.2

theorem claimedNames_family (path : String) (m : Kind → List (LabelSet × Json)) (b : Kind × Spec) :
    (family path m b).claimedNames = claimedNames path b := by
  rw [Family.claimedNames, exposedName_family, Spelled.claimedNames_eq_names]
  rfl

/-- The registry has a family for each bound kind, in the same order, with the values of the store. -/
structure Refines (path : String) (s : Store) (m : Kind → List (LabelSet × Json)) (r : Registry) : Prop where
  path_eq : r.path = path
  families : r.families = s.bound.map (family path m)
  nodup : ∀ k, ((m k).map Prod.fst).Nodup
  get?_eq : ∀ k l, Assoc.get? l (m k) = s.value k l
  unbound : ∀ k, ¬s.IsBound k → m k = []

variable {path : String} {s : Store} {m : Kind → List (LabelSet × Json)} {r : Registry} {c : Call}

/-- Store and registry answer a call alike and are in agreement after it. -/
def Agrees (path : String) (s : Store) (r : Registry) (c : Call) : Prop :=
  (r.refusal? c = none ↔ s.Accepts path c) ∧ ∃ m, Refines path (s.after path c) m (r.perform c.operation)

namespace Refines

theorem contains_eq (h : Refines path s m r) (k : Kind) : r.families.contains k = decide (s.IsBound k) := by
  rw [Families.contains_eq, h.families, List.map_map]
  rfl

theorem claimedNames_eq (h : Refines path s m r) :
    r.claimedNames = s.bound.flatMap (claimedNames path) := by
  rw [Registry.claimedNames, h.families, List.flatMap_map]
  exact List.flatMap_congr fun b _ => claimedNames_family path m b

theorem newFamily_eq (h : Refines path s m r) {k : Kind} (hk : ¬s.IsBound k) (spec : Spec) :
    r.newFamily k spec = family path m (k, spec) := by
  rw [Registry.newFamily, Registry.subjectPath, h.path_eq, family, h.unbound k hk]
  rfl

theorem claimedNames_newFamily (h : Refines path s m r) (k : Kind) (spec : Spec) :
    (r.newFamily k spec).claimedNames = claimedNames path (k, spec) := by
  rw [Registry.newFamily, Registry.subjectPath, h.path_eq]
  exact claimedNames_family path (fun _ => []) (k, spec)

theorem agrees_of_accepts (h : Refines path (s.take c) m (r.perform c.operation)) (hacc : s.Accepts path c)
    (hok : r.refusal? c = none) : Agrees path s r c := by
  refine ⟨iff_of_true hok hacc, m, ?_⟩
  rw [after, if_pos hacc]
  exact h

theorem agrees_of_refusal? (h : Refines path s m r) (hnot : ¬s.Accepts path c) {e : RegisterError}
    (he : r.refusal? c = some e) : Agrees path s r c := by
  refine ⟨iff_of_false (by simp [he]) hnot, m, ?_⟩
  rw [after, if_neg hnot, (Registry.perform_of_refusal? he).2]
  exact h

theorem register_of_accepts (h : Refines path s m r) {arg : KindArg} {spec : Spec}
    (hacc : s.Accepts path (.register arg spec)) : (r.register arg (.ofSpec spec)).1 = .ok () := by
  cases arg with
  | foreign v => exact absurd hacc id
  | kind k =>
    obtain ⟨hk, hfree⟩ := hacc
    have hcontains : r.families.contains k = false := by
      rw [h.contains_eq]
      exact decide_eq_false hk
    rw [← h.claimedNames_newFamily, ← h.claimedNames_eq] at hfree
    rw [Registry.register_of_free hcontains (Registry.ofJson_ofSpec spec) hfree]

theorem register (h : Refines path s m r) (arg : KindArg) (spec : Spec) :
    Agrees path s r (.register arg spec) := by
  rcases r.register_cases arg (.ofSpec spec) with ⟨e, he⟩ | ⟨_, e, ht, -⟩ | ⟨k, t, rfl, ht, hk, hn, hnew⟩
  · refine h.agrees_of_refusal? (fun hacc => ?_) (e := .configuration e) (by simp [Registry.refusal?, he])
    have hok := h.register_of_accepts hacc
    rw [he] at hok
    cases hok
  · -- the type of a spec is one, so it is no reason to refuse
    rw [Registry.ofJson_ofSpec] at ht
    cases ht
  · obtain rfl : spec.type = t := Except.ok.inj ((Registry.ofJson_ofSpec spec).symm.trans ht)
    have hunbound : ¬s.IsBound k := by
      rw [h.contains_eq] at hk
      exact of_decide_eq_false hk
    have hfree : ∀ n ∈ claimedNames path (k, spec), n ∉ s.bound.flatMap (claimedNames path) := by
      rw [← h.claimedNames_newFamily, ← h.claimedNames_eq]
      exact hn
    refine agrees_of_accepts (m := m) ?_ ⟨hunbound, hfree⟩ (by simp [Registry.refusal?, hnew])
    show Refines path _ m (r.register (.kind k) (.ofSpec spec)).2
    rw [hnew]
    refine ⟨?_, ?_, h.nodup, h.get?_eq, fun j hj => h.unbound j fun hbound => hj ?_⟩
    · exact (r.path_withSubject _).trans h.path_eq
    · rw [take, List.map_append, ← h.families]
      exact congrArg (fun f => r.families ++ [f]) (h.newFamily_eq hunbound spec)
    · rw [IsBound, take, List.map_append]
      exact List.mem_append_left _ hbound

def written (m : Kind → List (LabelSet × Json)) (k : Kind) (labels : LabelSet) (value : Json) (j : Kind) :
    List (LabelSet × Json) :=
  if k = j then Assoc.set labels value (m j) else m j

theorem write (h : Refines path s m r) {k : Kind} (hk : s.IsBound k) (labels : LabelSet) (value : Json) :
    Refines path (s.write k labels value) (written m k labels value)
      { r with families := r.families.store k labels value } := by
  refine ⟨h.path_eq, ?_, fun j => ?_, fun j l => ?_, fun j hj => ?_⟩
  · simp only [h.families, Families.store, List.map_map]
    refine List.map_congr_left fun b _ => ?_
    by_cases hb : k = b.1
    · simp [family, Family.make, Family.set, written, hb]
    · have hne : ¬b.1 = k := fun e => hb e.symm
      simp [family, Family.make, written, hb, hne]
  · by_cases hj : k = j
    · rw [written, if_pos hj]
      exact Assoc.nodup_keys_set (h.nodup j) _ _
    · rw [written, if_neg hj]
      exact h.nodup j
  · by_cases hj : k = j
    · subst hj
      rw [written, if_pos rfl, Assoc.get?_set, h.get?_eq]
      simp [Store.write]
    · rw [written, if_neg hj, h.get?_eq]
      simp [Store.write, hj]
  · have hne : k ≠ j := fun e => hj (e ▸ hk)
    rw [written, if_neg hne]
    exact h.unbound j hj

theorem update (h : Refines path s m r) (arg : KindArg) (labels : LabelSet) (value : Json) :
    Agrees path s r (.update arg labels value) := by
  cases arg with
  | foreign v => exact h.agrees_of_refusal? id (e := .configuration (.notAKind v)) rfl
  | kind k =>
    by_cases hk : s.IsBound k
    · by_cases hl : labels.subject = k.subject
      · have hmade : r.update (.kind k) labels value =
            .ok { r with families := r.families.store k labels value } := by
          simp [Registry.update, KindArg.check, h.contains_eq, hk, hl]
        refine agrees_of_accepts (m := written m k labels value) ?_ (fun _ => hl) (by simp [Registry.refusal?, hmade])
        rw [take, if_pos hk]
        simp only [Call.operation, Registry.perform, hmade]
        exact h.write hk labels value
      · refine h.agrees_of_refusal? (fun hacc => hl (hacc hk))
          (e := .configuration (.wrongLabels k.subject labels.subject)) ?_
        simp [Registry.refusal?, Registry.update, KindArg.check, h.contains_eq, hk, hl]
    · have hpassed : r.update (.kind k) labels value = .ok r := by
        refine Registry.update_of_not_registered ?_ labels value
        rw [h.contains_eq]
        exact decide_eq_false hk
      refine agrees_of_accepts (m := m) ?_ (fun hbound => absurd hbound hk) (by simp [Registry.refusal?, hpassed])
      rw [take, if_neg hk]
      simp only [Call.operation, Registry.perform, hpassed]
      exact h

theorem clear (h : Refines path s m r) : Refines path (s.take .clear) (fun _ => []) r.clear := by
  refine ⟨h.path_eq, ?_, fun _ => List.nodup_nil, fun _ _ => rfl, fun _ _ => rfl⟩
  simp only [Registry.clear, Families.clear, h.families, List.map_map]
  rfl

theorem agrees (h : Refines path s m r) (c : Call) : Agrees path s r c := by
  cases c with
  | register arg spec => exact h.register arg spec
  | update arg labels value => exact h.update arg labels value
  | clear => exact h.clear.agrees_of_accepts trivial rfl

theorem performAll (h : Refines path s m r) (calls : List Call) :
    ∃ m', Refines path (calls.foldl (after path) s) m' (r.performAll (calls.map Call.operation)) := by
  -- each call leaves other entries, so these are general along with both states
  induction calls generalizing s m r with
  | nil => exact ⟨m, h⟩
  | cons c calls ih =>
    obtain ⟨-, m₁, h₁⟩ := h.agrees c
    exact ih h₁

end Refines

/-- Every value is an integer that a metric of its type can hold. -/
def Fits (s : Store) : Prop :=
  ∀ b ∈ s.bound, ∀ l v, s.value b.1 l = some v → ∃ n, v = .int n ∧ Spelled.InRange b.2.type n

/-- The numbers among the labels have no more digits than can be written. -/
def IsWritable (s : Store) : Prop :=
  ∀ b ∈ s.bound, ∀ l v, s.value b.1 l = some v → ∀ n ∈ l.numbers, n.natAbs < 10 ^ Numeral.maxDigits

/-- The integers of each kind, label set by label set in ascending order. -/
structure Lists (s : Store) (items : Kind → List (LabelSet × Int)) : Prop where
  ascending : ∀ k, ((items k).map Prod.fst).Pairwise fun a b => a.compare b = .lt
  mem_iff : ∀ k l n, (l, n) ∈ items k ↔ s.value k l = some (.int n)

theorem Lists.unique {s : Store} {items items' : Kind → List (LabelSet × Int)} (h : s.Lists items)
    (h' : s.Lists items') : items = items' := by
  funext k
  have hnodup : ∀ {items : Kind → List (LabelSet × Int)}, s.Lists items → (items k).Nodup := fun h =>
    (List.pairwise_map.1 (h.ascending k)).imp fun hlt heq => by simp [heq, Std.ReflCmp.compare_self] at hlt
  have hperm : (items k).Perm (items' k) := (List.perm_ext_iff_of_nodup (hnodup h) (hnodup h')).2 fun p =>
    (h.mem_iff k p.1 p.2).trans (h'.mem_iff k p.1 p.2).symm
  exact LabelSet.eq_of_perm_of_ascending hperm (h.ascending k) (h'.ascending k)

/-- The lines of the bound kinds in the order in which they were bound, and the end. -/
def lines (path : String) (s : Store) (items : Kind → List (LabelSet × Int)) : List String :=
  s.bound.flatMap (fun b => Spelled.metricLines (name path b) b.2 (items b.1)) ++ ["# EOF"]

namespace Refines

theorem mem_entries_iff (h : Refines path s m r) {k : Kind} {l : LabelSet} {v : Json} :
    (l, v) ∈ m k ↔ s.value k l = some v := by
  rw [← h.get?_eq]
  exact ⟨Assoc.get?_of_mem (h.nodup k), Assoc.mem_of_get?⟩

theorem fits_values (h : Refines path s m r) (hfits : s.Fits) :
    ∀ f ∈ r.families, ∀ p ∈ f.entries, Exposition.Fits f.spec.type p.2 := by
  rw [h.families, List.forall_mem_map]
  intro b hb p hp
  obtain ⟨n, hn, hrange⟩ := hfits b hb p.1 p.2 (h.mem_entries_iff.1 hp)
  exact ⟨n, hn, Spelled.inRange_iff.2 hrange⟩

theorem isWritable_iff (h : Refines path s m r) :
    (∀ f ∈ r.families, ∀ p ∈ f.entries, p.1.isWritable = true) ↔ s.IsWritable := by
  rw [h.families, List.forall_mem_map]
  constructor
  · intro hlabels b hb l v hv
    exact LabelSet.isWritable_iff.1 (hlabels b hb (l, v) (h.mem_entries_iff.2 hv))
  · intro hnumbers b hb p hp
    exact LabelSet.isWritable_iff.2 (hnumbers b hb p.1 p.2 (h.mem_entries_iff.1 hp))

theorem lists (h : Refines path s m r) : s.Lists fun k => (Family.mk k k.spec path (m k)).ints where
  ascending k := Family.pairwise_ints (h.nodup k)
  mem_iff _ _ _ := Family.mem_ints.trans h.mem_entries_iff

theorem render (h : Refines path s m r) (hfits : s.Fits) (hwritable : s.IsWritable)
    {items : Kind → List (LabelSet × Int)} (hitems : s.Lists items) :
    r.render = .ok (Exposition.ofLines (s.lines path items)) := by
  have hvalues := h.fits_values hfits
  have hlabels := h.isWritable_iff.2 hwritable
  have hlines : ∀ b ∈ s.bound, (family path m b).lines = Spelled.metricLines (name path b) b.2 (items b.1) := by
    intro b _
    rw [Family.lines, exposedName_family, Spelled.familyLines_eq, hitems.unique h.lists]
    rfl
  rw [Registry.render_of_fits fun f hf p hp => ⟨hlabels f hf p hp, hvalues f hf p hp⟩, h.families, List.flatMap_map,
    List.flatMap_congr hlines]
  rfl

end Refines

end Store

end BpfExporter
