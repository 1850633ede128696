import BpfExporter.Proofs.Assoc
import BpfExporter.Proofs.Names
import BpfExporter.Proofs.Operations

/-! A registry of kinds of the fixed table under a run of updates. Distinct kinds are registered one after
another without a clash, and an update reaches the family of its kind alone, so that a family holds the
last value written for each label set. -/
namespace BpfExporter

/-- A value for a label set of a kind. -/
structure Update where
  kind : Kind
  labels : LabelSet
  value : Int
deriving DecidableEq

def lastWrite (us : List Update) (k : Kind) (l : LabelSet) : Option Int :=
  (us.filter fun u => u.kind = k ∧ u.labels = l).getLast?.map Update.value

@[simp] theorem lastWrite_nil (k : Kind) (l : LabelSet) : lastWrite [] k l = none := rfl

/-- Programs are told apart by their ids, which are numbers of 32 bits. -/
structure Identified (us : List Update) : Prop where
  id_range : ∀ u ∈ us, ∀ l, u.labels = .prog l → 0 ≤ l.id ∧ l.id ≤ 0xffffffff
  one_program : ∀ u ∈ us, ∀ u' ∈ us, ∀ l l', u.labels = .prog l → u'.labels = .prog l' → l.id = l'.id →
    l = l'

theorem Identified.mono {us vs : List Update} (h : Identified vs) (hsub : ∀ u ∈ us, u ∈ vs) :
    Identified us :=
  ⟨fun u hu => h.id_range u (hsub u hu),
    fun u hu u' hu' => h.one_program u (hsub u hu) u' (hsub u' hu')⟩

def Update.write (k : Kind) (m : List (LabelSet × Int)) (u : Update) : List (LabelSet × Int) :=
  if u.kind = k ∧ u.labels.subject = k.subject then Assoc.set u.labels u.value m else m

def held (us : List Update) (k : Kind) : List (LabelSet × Int) := us.foldl (Update.write k) []

namespace Families

variable {κ : Type} [DecidableEq κ]

theorem contains_map {f : κ → Family κ} (hf : ∀ k, (f k).kind = k) (ks : List κ) (k : κ) :
    contains (ks.map f) k = decide (k ∈ ks) := by
  have hkinds : Family.kind ∘ f = id := funext hf
  rw [contains_eq, List.map_map, hkinds, List.map_id]

end Families

namespace Kind

end Kind

namespace Registry

def apply (r : Registry) (u : Update) : Registry :=
  match r.update (.kind u.kind) u.labels (.int u.value) with
  | .ok r' => r'
  | .error _ => r

variable {path : String}

theorem not_mem_claimedNames {r : Registry} {ks : List Kind} {k : Kind}
    (hfamilies : r.families = ks.map (Kind.family path)) (hk : k ∉ ks) :
    ∀ n ∈ (k.family path).claimedNames, n ∉ r.claimedNames := by
  intro n hn hmem
  rw [claimedNames, hfamilies, List.flatMap_map, List.mem_flatMap] at hmem
  obtain ⟨k', hk', hn'⟩ := hmem
  have hne : k ≠ k' := fun e => hk (e ▸ hk')
  exact Kind.claimedNames_family_disjoint path hne hn hn'

end Registry

end BpfExporter
