import BpfExporter.Proofs.Grammar
import BpfExporter.Proofs.Operations

/-! Registries whose names a client library has a say in. A library that does as it is documented refuses some names
and treats all others alike, so a registration in it either fails for its name or is what it is where every name is
taken; and of families that have been registered the texts are the same. -/
namespace BpfExporter

open Exposition (ClientLibrary exposedName claimedNames)
open Exposition.Grammar (isMetricName)

namespace Exposition.ClientLibrary

/-- What is documented of the library in every version: how it names a metric whose name it takes, that it takes the
names of the format, and which names it keeps. -/
structure IsDocumented (c : ClientLibrary) : Prop where
  metricName_eq : ∀ {t base unit name}, c.metricName t base unit = .ok name → name = exposedName base unit t
  takes : ∀ {t base unit}, isMetricName (exposedName base unit t).toList = true →
    c.metricName t base unit = .ok (exposedName base unit t)
  reserved_eq : ∀ t name, c.reserved t name = claimedNames name t

def RefusesNone (c : ClientLibrary) : Prop := ∀ t base unit text, c.metricName t base unit ≠ .error text

theorem isDocumented_unrestricted : unrestricted.IsDocumented :=
  ⟨fun h => (Except.ok.inj h).symm, fun _ => rfl, fun _ _ => rfl⟩

/-- The library takes the names of the format alone. -/
def strict : ClientLibrary where
  metricName t base unit :=
    if isMetricName (exposedName base unit t).toList then .ok (exposedName base unit t)
    else .error ("Invalid metric name: " ++ exposedName base unit t)
  reserved t name := claimedNames name t

theorem isDocumented_strict : strict.IsDocumented where
  metricName_eq {t base unit name} h := by
    simp only [strict] at h
    split at h
    · exact (Except.ok.inj h).symm
    · cases h
  takes h := if_pos h
  reserved_eq _ _ := rfl

end Exposition.ClientLibrary

variable {c : ClientLibrary}

namespace Family

variable {κ : Type} {f : Family κ}

/-- The library takes the name that the family is exposed by. -/
def IsTaken (c : ClientLibrary) (f : Family κ) : Prop := f.nameIn c = .ok f.exposedName

theorem isTaken_or_refused (hc : c.IsDocumented) (f : Family κ) : f.IsTaken c ∨ ∃ text, f.nameIn c = .error text := by
  cases h : f.nameIn c with
  | error text => exact .inr ⟨text, rfl⟩
  | ok name =>
    obtain rfl := hc.metricName_eq h
    exact .inl h

theorem IsTaken.collectWith_eq (h : f.IsTaken c) : f.collectWith c = f.collect := by
  rw [collectWith, h]
  rfl

theorem IsTaken.claimedIn_eq (hc : c.IsDocumented) (h : f.IsTaken c) : f.claimedIn c = f.claimedNames := by
  rw [claimedIn, h]
  exact hc.reserved_eq _ _

end Family

namespace Registry

variable {r : Registry}

/-- The library takes the names of all families. -/
def IsTaken (c : ClientLibrary) (r : Registry) : Prop := ∀ f ∈ r.families, f.IsTaken c

theorem isTaken_clear_iff (r : Registry) : r.clear.IsTaken c ↔ r.IsTaken c := List.forall_mem_map

theorem IsTaken.renderWith_eq (h : r.IsTaken c) : r.renderWith c = r.render :=
  congrArg Exposition.encode (List.map_congr_left fun f hf => (h f hf).collectWith_eq)

theorem IsTaken.claimedIn_eq (hc : c.IsDocumented) (h : r.IsTaken c) : r.claimedIn c = r.claimedNames := by
  rw [claimedIn, claimedNames, List.flatMap, List.flatMap, List.map_congr_left fun f hf => (h f hf).claimedIn_eq hc]

theorem IsTaken.takenIn_eq (hc : c.IsDocumented) (h : r.IsTaken c) {f : Family Kind} (hf : f.IsTaken c) :
    r.takenIn c f = r.taken f := by
  rw [takenIn, taken, h.claimedIn_eq hc, hf.claimedIn_eq hc]

theorem path_withoutVacant (r : Registry) (s : Subject) : (r.withoutVacant s).path = r.path := by
  unfold withoutVacant
  split <;> rfl

theorem families_withoutVacant (r : Registry) (s : Subject) : (r.withoutVacant s).families = r.families := by
  unfold withoutVacant
  split <;> rfl

/-- The library refuses the name of the family that is to be registered, with a text, and nothing is bound. -/
structure NameRefused (c : ClientLibrary) (r : Registry) (k : Kind) (spec : Spec) (text : String)
    (outcome : Except RegisterError Unit × Registry) : Prop where
  refused : (r.newFamily k spec).nameIn c = .error text
  error : outcome.1 = .error (.configuration (.nameRefused text))
  path : outcome.2.path = r.path
  families : outcome.2.families = r.families

variable {arg : KindArg} {entry : Registration}

/-- The library takes the name of the family that is to be registered, if one is. -/
def TakesNew (c : ClientLibrary) (r : Registry) (arg : KindArg) (entry : Registration) : Prop :=
  ∀ k t, arg = .kind k → MetricType.ofJson entry.type = .ok t →
    (r.newFamily k ⟨entry.name, entry.help, entry.unit, t⟩).IsTaken c

theorem IsTaken.registerWith_eq (hc : c.IsDocumented) (h : r.IsTaken c) (hnew : r.TakesNew c arg entry) :
    r.registerWith c arg entry = r.register arg entry := by
  cases arg with
  | foreign v => rfl
  | kind k =>
    cases ht : MetricType.ofJson entry.type with
    | error e => simp only [registerWith, register_eq, KindArg.check, ht]
    | ok t =>
      have hf := hnew k t rfl ht
      have htaken := h.takenIn_eq hc hf
      simp only [Family.IsTaken, newFamily] at hf htaken
      simp only [registerWith, register_eq, KindArg.check, ht, hf, htaken]

theorem IsTaken.register (h : r.IsTaken c) (hnew : r.TakesNew c arg entry) : (r.register arg entry).2.IsTaken c := by
  rcases r.register_cases arg entry with ⟨_, hsame⟩ | ⟨s, _, -, hsame⟩ | ⟨k, t, hk, ht, -, -, hbound⟩
  · rw [hsame]
    exact h
  · rw [hsame, IsTaken, families_withSubject]
    exact h
  · rw [hbound]
    intro f hf
    rcases List.mem_append.1 hf with hf | hf
    · exact h f hf
    · rw [List.mem_singleton.1 hf]
      exact hnew k t hk ht

/-- A registration in a library is refused for its name, or it is what it is where every name is taken and leaves
names that are. -/
theorem registerWith_cases (hc : c.IsDocumented) (h : r.IsTaken c) (arg : KindArg) (entry : Registration) :
    (∃ k t text, arg = .kind k ∧ MetricType.ofJson entry.type = .ok t ∧
        NameRefused c r k ⟨entry.name, entry.help, entry.unit, t⟩ text (r.registerWith c arg entry)) ∨
      r.registerWith c arg entry = r.register arg entry ∧ (r.register arg entry).2.IsTaken c := by
  by_cases hnew : r.TakesNew c arg entry
  · exact .inr ⟨h.registerWith_eq hc hnew, h.register hnew⟩
  · simp only [TakesNew, Classical.not_forall] at hnew
    obtain ⟨k, t, rfl, ht, hnot⟩ := hnew
    obtain ⟨text, hrefused⟩ := (Family.isTaken_or_refused hc _).resolve_left hnot
    cases hk : r.families.contains k with
    | true =>
      have hsame : r.register (.kind k) entry = (.error (.configuration (.alreadyRegistered k.subject k)), r) := by
        simp [register_eq, KindArg.check, hk]
      rw [hsame]
      exact .inr ⟨by simp [registerWith, KindArg.check, hk], h⟩
    | false =>
      have houtcome : r.registerWith c (.kind k) entry =
          (.error (.configuration (.nameRefused text)), r.withoutVacant k.subject) := by
        simp only [newFamily] at hrefused
        simp [registerWith, KindArg.check, hk, ht, hrefused]
      refine .inl ⟨k, t, text, rfl, ht, hrefused, ?_, ?_, ?_⟩
      · rw [houtcome]
      · rw [houtcome, path_withoutVacant]
      · rw [houtcome, families_withoutVacant]

/-! ### Runs -/

/-- The registry after an operation where the library has a say in names. -/
def performWith (c : ClientLibrary) (r : Registry) : Operation → Registry
  | .register arg entry => (r.registerWith c arg entry).2
  | .registerKind arg => (r.registerKindWith c arg).2
  | .registerAll s args => (r.registerAllWith c s args).2
  | op => r.perform op

theorem performWith_of_not_isRegistration {op : Operation} (h : ¬op.IsRegistration) (r : Registry) :
    r.performWith c op = r.perform op := by
  cases op with
  | register | registerKind | registerAll => exact absurd trivial h
  | _ => rfl

theorem performWith_unrestricted (r : Registry) (op : Operation) : r.performWith .unrestricted op = r.perform op := by
  cases op <;> rfl

def performAllWith (c : ClientLibrary) (r : Registry) (ops : List Operation) : Registry := ops.foldl (performWith c) r

theorem performAllWith_unrestricted (r : Registry) (ops : List Operation) :
    r.performAllWith .unrestricted ops = r.performAll ops := by
  rw [performAllWith, performAll, funext fun r => funext (performWith_unrestricted r)]

/-- What does not speak of entries is kept by a run when the registrations keep it. -/
theorem performAllWith_induction {P : Registry → Prop} (hclear : ∀ r : Registry, P r.clear ↔ P r)
    (hregister : ∀ r arg entry, P r → P (r.registerWith c arg entry).2) {r : Registry} (hr : P r)
    (ops : List Operation) : P (r.performAllWith c ops) := by
  have hkind : ∀ r k, P r → P (r.registerWith c (.kind k) (tableEntry k)).2 :=
    fun r k => hregister r (.kind k) (tableEntry k)
  have hother : ∀ op, ¬Operation.IsRegistration op → ∀ r, P r → P (r.performWith c op) := by
    intro op hop r hr
    rw [performWith_of_not_isRegistration hop, ← hclear, clear_perform hop, hclear]
    exact hr
  refine List.foldlRecOn ops (performWith c) hr fun r hr op _ => ?_
  cases op with
  | register arg entry => exact hregister r arg entry hr
  | registerKind arg => exact registerKind_induction hkind hr arg
  | registerAll s args => exact registerAll_induction hkind hr s args
  | _ => exact hother _ id r hr

end Registry

end BpfExporter
