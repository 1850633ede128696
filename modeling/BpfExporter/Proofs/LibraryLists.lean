import BpfExporter.Exporter
import BpfExporter.Proofs.KindLists
import BpfExporter.Proofs.LibraryNames

/-! Lists of kinds where a client library has a say in names. A list is bound as it is where every name is taken, or
the work ends at a kind whose name the library refuses; and so it is with the lists of settings. -/
namespace BpfExporter

open Exposition (ClientLibrary)

variable {c : ClientLibrary}

/-- The library refuses the name of a kind under a path, with a text. -/
def Kind.IsRefused (c : ClientLibrary) (path : String) (k : Kind) (text : String) : Prop :=
  (k.family path).nameIn c = .error text

namespace Registry

variable {r : Registry}

theorem registerKindWith_cases (hc : c.IsDocumented) (h : r.IsTaken c) (k : Kind) :
    (∃ text, k.IsRefused c r.path text ∧
        (r.registerKindWith c (.kind k)).1 = .error (.configuration (.nameRefused text))) ∨
      r.registerKindWith c (.kind k) = r.registerKind (.kind k) ∧ (r.registerKind (.kind k)).2.IsTaken c := by
  rcases registerWith_cases hc h (.kind k) (tableEntry k) with ⟨k', t, text, hk, ht, hrefused⟩ | hsame
  · cases hk
    obtain rfl : k.spec.type = t := by simpa [tableEntry, MetricType.ofJson] using ht
    exact .inl ⟨text, hrefused.refused, hrefused.error⟩
  · exact .inr hsame

theorem path_registerKind (r : Registry) (k : Kind) : (r.registerKind (.kind k)).2.path = r.path := by
  rw [registerKind_eq]
  split
  · rfl
  · exact r.path_bindAll _ _

theorem registerEachWith_cases (hc : c.IsDocumented) (h : r.IsTaken c) (ks : List Kind) :
    (∃ k ∈ ks, ∃ text, k.IsRefused c r.path text ∧
        (r.registerEachWith c (ks.map .kind)).1 = .error (.configuration (.nameRefused text))) ∨
      r.registerEachWith c (ks.map .kind) = r.registerEach (ks.map .kind) ∧
        (r.registerEach (ks.map .kind)).2.IsTaken c ∧ (r.registerEach (ks.map .kind)).2.path = r.path := by
  induction ks generalizing r with
  | nil => exact .inr ⟨rfl, h, rfl⟩
  | cons k ks ih =>
    rw [List.map_cons, registerEachWith, registerEach_cons]
    rcases registerKindWith_cases hc h k with ⟨text, hrefused, herror⟩ | ⟨hsame, htaken⟩
    · refine .inl ⟨k, List.mem_cons_self, text, hrefused, ?_⟩
      split
      · next hok =>
        rw [hok] at herror
        cases herror
      · exact herror
    · have hpath := r.path_registerKind k
      rw [hsame]
      cases hk : r.registerKind (.kind k) with
      | mk result r' =>
        rw [hk] at htaken hpath
        cases result with
        | error e => exact .inr ⟨rfl, htaken, hpath⟩
        | ok _ =>
          rcases ih htaken with ⟨j, hj, text, hrefused, herror⟩ | ⟨hrest, htaken', hpath'⟩
          · exact .inl ⟨j, List.mem_cons_of_mem k hj, text, hpath ▸ hrefused, herror⟩
          · exact .inr ⟨hrest, htaken', hpath'.trans hpath⟩

theorem registerAllWith_cases (hc : c.IsDocumented) (h : r.IsTaken c) (s : Subject) (ks : List Kind) :
    (∃ k ∈ ks, ∃ text, k.IsRefused c r.path text ∧
        (r.registerAllWith c s (ks.map .kind)).1 = .error (.configuration (.nameRefused text))) ∨
      r.registerAllWith c s (ks.map .kind) = r.registerAll s (ks.map .kind) ∧
        (r.registerAll s (ks.map .kind)).2.IsTaken c ∧ (r.registerAll s (ks.map .kind)).2.path = r.path := by
  rw [registerAllWith, registerAll_eq]
  split
  · exact .inr ⟨rfl, h, rfl⟩
  · exact registerEachWith_cases hc h ks

/-- A list of names is bound as it is where every name is taken, or ends at a kind whose name is refused. -/
theorem registerNamesWith_cases (hc : c.IsDocumented) (h : r.IsTaken c) (s : Subject) (names : List String) :
    (∃ ks, Kind.parseAll s names = .ok ks ∧ ∃ k ∈ ks, ∃ text, k.IsRefused c r.path text ∧
        r.registerNamesWith c s names = .error (.configuration (.nameRefused text))) ∨
      r.registerNamesWith c s names = r.registerNames s names ∧
        ∀ r', r.registerNames s names = .ok r' → r'.IsTaken c ∧ r'.path = r.path := by
  rw [registerNamesWith, registerNames_eq]
  cases Kind.parseAll s names with
  | error e => exact .inr ⟨rfl, nofun⟩
  | ok ks =>
    dsimp only
    rcases registerAllWith_cases hc h s ks with ⟨k, hk, text, hrefused, herror⟩ | ⟨hsame, htaken, hpath⟩
    · refine .inl ⟨ks, rfl, k, hk, text, hrefused, ?_⟩
      split
      · next hok =>
        rw [hok] at herror
        cases herror
      · next heq =>
        rw [heq] at herror
        exact congrArg Except.error (Except.error.inj herror)
    · refine .inr ⟨by rw [hsame], fun r' hr' => ?_⟩
      split at hr'
      · next hok =>
        cases hr'
        rw [hok] at htaken hpath
        exact ⟨htaken, hpath⟩
      · cases hr'

end Registry

end BpfExporter
