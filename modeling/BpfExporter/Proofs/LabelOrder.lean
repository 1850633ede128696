import BpfExporter.Family

/-! The order of label sets. Labels are compared one after another, so label sets of all shapes are in a
linear order, and the items of a family whose label sets are distinct rise strictly. -/
namespace BpfExporter

open Std (TransCmp LawfulEqCmp)

namespace Text

theorem codes_injective {s t : String} (h : s.toList.map Char.toNat = t.toList.map Char.toNat) : s = t :=
  String.toList_inj.1 (List.map_inj_right (fun _ _ => Char.toNat_inj.1) |>.1 h)

end Text

namespace LabelSet

def rank : LabelSet → Nat
  | .prog _ => 0
  | .map _ => 1
  | .link _ => 2

def id : LabelSet → Int
  | .prog l => l.id
  | .map l => l.id
  | .link l => l.id

def typeCodes : LabelSet → List Nat
  | .prog l => l.programType.toList.map Char.toNat
  | .map l => l.mapType.toList.map Char.toNat
  | .link l => l.linkType.toList.map Char.toNat

def nameCodes : LabelSet → List Nat
  | .prog l => l.name.toList.map Char.toNat
  | .map l => l.name.toList.map Char.toNat
  | .link _ => []

def number : LabelSet → Int
  | .prog l => l.tag
  | .map _ => 0
  | .link l => l.progId

theorem compare_eq_lex : compare = compareLex (compareOn rank) (compareLex (compareOn id)
    (compareLex (compareOn typeCodes) (compareLex (compareOn nameCodes) (compareOn number)))) := by
  funext a b
  cases a <;> cases b <;>
    simp [compare, compareLex, compareOn, rank, id, typeCodes, nameCodes, number, Text.compareChars] <;> rfl

instance : TransCmp compare := by
  rw [compare_eq_lex]
  infer_instance

theorem eq_of_compare_eq {a b : LabelSet} (h : a.compare b = .eq) : a = b := by
  simp only [compare_eq_lex, compareLex, compareOn, Ordering.then_eq_eq, Std.compare_eq_iff_eq] at h
  obtain ⟨hrank, hid, htype, hname, hnumber⟩ := h
  cases a <;> cases b <;> simp only [rank, Nat.reduceEqDiff, reduceCtorEq] at hrank
  case prog.prog a b =>
    have hfields : a.id = b.id ∧ a.programType = b.programType ∧ a.name = b.name ∧ a.tag = b.tag :=
      ⟨hid, Text.codes_injective htype, Text.codes_injective hname, hnumber⟩
    cases a; cases b; simpa using hfields
  case map.map a b =>
    have hfields : a.id = b.id ∧ a.mapType = b.mapType ∧ a.name = b.name :=
      ⟨hid, Text.codes_injective htype, Text.codes_injective hname⟩
    cases a; cases b; simpa using hfields
  case link.link a b =>
    have hfields : a.id = b.id ∧ a.linkType = b.linkType ∧ a.progId = b.progId :=
      ⟨hid, Text.codes_injective htype, hnumber⟩
    cases a; cases b; simpa using hfields

theorem eq_of_perm_of_ascending {β : Type} {xs ys : List (LabelSet × β)} (h : xs.Perm ys)
    (hx : (xs.map Prod.fst).Pairwise fun a b => a.compare b = .lt)
    (hy : (ys.map Prod.fst).Pairwise fun a b => a.compare b = .lt) : xs = ys := by
  refine h.eq_of_pairwise (fun p q _ _ hpq hqp => ?_) (List.pairwise_map.1 hx) (List.pairwise_map.1 hy)
  have hswap : q.1.compare p.1 = (p.1.compare q.1).swap := Std.OrientedCmp.eq_swap
  rw [hpq, hqp] at hswap
  cases hswap

end LabelSet

namespace Family

variable {κ : Type} {f : Family κ}

theorem mem_items {p : LabelSet × Json} : p ∈ f.items ↔ p ∈ f.entries := List.mem_mergeSort

theorem pairwise_items (h : (f.entries.map Prod.fst).Nodup) :
    (f.items.map Prod.fst).Pairwise fun a b => a.compare b = .lt := by
  have htotal : ∀ a b : LabelSet × Json, ((a.1.compare b.1).isLE || (b.1.compare a.1).isLE) = true := by
    intro a b
    have hswap : b.1.compare a.1 = (a.1.compare b.1).swap := Std.OrientedCmp.eq_swap
    rw [hswap]
    cases a.1.compare b.1 <;> rfl
  have hle : f.items.Pairwise fun a b => (a.1.compare b.1).isLE :=
    List.pairwise_mergeSort (fun _ _ _ => TransCmp.isLE_trans) htotal _
  have hperm : (f.items.map Prod.fst).Perm (f.entries.map Prod.fst) :=
    (List.mergeSort_perm _ _).map _
  have hne : (f.items.map Prod.fst).Nodup := hperm.nodup_iff.2 h
  have hle' : (f.items.map Prod.fst).Pairwise fun a b => (a.compare b).isLE := List.pairwise_map.2 hle
  refine hle'.imp₂ (fun a b hab hne => ?_) hne
  cases hc : a.compare b with
  | lt => rfl
  | eq => exact absurd (LabelSet.eq_of_compare_eq hc) hne
  | gt => rw [hc] at hab; cases hab

end Family

end BpfExporter
