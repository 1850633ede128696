import BpfExporter.Assoc

/-! Maps with distinct keys: what is read at a key is the pair that stands there. A write keeps the keys
distinct, and writing goes along with a change of all values. -/
namespace BpfExporter.Assoc

variable {α β γ : Type} [DecidableEq α]

theorem mem_of_get? {k : α} {v : β} {m : List (α × β)} (h : get? k m = some v) : (k, v) ∈ m := by
  induction m with
  | nil => simp [get?] at h
  | cons p m ih =>
    obtain ⟨x, w⟩ := p
    by_cases hx : x = k
    · simp only [get?, hx, if_true, Option.some.injEq] at h
      rw [hx, h]
      exact List.mem_cons_self
    · simp only [get?, hx, if_false] at h
      exact List.mem_cons_of_mem _ (ih h)

theorem get?_of_mem {k : α} {v : β} {m : List (α × β)} (hm : (m.map Prod.fst).Nodup) (h : (k, v) ∈ m) :
    get? k m = some v := by
  induction m with
  | nil => simp at h
  | cons p m ih =>
    obtain ⟨x, w⟩ := p
    rw [List.map_cons, List.nodup_cons] at hm
    rcases List.mem_cons.1 h with h | h
    · obtain ⟨rfl, rfl⟩ := Prod.mk.inj h
      simp [get?]
    · have hx : x ≠ k := fun e => hm.1 (List.mem_map.2 ⟨(k, v), h, e.symm⟩)
      simp only [get?, hx, if_false]
      exact ih hm.2 h

theorem mem_of_mem_set {k : α} {v : β} {m : List (α × β)} {p : α × β} (h : p ∈ set k v m) :
    p = (k, v) ∨ p ∈ m := by
  induction m with
  | nil => exact .inl (List.mem_singleton.1 h)
  | cons q m ih =>
    obtain ⟨x, w⟩ := q
    by_cases hx : x = k
    · simp only [set, hx, if_true, List.mem_cons] at h
      exact h.imp_right (List.mem_cons_of_mem _)
    · simp only [set, hx, if_false, List.mem_cons] at h
      rcases h with rfl | h
      · exact .inr List.mem_cons_self
      · exact (ih h).imp_right (List.mem_cons_of_mem _)

theorem nodup_keys_set {m : List (α × β)} (hm : (m.map Prod.fst).Nodup) (k : α) (v : β) :
    ((set k v m).map Prod.fst).Nodup := by
  rw [keys_set]
  by_cases hk : k ∈ m.map Prod.fst
  · rw [if_pos hk]
    exact hm
  · rw [if_neg hk, List.nodup_append]
    refine ⟨hm, by simp, fun a ha b hb => ?_⟩
    rw [List.mem_singleton.1 hb]
    exact fun e => hk (e ▸ ha)

theorem mem_iff_get? {m : List (α × β)} (hm : (m.map Prod.fst).Nodup) {p : α × β} :
    p ∈ m ↔ get? p.1 m = some p.2 :=
  ⟨get?_of_mem hm, mem_of_get?⟩

omit [DecidableEq α] in
theorem nodup_of_nodup_keys {m : List (α × β)} (hm : (m.map Prod.fst).Nodup) : m.Nodup := by
  refine (List.pairwise_map.1 hm).imp ?_
  intro p q hne e
  exact hne (congrArg Prod.fst e)

theorem get?_perm {m m' : List (α × β)} (h : m.Perm m') (hm : (m.map Prod.fst).Nodup) (k : α) :
    get? k m = get? k m' := by
  have hm' : (m'.map Prod.fst).Nodup := (h.map Prod.fst).nodup_iff.1 hm
  apply Option.ext
  intro v
  have hpair := h.mem_iff (a := (k, v))
  rw [mem_iff_get? hm, mem_iff_get? hm'] at hpair
  exact hpair

theorem perm_of_get?_eq {m m' : List (α × β)} (hm : (m.map Prod.fst).Nodup)
    (hm' : (m'.map Prod.fst).Nodup) (h : ∀ k, get? k m = get? k m') : m.Perm m' := by
  refine (List.perm_ext_iff_of_nodup (nodup_of_nodup_keys hm) (nodup_of_nodup_keys hm')).2 fun p => ?_
  rw [mem_iff_get? hm, mem_iff_get? hm', h]

theorem get?_map (f : α → β → γ) (k : α) (m : List (α × β)) :
    get? k (m.map fun p => (p.1, f p.1 p.2)) = (get? k m).map (f k) := by
  induction m with
  | nil => rfl
  | cons p m ih =>
    obtain ⟨x, w⟩ := p
    by_cases hx : x = k
    · subst hx
      simp [get?]
    · simp [get?, hx, ih]

/-! ### Writes one after another -/

def setAll (ps m : List (α × β)) : List (α × β) := ps.foldl (fun m p => set p.1 p.2 m) m

theorem setAll_append (ps qs m : List (α × β)) : setAll (ps ++ qs) m = setAll qs (setAll ps m) :=
  List.foldl_append

theorem nodup_keys_setAll {m : List (α × β)} (hm : (m.map Prod.fst).Nodup) (ps : List (α × β)) :
    ((setAll ps m).map Prod.fst).Nodup := by
  induction ps generalizing m with
  | nil => exact hm
  | cons p ps ih => exact ih (nodup_keys_set hm p.1 p.2)

theorem get?_append (k : α) (m m' : List (α × β)) : get? k (m ++ m') = (get? k m).or (get? k m') := by
  induction m with
  | nil => rfl
  | cons p m ih =>
    obtain ⟨x, w⟩ := p
    by_cases hx : x = k
    · simp [get?, hx]
    · simp [get?, hx, ih]

theorem get?_setAll (k : α) (ps m : List (α × β)) :
    get? k (setAll ps m) = (get? k ps.reverse).or (get? k m) := by
  induction ps generalizing m with
  | nil => rfl
  | cons p ps ih =>
    have hfirst : get? k (set p.1 p.2 m) = (get? k [p]).or (get? k m) := by
      rw [get?_set]
      by_cases hp : p.1 = k <;> simp [get?, hp]
    rw [setAll, List.foldl_cons, ← setAll, ih, hfirst, List.reverse_cons, get?_append, Option.or_assoc]

theorem get?_eq_none_iff {k : α} {m : List (α × β)} : get? k m = none ↔ k ∉ m.map Prod.fst := by
  induction m with
  | nil => simp [get?]
  | cons p m ih =>
    obtain ⟨x, w⟩ := p
    by_cases hx : x = k
    · simp [get?, hx]
    · simp [get?, hx, ih, Ne.symm hx]

theorem get?_setAll_of_not_mem {k : α} {ps : List (α × β)} (h : k ∉ ps.map Prod.fst) (m : List (α × β)) :
    get? k (setAll ps m) = get? k m := by
  have hnone : get? k ps.reverse = none := by
    rw [get?_eq_none_iff, List.map_reverse, List.mem_reverse]
    exact h
  rw [get?_setAll, hnone, Option.none_or]

theorem get?_setAll_of_last {k : α} {qs : List (α × β)} (h : k ∉ qs.map Prod.fst) (v : β)
    (ps m : List (α × β)) : get? k (setAll (ps ++ (k, v) :: qs) m) = some v := by
  have hlast : setAll (ps ++ (k, v) :: qs) m = setAll qs (set k v (setAll ps m)) := setAll_append ps _ m
  rw [hlast, get?_setAll_of_not_mem h, get?_set, if_pos rfl]

/-- Where no key is written twice, the order of the writes does not matter to what is read. -/
theorem get?_setAll_perm {ps qs : List (α × β)} (h : ps.Perm qs) (hps : (ps.map Prod.fst).Nodup) (k : α)
    (m : List (α × β)) : get? k (setAll ps m) = get? k (setAll qs m) := by
  have hreverse : ps.reverse.Perm qs.reverse := (List.reverse_perm _).trans (h.trans (List.reverse_perm _).symm)
  have hkeys : (ps.reverse.map Prod.fst).Nodup := ((List.reverse_perm ps).map _).nodup_iff.2 hps
  rw [get?_setAll, get?_setAll, get?_perm hreverse hkeys]

end BpfExporter.Assoc
