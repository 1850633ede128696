/-! Finite maps as lists of pairs in the order in which their keys first came. Writing to a key that is
present keeps its place. Main statement: `get?_set`, what a write shows to a read. -/
namespace BpfExporter.Assoc

variable {α β : Type} [DecidableEq α]

def get? (k : α) : List (α × β) → Option β
  | [] => none
  | (x, v) :: m => if x = k then some v else get? k m

def set (k : α) (v : β) : List (α × β) → List (α × β)
  | [] => [(k, v)]
  | (x, w) :: m => if x = k then (x, v) :: m else (x, w) :: set k v m

def ofPairs (ps : List (α × β)) : List (α × β) := ps.foldl (fun m p => set p.1 p.2 m) []

theorem get?_set (k j : α) (v : β) (m : List (α × β)) :
    get? j (set k v m) = if k = j then some v else get? j m := by
  induction m with
  | nil => simp [set, get?]
  | cons p m ih =>
    obtain ⟨x, w⟩ := p
    by_cases hx : x = k
    · subst hx; simp only [set, if_true, get?]; split <;> rfl
    · simp only [set, hx, if_false, get?, ih]
      split
      · next hj => subst hj; simp [Ne.symm hx]
      · rfl

theorem keys_set (k : α) (v : β) (m : List (α × β)) :
    (set k v m).map Prod.fst = if k ∈ m.map Prod.fst then m.map Prod.fst else m.map Prod.fst ++ [k] := by
  induction m with
  | nil => simp [set]
  | cons p m ih =>
    obtain ⟨x, w⟩ := p
    by_cases hx : x = k
    · subst hx; simp [set]
    · simp only [set, hx, if_false, List.map_cons, ih, List.mem_cons, Ne.symm hx, false_or]
      split <;> simp_all

end BpfExporter.Assoc
