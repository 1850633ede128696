import BpfExporter.Exposition.Decoder

/-! Texts as lines. Cutting a text at its newlines undoes ending every line with one, so that a text and
its lines determine each other, and cutting goes on where an earlier cut has stopped. -/
namespace BpfExporter.Exposition

open Decoder (cutLines)

/-- The text of whole lines. -/
def unlines (lines : List (List Char)) : List Char := lines.flatMap (· ++ ['\n'])

@[simp] theorem unlines_nil : unlines [] = [] := rfl

@[simp] theorem unlines_cons (line : List Char) (lines : List (List Char)) :
    unlines (line :: lines) = line ++ '\n' :: unlines lines := by
  simp [unlines]

@[simp] theorem unlines_append (ls ms : List (List Char)) :
    unlines (ls ++ ms) = unlines ls ++ unlines ms := by
  simp [unlines]

theorem cutLines_newline (cs : List Char) :
    cutLines ('\n' :: cs) = ([] :: (cutLines cs).1, (cutLines cs).2) := by
  rw [cutLines]

theorem cutLines_line {line : List Char} (h : '\n' ∉ line) (cs : List Char) :
    cutLines (line ++ '\n' :: cs) = (line :: (cutLines cs).1, (cutLines cs).2) := by
  induction line with
  | nil => exact cutLines_newline cs
  | cons c line ih =>
    have hc : c ≠ '\n' := fun e => h (e ▸ List.mem_cons_self)
    have hl : '\n' ∉ line := fun m => h (List.mem_cons_of_mem _ m)
    rw [List.cons_append, cutLines, ih hl]
    exact fun e => absurd e hc

theorem cutLines_unlines {lines : List (List Char)} (h : ∀ line ∈ lines, '\n' ∉ line) (cs : List Char) :
    cutLines (unlines lines ++ cs) = (lines ++ (cutLines cs).1, (cutLines cs).2) := by
  induction lines with
  | nil => simp
  | cons line lines ih =>
    have hline : '\n' ∉ line := h line List.mem_cons_self
    have hlines : ∀ l ∈ lines, '\n' ∉ l := fun l m => h l (List.mem_cons_of_mem _ m)
    rw [unlines_cons, List.append_assoc, List.cons_append, cutLines_line hline, ih hlines]
    simp

theorem unlines_cutLines (cs : List Char) : unlines (cutLines cs).1 ++ (cutLines cs).2 = cs := by
  fun_induction cutLines cs with
  | case1 => rfl
  | case2 cs ih => simp [ih]
  | case3 c cs hc rest h ih => simpa [h] using ih
  | case4 c cs hc line lines rest h ih => simpa [h] using ih

theorem not_mem_cutLines (cs : List Char) :
    (∀ line ∈ (cutLines cs).1, '\n' ∉ line) ∧ '\n' ∉ (cutLines cs).2 := by
  fun_induction cutLines cs with
  | case1 => simp
  | case2 cs ih => simpa using ih
  | case3 c cs hc rest h ih => simpa [h, eq_comm] using And.intro hc ih
  | case4 c cs hc line lines rest h ih =>
    simp only [h, List.mem_cons, forall_eq_or_imp] at ih ⊢
    obtain ⟨⟨hline, hlines⟩, hrest⟩ := ih
    exact ⟨⟨by simpa [eq_comm] using ⟨hc, hline⟩, hlines⟩, hrest⟩

theorem cutLines_append (xs ys : List Char) :
    cutLines (xs ++ ys) = ((cutLines xs).1 ++ (cutLines ((cutLines xs).2 ++ ys)).1,
      (cutLines ((cutLines xs).2 ++ ys)).2) := by
  calc cutLines (xs ++ ys)
      = cutLines (unlines (cutLines xs).1 ++ ((cutLines xs).2 ++ ys)) := by
        rw [← List.append_assoc, unlines_cutLines]
    _ = _ := cutLines_unlines (not_mem_cutLines xs).1 _

theorem cutLines_eq_iff {cs : List Char} {lines : List (List Char)} :
    cutLines cs = (lines, []) ↔ cs = unlines lines ∧ ∀ line ∈ lines, '\n' ∉ line := by
  constructor
  · intro h
    have ht := unlines_cutLines cs
    have hn := (not_mem_cutLines cs).1
    simp only [h, List.append_nil] at ht hn
    exact ⟨ht.symm, hn⟩
  · rintro ⟨rfl, h⟩
    have hc := cutLines_unlines h []
    simpa [cutLines] using hc

end BpfExporter.Exposition
