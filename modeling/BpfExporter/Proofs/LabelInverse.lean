import BpfExporter.Proofs.Writing

/-! Reading and writing of labels, each the inverse of the other. A text is read as the labels that are written as
it, so every list of labels has one text; and the reading of any text comes to its end, since every round of it
takes characters off. -/
namespace BpfExporter.Exposition

open Grammar (Label isLabelName)

namespace LabelText

/-- The labels are written as the text in braces, or as nothing where the text is empty. Their names are distinct and
such as a label may have. -/
structure IsWritten (t : String) (labels : List (String × String)) : Prop where
  distinct : (labels.map Prod.fst).Nodup
  named : ∀ p ∈ labels, isLabelName p.1.toList = true
  format_eq : format (labels.map fun p => (p.1, .str p.2)) = if t = "" then "" else "\x7b" ++ t ++ "\x7d"

theorem format_eq_iff (t : String) (ls : List Label) :
    format (ls.map fun l => (l.name, .str l.value)) = (if t = "" then "" else "\x7b" ++ t ++ "\x7d") ↔
      t.toList = Label.joined ls := by
  rw [← String.toList_inj, Label.toList_format]
  by_cases ht : t = ""
  · cases ls with
    | nil => simp [ht]
    | cons l ls => simp [ht, Ne.symm (Label.joined_ne_nil l ls)]
  · cases ls with
    | nil => simp [ht]
    | cons l ls => simp [ht, eq_comm]

theorem read_eq_ok_iff_isWritten {t : String} {labels : List (String × String)} :
    read t.toList = .ok labels ↔ IsWritten t labels := by
  have hpairs : ∀ ls : List Label, (ls.map Label.pair).map (fun p => (p.1, Json.str p.2)) =
      ls.map fun l => (l.name, Json.str l.value) := fun ls => List.map_map
  have hnames : ∀ ls : List Label, (ls.map Label.pair).map Prod.fst = ls.map Label.name :=
    fun ls => List.map_map
  rw [read_eq_ok_iff]
  constructor
  · rintro ⟨ls, ht, hdistinct, rfl⟩
    refine ⟨?_, ?_, ?_⟩
    · rw [hnames]
      exact hdistinct
    · intro p hp
      obtain ⟨l, -, rfl⟩ := List.mem_map.1 hp
      exact l.named
    · rw [hpairs, format_eq_iff]
      exact ht
  · rintro ⟨hdistinct, hnamed, hformat⟩
    obtain ⟨ls, rfl⟩ : ∃ ls : List Label, labels = ls.map Label.pair := by
      refine ⟨labels.pmap TypedSample.label hnamed, ?_⟩
      simp [List.map_pmap, TypedSample.label, Label.pair]
    rw [hnames] at hdistinct
    rw [hpairs, format_eq_iff] at hformat
    exact ⟨ls, hformat, hdistinct, rfl⟩

/-! ### The rounds of the reading -/

/-- The pairs that have been read, and the text that is left. -/
abbrev Remainder := List (String × String) × List Char

def takePair (r : Remainder) : Except ReadError Remainder :=
  match splitPair? r.2 with
  | none => .error (.malformed (String.ofList r.2))
  | some (name, value, rest) =>
    if r.1.any (·.1 == name) then .error (.duplicate name)
    else match Escape.unescape value with
      | .error e => .error (.badEscape e)
      | .ok v => .ok (r.1 ++ [(name, String.ofList v)], rest)

theorem length_of_takePair {r r' : Remainder} (h : takePair r = .ok r') : r'.2.length < r.2.length := by
  rw [takePair] at h
  split at h
  · cases h
  · next hpair =>
    split at h
    · cases h
    · split at h
      · cases h
      · obtain rfl := Except.ok.inj h
        exact length_splitPair? hpair

/-- One round of the reading, which goes on with what is left or ends with an answer. -/
def round (r : Remainder) : Remainder ⊕ Except ReadError (List (String × String)) :=
  if r.2.isEmpty then .inr (.ok r.1)
  else match takePair r with
    | .error e => .inr (.error e)
    | .ok r' =>
      if r'.2.isEmpty then .inr (.ok r'.1)
      else match afterComma? r'.2 with
        | some more => .inl (r'.1, more)
        | none => .inr (.error (.malformed (String.ofList r'.2)))

theorem length_of_round {r r' : Remainder} (h : round r = .inl r') : r'.2.length < r.2.length := by
  rw [round] at h
  split at h
  · cases h
  · split at h
    · cases h
    · next hpair =>
      split at h
      · cases h
      · split at h
        · next hmore =>
          obtain rfl := Sum.inl.inj h
          have hrest := length_of_takePair hpair
          rw [(afterComma?_eq_some_iff.1 hmore).1, List.length_cons] at hrest
          exact Nat.lt_of_succ_lt hrest
        · cases h

theorem readFrom_eq_round (r : Remainder) : readFrom r.1 r.2 = match round r with
    | .inl r' => readFrom r'.1 r'.2
    | .inr answer => answer := by
  rw [readFrom, round]
  by_cases hleft : r.2.isEmpty = true
  · simp only [hleft, if_true]
  · simp only [hleft, Bool.false_eq_true, if_false, takePair]
    cases splitPair? r.2 with
    | none => rfl
    | some p =>
      obtain ⟨name, value, rest⟩ := p
      by_cases hseen : r.1.any (·.1 == name) = true
      · simp only [hseen, if_true]
      · simp only [hseen, Bool.false_eq_true, if_false]
        cases Escape.unescape value with
        | error e => rfl
        | ok v =>
          by_cases hrest : rest.isEmpty = true
          · simp only [hrest, if_true]
          · simp only [hrest, Bool.false_eq_true, if_false]
            cases afterComma? rest <;> rfl

/-- So many rounds after one another, each followed by the next, lead from what is left at first to what is left
then. -/
inductive Rounds : Nat → Remainder → Remainder → Prop
  | done {r : Remainder} : Rounds 0 r r
  | next {n : Nat} {r r' r'' : Remainder} (h : round r = .inl r') (hrest : Rounds n r' r'') :
      Rounds (n + 1) r r''

/-- The reading ends with its answer, after at most as many rounds as there are characters. -/
theorem exists_rounds (r : Remainder) :
    ∃ n ≤ r.2.length, ∃ last, Rounds n r last ∧ round last = .inr (readFrom r.1 r.2) := by
  have hread := readFrom_eq_round r
  cases hround : round r with
  | inr answer =>
    rw [hround] at hread
    exact ⟨0, Nat.zero_le _, r, .done, hread ▸ hround⟩
  | inl r' =>
    have hshorter := length_of_round hround
    obtain ⟨n, hn, last, hrounds, hlast⟩ := exists_rounds r'
    rw [hround] at hread
    exact ⟨n + 1, by omega, last, .next hround hrounds, hread ▸ hlast⟩
termination_by r.2.length

end LabelText

/-- Labels are read from a text exactly when they are written as it; every text that no labels are written as is
refused, and the reading of any text ends, after at most as many rounds as it has characters. -/
theorem readLabels_iff_format (t : String) :
    (∀ labels, LabelText.read t.toList = .ok labels ↔ LabelText.IsWritten t labels) ∧
      ((∀ labels, ¬LabelText.IsWritten t labels) → ∃ e, LabelText.read t.toList = .error e) ∧
      ∃ n ≤ t.length, ∃ last, LabelText.Rounds n ([], t.toList) last ∧
        LabelText.round last = .inr (LabelText.read t.toList) := by
  refine ⟨fun labels => LabelText.read_eq_ok_iff_isWritten, fun hnone => ?_, ?_⟩
  · cases hread : LabelText.read t.toList with
    | ok labels => exact absurd (LabelText.read_eq_ok_iff_isWritten.1 hread) (hnone labels)
    | error e => exact ⟨e, rfl⟩
  · rw [← String.length_toList]
    exact LabelText.exists_rounds ([], t.toList)

end BpfExporter.Exposition
