import BpfExporter.Exposition.Fold
import BpfExporter.Proofs.Assoc

/-! The fold of samples into program records, id by id. A sample of a known family writes to the record of its
own id alone, so the record of an id is what the samples make of it one after another; and the fold comes to
its end exactly when all samples of known families have ids. -/
namespace BpfExporter.Exposition

namespace Sample

/-- The id label of the sample is one or more ASCII digits. -/
def HasDigits (s : Sample) : Prop :=
  (s.label "id").toList ≠ [] ∧ ∀ c ∈ (s.label "id").toList, c.isDigit = true

theorem id_of_not_hasDigits {s : Sample} (h : ¬s.HasDigits) :
    s.id = .error (.parse s.line (.idLabel s.family)) := by
  have hreject : ((s.label "id").toList.isEmpty || !(s.label "id").toList.all Char.isDigit) = true := by
    by_cases hnil : (s.label "id").toList = []
    · rw [hnil]
      rfl
    · have hall : (s.label "id").toList.all Char.isDigit = false :=
        Bool.eq_false_iff.2 fun hall => h ⟨hnil, List.all_eq_true.1 hall⟩
      rw [hall, Bool.not_false, Bool.or_true]
  simp only [id, hreject, if_true]

theorem HasDigits.accepted {s : Sample} (h : s.HasDigits) :
    ((s.label "id").toList.isEmpty || !(s.label "id").toList.all Char.isDigit) = false := by
  rw [List.isEmpty_eq_false_iff.2 h.1, List.all_eq_true.2 h.2]
  rfl

theorem id_of_readNat_ok {s : Sample} (h : s.HasDigits) {n : Nat}
    (hn : Numeral.readNat (s.label "id").toList = .ok n) :
    s.id = if Snapshot.maxId < n then .error (.parse s.line (.idLabel s.family)) else .ok n := by
  simp only [id, h.accepted, Bool.false_eq_true, if_false, hn]

theorem id_of_readNat_error {s : Sample} (h : s.HasDigits) {e : Numeral.TooLong}
    (he : Numeral.readNat (s.label "id").toList = .error e) : s.id = .error (.numeral e) := by
  simp only [id, h.accepted, Bool.false_eq_true, if_false, he]

theorem id_eq_ok_iff {s : Sample} {n : Nat} :
    s.id = .ok n ↔ s.HasDigits ∧ Numeral.readNat (s.label "id").toList = .ok n ∧ n ≤ Snapshot.maxId := by
  by_cases h : s.HasDigits
  · cases hread : Numeral.readNat (s.label "id").toList with
    | error e => simp [id_of_readNat_error h hread]
    | ok m =>
      rw [id_of_readNat_ok h hread]
      by_cases hm : Snapshot.maxId < m
      · have : m = n → ¬n ≤ Snapshot.maxId := by omega
        simpa [hm, h] using this
      · have : m = n → n ≤ Snapshot.maxId := by omega
        simpa [hm, h] using this
  · simp [id_of_not_hasDigits h, h]

theorem id_eq_numeral_iff {s : Sample} {e : Numeral.TooLong} :
    s.id = .error (.numeral e) ↔
      s.HasDigits ∧ Numeral.readNat (s.label "id").toList = .error e := by
  by_cases h : s.HasDigits
  · cases hread : Numeral.readNat (s.label "id").toList with
    | error e' => simp [id_of_readNat_error h hread, h]
    | ok m =>
      rw [id_of_readNat_ok h hread]
      by_cases hm : Snapshot.maxId < m <;> simp [hm]
  · simp [id_of_not_hasDigits h, h]

/-- The family of the sample is one that records are read from. -/
def IsKnown (path : String) (s : Sample) : Prop := (s.field? path).isSome

def write (path : String) (id : Int) (r? : Option ProgramRecord) (s : Sample) : Option ProgramRecord :=
  match s.field? path, s.id with
  | some field, .ok n => if (n : Int) = id then some ((r?.getD (s.newRecord n)).set s.value field) else r?
  | _, _ => r?

end Sample

variable {path : String}

theorem exists_foldSample_iff (records : Records) {s : Sample} :
    (∃ records', foldSample path records s = .ok records') ↔ (s.IsKnown path → ∃ n, s.id = .ok n) := by
  unfold foldSample Sample.IsKnown
  cases s.field? path with
  | none => simp
  | some field => cases s.id <;> simp

theorem foldSample_eq_error_iff {s : Sample} {records : Records} {e : DecodeError} :
    foldSample path records s = .error e ↔ s.IsKnown path ∧ s.id = .error e := by
  unfold foldSample Sample.IsKnown
  cases s.field? path with
  | none => simp
  | some field => cases s.id <;> simp

theorem get?_foldSample {s : Sample} {records records' : Records}
    (h : foldSample path records s = .ok records') (id : Int) :
    Assoc.get? id records' = s.write path id (Assoc.get? id records) := by
  unfold foldSample at h
  unfold Sample.write
  cases hfield : s.field? path with
  | none =>
    rw [hfield] at h
    rw [← Except.ok.inj h]
  | some field =>
    cases hid : s.id with
    | error e => simp [hfield, hid] at h
    | ok n =>
      simp only [hfield, hid, Except.ok.injEq] at h
      rw [← h, Assoc.get?_set]
      by_cases hn : (n : Int) = id
      · simp [hn]
      · simp [hn]

theorem nodup_keys_foldSample {s : Sample} {records records' : Records}
    (h : foldSample path records s = .ok records') (hr : (records.map Prod.fst).Nodup) :
    (records'.map Prod.fst).Nodup := by
  unfold foldSample at h
  split at h
  · exact Except.ok.inj h ▸ hr
  · split at h
    · cases h
    · exact Except.ok.inj h ▸ Assoc.nodup_keys_set hr _ _

/-! ### All samples -/

theorem exists_gather_iff {samples : List Sample} {records : Records} :
    (∃ records', gather path records samples = .ok records') ↔
      ∀ s ∈ samples, s.IsKnown path → ∃ n, s.id = .ok n := by
  induction samples generalizing records with
  | nil => simp [gather]
  | cons s samples ih =>
    rw [List.forall_mem_cons, gather, ← exists_foldSample_iff records]
    cases hs : foldSample path records s with
    | error e => simp
    | ok records₁ => simp [ih]

/-- The fold ends early at the first sample of a known family that has no id, for the reason that it has
none. -/
theorem gather_eq_error_iff {samples : List Sample} {records : Records} {e : DecodeError} :
    gather path records samples = .error e ↔
      ∃ before s after, samples = before ++ s :: after ∧
        (∀ t ∈ before, t.IsKnown path → ∃ n, t.id = .ok n) ∧ s.IsKnown path ∧ s.id = .error e := by
  induction samples generalizing records with
  | nil => simp [gather]
  | cons s samples ih =>
    rw [gather]
    constructor
    · intro h
      cases hs : foldSample path records s with
      | error e' =>
        simp only [hs, Except.error.injEq] at h
        subst h
        exact ⟨[], s, samples, rfl, by simp, foldSample_eq_error_iff.1 hs⟩
      | ok records₁ =>
        simp only [hs] at h
        obtain ⟨before, t, after, rfl, hbefore, ht⟩ := ih.1 h
        have hid := (exists_foldSample_iff records).1 ⟨records₁, hs⟩
        exact ⟨s :: before, t, after, rfl, List.forall_mem_cons.2 ⟨hid, hbefore⟩, ht⟩
    · rintro ⟨before, t, after, hsplit, hbefore, ht⟩
      cases before with
      | nil =>
        obtain ⟨rfl, rfl⟩ := List.cons.inj hsplit
        rw [foldSample_eq_error_iff.2 ht]
      | cons s' before =>
        obtain ⟨rfl, rfl⟩ := List.cons.inj hsplit
        obtain ⟨hid, hbefore⟩ := List.forall_mem_cons.1 hbefore
        obtain ⟨records₁, hs⟩ := (exists_foldSample_iff records).2 hid
        rw [hs]
        exact ih.2 ⟨before, t, after, rfl, hbefore, ht⟩

theorem get?_gather {samples : List Sample} {records records' : Records}
    (h : gather path records samples = .ok records') (id : Int) :
    Assoc.get? id records' = samples.foldl (Sample.write path id) (Assoc.get? id records) := by
  induction samples generalizing records with
  | nil => rw [← Except.ok.inj h]; rfl
  | cons s samples ih =>
    rw [gather] at h
    cases hs : foldSample path records s with
    | error e => simp [hs] at h
    | ok records₁ =>
      simp only [hs] at h
      rw [ih h, get?_foldSample hs, List.foldl_cons]

theorem nodup_keys_gather {samples : List Sample} {records records' : Records}
    (h : gather path records samples = .ok records') (hr : (records.map Prod.fst).Nodup) :
    (records'.map Prod.fst).Nodup := by
  induction samples generalizing records with
  | nil => exact Except.ok.inj h ▸ hr
  | cons s samples ih =>
    rw [gather] at h
    cases hs : foldSample path records s with
    | error e => simp [hs] at h
    | ok records₁ =>
      simp only [hs] at h
      exact ih h (nodup_keys_foldSample hs hr)

theorem id_of_foldl_write {samples : List Sample} {id : Int} {r? : Option ProgramRecord} {r : ProgramRecord}
    (h : samples.foldl (Sample.write path id) r? = some r) (hr : ∀ q ∈ r?, q.id = id) : r.id = id := by
  induction samples generalizing r? with
  | nil => exact hr r h
  | cons s samples ih =>
    refine ih h fun q hq => ?_
    unfold Sample.write at hq
    split at hq
    · split at hq
      · next field n hn =>
        obtain rfl := Option.some.inj hq
        rw [ProgramRecord.id_set]
        cases r? with
        | none => exact hn
        | some q => exact hr q rfl
      · exact hr q hq
    · exact hr q hq

/-! ### Records in order -/

def ordered (records : Records) : Records := records.mergeSort fun a b => decide (a.1 ≤ b.1)

def withBaseline (previous records : Records) : Records :=
  records.map fun r => (r.1, r.2.carryOver (Assoc.get? r.1 previous))

theorem foldPrograms_eq (previous : Records) (samples : List Sample) :
    foldPrograms path previous samples =
      (gather path [] samples).map fun records => withBaseline previous (ordered records) := rfl

theorem foldPrograms_eq_ok_iff {previous records : Records} {samples : List Sample} :
    foldPrograms path previous samples = .ok records ↔
      ∃ gathered, gather path [] samples = .ok gathered ∧
        withBaseline previous (ordered gathered) = records := by
  rw [foldPrograms_eq]
  cases gather path [] samples <;> simp [Except.map]

theorem exists_foldPrograms_iff {previous : Records} {samples : List Sample} :
    (∃ records, foldPrograms path previous samples = .ok records) ↔
      ∀ s ∈ samples, s.IsKnown path → ∃ n, s.id = .ok n := by
  rw [← @exists_gather_iff path samples []]
  constructor
  · rintro ⟨records, hfold⟩
    obtain ⟨gathered, hgather, -⟩ := foldPrograms_eq_ok_iff.1 hfold
    exact ⟨gathered, hgather⟩
  · rintro ⟨gathered, hgather⟩
    exact ⟨_, foldPrograms_eq_ok_iff.2 ⟨gathered, hgather, rfl⟩⟩

theorem ordered_perm (records : Records) : (ordered records).Perm records := List.mergeSort_perm _ _

theorem keys_withBaseline (previous records : Records) :
    (withBaseline previous records).map Prod.fst = records.map Prod.fst := by
  rw [withBaseline, List.map_map]
  rfl

theorem pairwise_ordered (records : Records) : (ordered records).Pairwise fun a b => a.1 ≤ b.1 := by
  have htrans : ∀ a b c : Int × ProgramRecord,
      decide (a.1 ≤ b.1) = true → decide (b.1 ≤ c.1) = true → decide (a.1 ≤ c.1) = true := by
    intro a b c hab hbc
    simp only [decide_eq_true_eq] at hab hbc ⊢
    omega
  have htotal : ∀ a b : Int × ProgramRecord, (decide (a.1 ≤ b.1) || decide (b.1 ≤ a.1)) = true := by
    intro a b
    simp only [Bool.or_eq_true, decide_eq_true_eq]
    omega
  exact (List.pairwise_mergeSort htrans htotal records).imp of_decide_eq_true

section Distinct

variable {records records' : Records} (hr : (records.map Prod.fst).Nodup)

include hr

theorem nodup_keys_ordered : ((ordered records).map Prod.fst).Nodup :=
  ((ordered_perm records).map Prod.fst).nodup_iff.2 hr

theorem get?_ordered (id : Int) : Assoc.get? id (ordered records) = Assoc.get? id records :=
  Assoc.get?_perm (ordered_perm records) (nodup_keys_ordered hr) id

theorem keys_ordered_ascending : ((ordered records).map Prod.fst).Pairwise (· < ·) := by
  have hle := List.pairwise_map.2 (pairwise_ordered records)
  exact hle.imp₂ (fun a b hab hne => by omega) (nodup_keys_ordered hr)

theorem ordered_eq_of_get?_eq (hr' : (records'.map Prod.fst).Nodup)
    (h : ∀ id, Assoc.get? id records = Assoc.get? id records') : ordered records = ordered records' := by
  have hperm : (ordered records).Perm (ordered records') :=
    (ordered_perm records).trans ((Assoc.perm_of_get?_eq hr hr' h).trans (ordered_perm records').symm)
  refine hperm.eq_of_pairwise (fun a b ha hb hab hba => ?_) (pairwise_ordered _) (pairwise_ordered _)
  have hkey : a.1 = b.1 := by omega
  have ha' := (Assoc.mem_iff_get? (nodup_keys_ordered hr)).1 ha
  have hb' := (Assoc.mem_iff_get? (nodup_keys_ordered hr)).1 (hperm.mem_iff.2 hb)
  rw [hkey, hb'] at ha'
  exact Prod.ext hkey (Option.some.inj ha').symm

end Distinct

theorem get?_withBaseline (previous records : Records) (id : Int) :
    Assoc.get? id (withBaseline previous records) =
      (Assoc.get? id records).map (·.carryOver (Assoc.get? id previous)) :=
  Assoc.get?_map (fun id (r : ProgramRecord) => r.carryOver (Assoc.get? id previous)) id records

theorem keys_ascending_of_foldPrograms {previous records : Records} {samples : List Sample}
    (h : foldPrograms path previous samples = .ok records) : (records.map Prod.fst).Pairwise (· < ·) := by
  obtain ⟨gathered, hgather, rfl⟩ := foldPrograms_eq_ok_iff.1 h
  rw [keys_withBaseline]
  exact keys_ordered_ascending (nodup_keys_gather hgather List.nodup_nil)

end BpfExporter.Exposition
