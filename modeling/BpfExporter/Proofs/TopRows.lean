import Mathlib.Data.Rat.Floor
import BpfExporter.TopTable
import BpfExporter.Proofs.Writing

/-! The table of the busiest programs, row by row. Records of numbers that are not too large always have rows: those
of the greatest run-time deltas, equal ones in their order, as many as the limit says. A row begins with the id and
ends with the mean time of a run, and nothing is ever divided by zero. -/
namespace BpfExporter

/-! ### Floating-point numbers of integers -/

namespace Binary64

theorem exponentOf_one_le (n : Nat) : exponentOf n 1 ≤ (n.log2 : Int) - 52 := by
  have hlog : Nat.log2 1 = 0 := by decide
  have hmax : max ((n.log2 : Int) - (0 : Nat) - 53) minExponent = (n.log2 : Int) - 53 := by
    unfold minExponent
    omega
  simp only [exponentOf, hlog, hmax]
  split <;> omega

theorem one_le_roundDiv_scale {n : Nat} {e : Int} (hn : n ≠ 0) (he : e ≤ (n.log2 : Int)) :
    1 ≤ roundDiv (scale n 1 e).1 (scale n 1 e).2 := by
  have hdiv : (scale n 1 e).2 ≤ (scale n 1 e).1 := by
    have hpos : 1 ≤ Nat.pow 2 (-e).toNat := Nat.pow_pos (by decide)
    have hpow : Nat.pow 2 e.toNat ≤ n := (Nat.pow_le_pow_right (by decide) (by omega)).trans (Nat.log2_self_le hn)
    simp only [scale, Nat.one_mul]
    exact hpow.trans (Nat.le_mul_of_pos_right n hpos)
  have hpos : 0 < (scale n 1 e).2 := by
    simp only [scale, Nat.one_mul]
    exact Nat.pow_pos (by decide)
  have hquot : 1 ≤ (scale n 1 e).1 / (scale n 1 e).2 := (Nat.one_le_div_iff hpos).2 hdiv
  simp only [roundDiv]
  split
  · exact hquot
  · split <;> omega

theorem exists_pack (negative : Bool) {mantissa : Nat} {exponent : Int} (he : exponent < maxExponent) :
    ∃ m e, pack negative mantissa exponent = .finite negative m e ∧ (mantissa ≠ 0 → m ≠ 0) := by
  unfold pack
  by_cases hm : mantissa = Nat.pow 2 53
  · simp only [if_pos hm, if_neg (show ¬maxExponent < exponent + 1 by omega)]
    exact ⟨_, _, rfl, fun _ => by decide⟩
  · simp only [if_neg hm, if_neg (show ¬maxExponent < exponent by omega)]
    exact ⟨_, _, rfl, id⟩

/-- An integer of not too many bits has a finite number, which is zero for zero alone. -/
theorem exists_ofInt? {n : Int} {bits : Nat} (hbits : bits ≤ 1000) (h : n.natAbs ≤ 2 ^ bits) :
    ∃ s m e, ofInt? n = some (.finite s m e) ∧ (n ≠ 0 → m ≠ 0) := by
  by_cases hzero : n.natAbs = 0
  · refine ⟨decide (n < 0), 0, minExponent, ?_, fun hn => absurd (Int.natAbs_eq_zero.1 hzero) hn⟩
    rw [ofInt?, ofRatio, if_pos hzero]
    rfl
  have hlog : n.natAbs.log2 < bits + 1 :=
    (Nat.log2_lt hzero).2 (h.trans_lt (Nat.pow_lt_pow_right (by decide) (Nat.lt_succ_self bits)))
  have hexponent := exponentOf_one_le n.natAbs
  have hmantissa := one_le_roundDiv_scale hzero (e := exponentOf n.natAbs 1) (by omega)
  have hmax : exponentOf n.natAbs 1 < maxExponent := by
    unfold maxExponent
    omega
  obtain ⟨m, e, hpack, hm⟩ := exists_pack (decide (n < 0)) hmax
  refine ⟨decide (n < 0), m, e, ?_, fun _ => hm (Nat.one_le_iff_ne_zero.1 hmantissa)⟩
  simp only [ofInt?, ofRatio, if_neg hzero, hpack]

end Binary64

namespace TopTable

/-! ### What a row shows -/

/-- The mean time of a run as the whole part of a quotient; zero where there was no run. -/
def meanTime (r : ProgramRecord) : Int :=
  if r.runCountDelta = 0 then 0 else ⌊(r.runTimeDelta : ℚ) / r.runCountDelta⌋

theorem fdiv_eq_floor (a b : Int) : Int.fdiv a b = ⌊(a : ℚ) / b⌋ := by
  obtain ⟨d, rfl | rfl⟩ := Int.eq_nat_or_neg b
  · rw [Int.fdiv_eq_ediv_of_nonneg _ (Int.natCast_nonneg d), Int.cast_natCast, Rat.floor_intCast_div_natCast]
  · have hneg : (a : ℚ) / ((-(d : Int) : Int) : ℚ) = ((-a : Int) : ℚ) / (d : ℚ) := by
      push_cast
      rw [div_neg, neg_div]
    rw [hneg, Rat.floor_intCast_div_natCast, ← Int.fdiv_eq_ediv_of_nonneg _ (Int.natCast_nonneg d),
      ← Int.neg_fdiv_neg (-a), neg_neg]

theorem natAbs_fdiv_le (a b : Int) : (Int.fdiv a b).natAbs ≤ a.natAbs := by
  obtain ⟨d, rfl | rfl⟩ := Int.eq_nat_or_neg b
  · rw [Int.fdiv_eq_ediv_of_nonneg _ (Int.natCast_nonneg d)]
    exact Int.natAbs_ediv_le_natAbs _ _
  · rw [← Int.neg_fdiv_neg, neg_neg, Int.fdiv_eq_ediv_of_nonneg _ (Int.natCast_nonneg d), ← Int.natAbs_neg a]
    exact Int.natAbs_ediv_le_natAbs _ _

theorem average_eq (r : ProgramRecord) : average r = .ok (meanTime r) := by
  unfold average meanTime
  by_cases hzero : r.runCountDelta = 0
  · rw [if_pos hzero, if_pos hzero]
  · rw [if_neg hzero, if_neg hzero, floorDivide, if_neg hzero, fdiv_eq_floor]

theorem natAbs_meanTime_le (r : ProgramRecord) : (meanTime r).natAbs ≤ r.runTimeDelta.natAbs := by
  unfold meanTime
  split
  · exact Nat.zero_le _
  · rw [← fdiv_eq_floor]
    exact natAbs_fdiv_le _ _

def firstWord (cs : List Char) : List Char := (cs.dropWhile (· = ' ')).takeWhile (· ≠ ' ')

def lastWord (cs : List Char) : List Char := (firstWord cs.reverse).reverse

theorem firstWord_append {word : List Char} (hne : word ≠ []) (hword : ' ' ∉ word) (blanks : Nat) (rest : List Char) :
    firstWord (List.replicate blanks ' ' ++ (word ++ ' ' :: rest)) = word := by
  have hall : ∀ c ∈ word, decide (c ≠ ' ') = true := fun c hc => decide_eq_true fun h => hword (h ▸ hc)
  have hblanks : (List.replicate blanks ' ').dropWhile (· = ' ') = [] := by simp
  rw [firstWord, List.dropWhile_append, hblanks]
  obtain ⟨c, cs, rfl⟩ := List.exists_cons_of_ne_nil hne
  have hc : c ≠ ' ' := fun h => hword (h ▸ List.mem_cons_self)
  simp only [List.isEmpty_nil, if_true, List.cons_append, List.dropWhile_cons, hc, decide_false, Bool.false_eq_true,
    if_false]
  rw [← List.cons_append, List.takeWhile_append_of_pos hall]
  simp

theorem space_not_mem_toString (n : Int) : ' ' ∉ (toString n).toList := by
  rw [Numeral.toList_toString, List.mem_append]
  rintro (hsign | hdigit)
  · split at hsign <;> simp at hsign
  · have := Nat.isDigit_of_mem_toDigits (by decide) (by decide) hdigit
    exact absurd this (by decide)

theorem toString_ne_nil (n : Int) : (toString n).toList ≠ [] := by
  rw [Numeral.toList_toString]
  simp [Nat.toDigits_ne_nil]

/-- The row shows the id of the record first and the mean time of a run last, each to the right of its column. -/
structure Shows (r : ProgramRecord) (line : String) : Prop where
  columns : ∃ middle, line = padLeft 6 (toString r.id) ++ "  " ++ middle ++ " " ++ padLeft 10 (toString (meanTime r))
  id : firstWord line.toList = (toString r.id).toList
  mean : lastWord line.toList = (toString (meanTime r)).toList

theorem shows_of_columns (r : ProgramRecord) (middle : String) :
    Shows r (padLeft 6 (toString r.id) ++ "  " ++ middle ++ " " ++ padLeft 10 (toString (meanTime r))) := by
  refine ⟨⟨middle, rfl⟩, ?_, ?_⟩
  · have hline := firstWord_append (toString_ne_nil r.id) (space_not_mem_toString r.id) (6 - (toString r.id).length)
      (' ' :: (middle.toList ++ ' ' :: (padLeft 10 (toString (meanTime r))).toList))
    rw [← hline]
    simp [padLeft]
  · have hne : (toString (meanTime r)).toList.reverse ≠ [] := by simpa using toString_ne_nil (meanTime r)
    have hword : ' ' ∉ (toString (meanTime r)).toList.reverse := by simpa using space_not_mem_toString (meanTime r)
    have hblanks : ∀ (k : Nat) (cs : List Char),
        List.replicate k ' ' ++ ' ' :: cs = ' ' :: (List.replicate k ' ' ++ cs) := by
      intro k cs
      rw [← List.cons_append, ← List.replicate_succ, List.replicate_succ', List.append_assoc]
      rfl
    have hline := firstWord_append hne hword 0 (List.replicate (10 - (toString (meanTime r)).length) ' ' ++
      (padLeft 6 (toString r.id) ++ "  " ++ middle).toList.reverse)
    rw [lastWord, ← List.reverse_inj, List.reverse_reverse, ← hline, ← hblanks]
    simp [padLeft]

/-- The numbers of the record that rows are made of have no more than a thousand bits. -/
structure IsBounded (r : ProgramRecord) : Prop where
  id : r.id.natAbs ≤ 2 ^ 1000
  runTimeDelta : r.runTimeDelta.natAbs ≤ 2 ^ 1000
  runCountDelta : r.runCountDelta.natAbs ≤ 2 ^ 1000
  period : r.period.natAbs ≤ 2 ^ 1000

theorem exists_toFloat {n : Int} (h : n.natAbs ≤ 2 ^ 1000) :
    ∃ s m e, toFloat n = .ok (.finite s m e) ∧ (n ≠ 0 → m ≠ 0) := by
  obtain ⟨s, m, e, hsome, hm⟩ := Binary64.exists_ofInt? (Nat.le_refl 1000) h
  exact ⟨s, m, e, by rw [toFloat, hsome], hm⟩

theorem divide_finite {x : Binary64} {s : Bool} {m : Nat} {e : Int} (hm : m ≠ 0) :
    divide x (.finite s m e) = .ok (x.div (.finite s m e)) := by
  cases m with
  | zero => exact absurd rfl hm
  | succ m => rfl

/-- A period in which time has passed is no zero as a floating-point number either. -/
theorem exists_perPeriod {amount period : Int} (factor : Nat) (hamount : amount.natAbs ≤ 2 ^ 1000)
    (hperiod : period.natAbs ≤ 2 ^ 1000) : ∃ x, perPeriod factor amount period = .ok x := by
  obtain ⟨s, m, e, ha, -⟩ := exists_toFloat hamount
  obtain ⟨t, n, f, hp, hn⟩ := exists_toFloat hperiod
  rw [perPeriod]
  by_cases hzero : period ≤ 0
  · exact ⟨_, if_pos hzero⟩
  · rw [if_neg hzero, ha, hp]
    exact ⟨_, divide_finite (hn (not_le.1 hzero).ne')⟩

theorem write_eq {n : Int} {bits : Nat} (hbits : bits ≤ 1000) (h : n.natAbs ≤ 2 ^ bits) :
    write n = .ok (toString n) := by
  rw [write, Numeral.write?_eq_some hbits h]

theorem exists_row {r : ProgramRecord} (h : IsBounded r) : ∃ line, row r = .ok line ∧ Shows r line := by
  obtain ⟨cpu, hcpu⟩ := exists_perPeriod 100 h.runTimeDelta h.period
  obtain ⟨rate, hrate⟩ := exists_perPeriod 1000000000 h.runCountDelta h.period
  have hid := write_eq (Nat.le_refl 1000) h.id
  have hmean := write_eq (Nat.le_refl 1000) ((natAbs_meanTime_le r).trans h.runTimeDelta)
  refine ⟨_, ?_, shows_of_columns r (cell 16 r.bpfType ++ " " ++ cell 20 r.name ++ " " ++
    padLeft 6 (cpu.fixed 2) ++ "% " ++ padLeft 10 (rate.fixed 1))⟩
  rw [row, hcpu, hrate, average_eq, hid]
  simp only [bind, Except.bind, hmean, pure, Except.pure, String.append_assoc]

theorem exists_rowsOf {records : List ProgramRecord} (h : ∀ r ∈ records, IsBounded r) :
    ∃ lines, rowsOf records = .ok lines ∧ List.Forall₂ Shows records lines := by
  induction records with
  | nil => exact ⟨[], rfl, .nil⟩
  | cons r rs ih =>
    obtain ⟨hr, hrs⟩ := List.forall_mem_cons.1 h
    obtain ⟨line, hrow, hline⟩ := exists_row hr
    obtain ⟨lines, hrows, hlines⟩ := ih hrs
    refine ⟨line :: lines, ?_, .cons hline hlines⟩
    rw [rowsOf, hrow, hrows]
    rfl

/-! ### The order of the rows, and how many there are -/

/-- The record comes no later than another by their run-time deltas. -/
def isBusier (a b : ProgramRecord) : Bool := decide (b.runTimeDelta ≤ a.runTimeDelta)

theorem isBusier_trans (a b c : ProgramRecord) (hab : isBusier a b = true) (hbc : isBusier b c = true) :
    isBusier a c = true := by
  simp only [isBusier, decide_eq_true_eq] at *
  omega

theorem isBusier_total (a b : ProgramRecord) : (isBusier a b || isBusier b a) = true := by
  simp only [isBusier, Bool.or_eq_true, decide_eq_true_eq]
  omega

theorem pairwise_ranked (records : List ProgramRecord) :
    (ranked records).Pairwise fun a b => b.runTimeDelta ≤ a.runTimeDelta :=
  (List.pairwise_mergeSort isBusier_trans isBusier_total records).imp of_decide_eq_true

theorem filter_ranked (records : List ProgramRecord) (d : Int) :
    (ranked records).filter (·.runTimeDelta = d) = records.filter (·.runTimeDelta = d) := by
  have hequal : (records.filter (·.runTimeDelta = d)).Pairwise fun a b => isBusier a b = true := by
    refine List.pairwise_of_forall_mem_list fun a ha b hb => ?_
    have had := of_decide_eq_true (List.mem_filter.1 ha).2
    have hbd := of_decide_eq_true (List.mem_filter.1 hb).2
    exact decide_eq_true (by omega)
  have hkept := List.sublist_mergeSort isBusier_trans isBusier_total hequal List.filter_sublist
  have hfiltered := hkept.filter (·.runTimeDelta = d)
  simp only [List.filter_filter, Bool.and_self] at hfiltered
  refine (hfiltered.eq_of_length ?_).symm
  exact ((List.mergeSort_perm records _).filter _).length_eq.symm

theorem length_upTo {α : Type} (n : Int) (xs : List α) :
    ((upTo n xs).length : Int) = if 0 ≤ n then min n xs.length else max 0 (xs.length + n) := by
  unfold upTo
  split
  · rw [List.length_take]
    omega
  · rw [List.length_take]
    omega

theorem exists_upTo_append {α : Type} (n : Int) (xs : List α) : ∃ hidden, xs = upTo n xs ++ hidden := by
  unfold upTo
  split <;> exact ⟨_, (List.take_append_drop _ xs).symm⟩

/-- Records of numbers that are not too large have rows, whatever their signs: one for each of those that come first
in falling order of the run-time deltas, equal ones as they come, and as many as the limit says. None that is left
out has a greater delta than one that is shown. Where time has passed it is no zero, so it can be divided by. -/
theorem rows_of_isBounded {records : List ProgramRecord} (h : ∀ r ∈ records, IsBounded r) (n : Int) :
    ∃ sorted shown hidden lines,
      List.Perm sorted records ∧ sorted.Pairwise (fun a b => b.runTimeDelta ≤ a.runTimeDelta) ∧
      (∀ d, sorted.filter (·.runTimeDelta = d) = records.filter (·.runTimeDelta = d)) ∧
      sorted = shown ++ hidden ∧
      (shown.length : Int) = (if 0 ≤ n then min n records.length else max 0 (records.length + n)) ∧
      (∀ a ∈ shown, ∀ b ∈ hidden, b.runTimeDelta ≤ a.runTimeDelta) ∧
      rows records (.first n) = .ok lines ∧ List.Forall₂ Shows shown lines ∧
      ∀ r ∈ records, 0 < r.period → ∃ s m e, toFloat r.period = .ok (.finite s m e) ∧ m ≠ 0 := by
  have hperm : (ranked records).Perm records := List.mergeSort_perm _ _
  have hpairwise := pairwise_ranked records
  obtain ⟨hidden, hhidden⟩ := exists_upTo_append n (ranked records)
  have hbounded : ∀ r ∈ upTo n (ranked records), IsBounded r := fun r hr =>
    h r (hperm.subset (hhidden ▸ List.mem_append_left hidden hr))
  obtain ⟨lines, hrows, hlines⟩ := exists_rowsOf hbounded
  refine ⟨ranked records, upTo n (ranked records), hidden, lines, hperm, hpairwise, filter_ranked records, hhidden,
    ?_, ?_, ?_, hlines, fun r hr hperiod => ?_⟩
  · rw [length_upTo, hperm.length_eq]
  · rw [hhidden] at hpairwise
    exact (List.pairwise_append.1 hpairwise).2.2
  · rw [rows]
    simp only [Limit.take, hrows]
  · obtain ⟨s, m, e, hfloat, hm⟩ := exists_toFloat (h r hr).period
    exact ⟨s, m, e, hfloat, hm hperiod.ne'⟩

/-- A program that has not run, two of one run-time delta, one of them by fewer runs than none, and one whose time
went back. -/
def mixedRecords : List ProgramRecord :=
  [{ id := 1, bpfType := "xdp", name := "still" },
    { id := -2, bpfType := "xdp", name := "busy", runTime := 7, runCount := -2, uptime := 5 },
    { id := 3, bpfType := "kprobe", name := "other", runTime := 9, prevRunTime := 2, runCount := 2 },
    { id := 4, bpfType := "kprobe", name := "back", prevRunTime := 3, runCount := 1, prevUptime := 8 }]

theorem rows_mixedRecords : (∀ r ∈ mixedRecords, IsBounded r) ∧
    ∃ lines, rows mixedRecords (.first (-1)) = .ok lines ∧ lines.length = 3 := by
  have hbounded : ∀ r ∈ mixedRecords, IsBounded r := by
    have hsmall : ∀ n ≤ 9, n ≤ 2 ^ 1000 := fun n hn => hn.trans (by decide +kernel)
    have hall : ∀ r ∈ mixedRecords, r.id.natAbs ≤ 9 ∧ r.runTimeDelta.natAbs ≤ 9 ∧ r.runCountDelta.natAbs ≤ 9 ∧
        r.period.natAbs ≤ 9 := by decide
    intro r hr
    obtain ⟨hid, htime, hcount, hperiod⟩ := hall r hr
    exact ⟨hsmall _ hid, hsmall _ htime, hsmall _ hcount, hsmall _ hperiod⟩
  obtain ⟨sorted, shown, hidden, lines, -, -, -, -, hlength, -, hrows, hlines, -⟩ := rows_of_isBounded hbounded (-1)
  refine ⟨hbounded, lines, hrows, ?_⟩
  rw [← hlines.length_eq]
  simp only [mixedRecords, List.length_cons, List.length_nil] at hlength
  omega

end TopTable
end BpfExporter
