import Mathlib.Algebra.Ring.Int.Defs
import BpfExporter.Proofs.WholeText
import BpfExporter.Proofs.Writing

/-! Texts decoded one after another, each with the records of the one before as its baseline. A baseline holds
nothing but counters of the text before, so a run has no memory of texts before that, and the deltas of a
program that stays are the rises of its counters. -/
namespace BpfExporter

namespace ProgramRecord

/-- The counters that have a baseline. -/
inductive Counter
  | runTime | runCount | uptime

def value (r : ProgramRecord) : Counter → Int
  | .runTime => r.runTime
  | .runCount => r.runCount
  | .uptime => r.uptime

/-- The change of a counter since the scrape before. -/
def delta (r : ProgramRecord) : Counter → Int
  | .runTime => r.runTimeDelta
  | .runCount => r.runCountDelta
  | .uptime => r.period

variable (r : ProgramRecord) (previous : Option ProgramRecord)

@[simp] theorem id_carryOver : (r.carryOver previous).id = r.id := by
  unfold carryOver; split <;> rfl

@[simp] theorem bpfType_carryOver : (r.carryOver previous).bpfType = r.bpfType := by
  unfold carryOver; split <;> rfl

@[simp] theorem name_carryOver : (r.carryOver previous).name = r.name := by
  unfold carryOver; split <;> rfl

@[simp] theorem value_carryOver (k : Counter) : (r.carryOver previous).value k = r.value k := by
  unfold carryOver; split <;> cases k <;> rfl

theorem delta_nonneg_carryOver (k : Counter) : 0 ≤ (r.carryOver previous).delta k := by
  obtain ⟨hruntime, hcount, huptime⟩ := r.carryOver_deltas previous
  cases k
  · exact hruntime
  · exact hcount
  · exact huptime

@[simp] theorem carryOver_carryOver (q : Option ProgramRecord) :
    (r.carryOver previous).carryOver q = r.carryOver q := by
  have hsame : (r.carryOver previous).sameEntity = r.sameEntity := by
    funext s
    simp only [sameEntity, id_carryOver, bpfType_carryOver, name_carryOver]
  rw [carryOver.eq_def, hsame, carryOver.eq_def r q]
  cases q.filter r.sameEntity with
  | none =>
    unfold carryOver
    cases previous.filter r.sameEntity <;> rfl
  | some p =>
    unfold carryOver
    cases previous.filter r.sameEntity <;> rfl

theorem carryOver_some (s : ProgramRecord) :
    r.carryOver (some s) = if r.sameEntity s then { r with
      prevRunTime := baseline s.runTime r.runTime
      prevRunCount := baseline s.runCount r.runCount
      prevUptime := baseline s.uptime r.uptime } else r.carryOver none := by
  rw [carryOver, Option.filter_some]
  by_cases h : r.sameEntity s = true
  · rw [if_pos h, if_pos h]
  · rw [if_neg h, if_neg h]
    rfl

theorem carryOver_map_carryOver (q : Option ProgramRecord) :
    r.carryOver (q.map (·.carryOver previous)) = r.carryOver q := by
  cases q with
  | none => rfl
  | some s =>
    have hsame : r.sameEntity (s.carryOver previous) = r.sameEntity s := by
      simp only [sameEntity, id_carryOver, bpfType_carryOver, name_carryOver]
    have hruntime : (s.carryOver previous).runTime = s.runTime := s.value_carryOver previous .runTime
    have hcount : (s.carryOver previous).runCount = s.runCount := s.value_carryOver previous .runCount
    have huptime : (s.carryOver previous).uptime = s.uptime := s.value_carryOver previous .uptime
    rw [Option.map_some, carryOver_some, carryOver_some, hsame, hruntime, hcount, huptime]

theorem delta_carryOver_of_fresh
    (h : ∀ s ∈ previous, ¬(r.id = s.id ∧ r.bpfType = s.bpfType ∧ r.name = s.name)) (k : Counter) :
    (r.carryOver previous).delta k = 0 := by
  have hnone : previous.filter r.sameEntity = none := by
    rw [Option.filter_eq_none_iff]
    intro s hs
    simpa [sameEntity, and_assoc] using h s hs
  rw [carryOver, hnone]
  cases k <;> simp [delta, runTimeDelta, runCountDelta, period]

theorem delta_carryOver_of_same {s : ProgramRecord}
    (h : r.id = s.id ∧ r.bpfType = s.bpfType ∧ r.name = s.name) (k : Counter) :
    (r.carryOver (some s)).delta k = max 0 (r.value k - s.value k) := by
  have hsame : r.sameEntity s = true := by
    simp [sameEntity, h]
  rw [carryOver_some, if_pos hsame]
  cases k <;> simp only [delta, value, runTimeDelta, runCountDelta, period, baseline] <;> split <;> omega

end ProgramRecord

namespace Exposition

open ProgramRecord (Counter)

variable {path : String}

/-! ### Baselines -/

@[simp] theorem withBaseline_withBaseline (previous previous' records : Records) :
    withBaseline previous (withBaseline previous' records) = withBaseline previous records := by
  simp [withBaseline]

@[simp] theorem withBaseline_left (previous previous' records : Records) :
    withBaseline (withBaseline previous' previous) records = withBaseline previous records := by
  apply List.map_congr_left
  intro p _
  rw [get?_withBaseline, ProgramRecord.carryOver_map_carryOver]

/-- A text that is decoded is decoded after any records, and into the same but for the baselines. -/
theorem decode_of_decode {c : Chunk} {previous records : Records}
    (h : decode c path previous = .ok records) (previous' : Records) :
    decode c path previous' = .ok (withBaseline previous' records) := by
  obtain ⟨doc, hspells, hfold⟩ := decode_eq_ok_iff.1 h
  obtain ⟨gathered, hgather, rfl⟩ := foldPrograms_eq_ok_iff.1 hfold
  rw [decode_of_spells hspells, withBaseline_withBaseline]
  exact foldPrograms_eq_ok_iff.2 ⟨gathered, hgather, rfl⟩

/-- Records stand under their ids. -/
def Keyed (records : Records) : Prop := ∀ id r, Assoc.get? id records = some r → r.id = id

theorem keyed_withBaseline {previous records : Records} (h : Keyed records) :
    Keyed (withBaseline previous records) := by
  intro id r hr
  rw [get?_withBaseline, Option.map_eq_some_iff] at hr
  obtain ⟨r', hr', rfl⟩ := hr
  rw [ProgramRecord.id_carryOver]
  exact h id r' hr'

theorem keyed_of_decode {c : Chunk} {previous records : Records}
    (h : decode c path previous = .ok records) : Keyed records := by
  obtain ⟨doc, -, hfold⟩ := decode_eq_ok_iff.1 h
  obtain ⟨gathered, hgather, rfl⟩ := foldPrograms_eq_ok_iff.1 hfold
  apply keyed_withBaseline
  intro id r hr
  rw [get?_ordered (nodup_keys_gather hgather List.nodup_nil), get?_gather hgather] at hr
  exact id_of_foldl_write hr (by simp [Assoc.get?])

/-! ### Runs -/

/-- Texts decoded one after another, each with the records of the one before. -/
def decodeAll (path : String) (previous : Records) : List Chunk → Except DecodeError (List Records)
  | [] => .ok []
  | c :: cs => match decode c path previous with
    | .error e => .error e
    | .ok records => (decodeAll path records cs).map (records :: ·)

/-- Records one after another, each with those before as their baseline. -/
def carried (previous : Records) : List Records → List Records
  | [] => []
  | records :: rest => withBaseline previous records :: carried records rest

theorem length_carried (previous : Records) (rest : List Records) :
    (carried previous rest).length = rest.length := by
  induction rest generalizing previous with
  | nil => rfl
  | cons records rest ih => rw [carried, List.length_cons, List.length_cons, ih]

theorem carried_withBaseline (previous previous' : Records) (rest : List Records) :
    carried (withBaseline previous' previous) rest = carried previous rest := by
  cases rest with
  | nil => rfl
  | cons records rest => rw [carried, carried, withBaseline_left]

theorem decodeAll_eq {cs : List Chunk} {alone : List Records}
    (h : cs.map (decode · path []) = alone.map .ok) (previous : Records) :
    decodeAll path previous cs = .ok (carried previous alone) := by
  induction cs generalizing alone previous with
  | nil =>
    rw [List.map_nil, eq_comm, List.map_eq_nil_iff] at h
    rw [h]
    rfl
  | cons c cs ih =>
    cases alone with
    | nil => simp at h
    | cons records alone =>
      -- What is carried to the rest has a baseline of its own, at which the rest does not look.
      rw [List.map_cons, List.map_cons, List.cons.injEq] at h
      rw [decodeAll, decode_of_decode h.1 previous]
      simp only [ih h.2, carried_withBaseline]
      rfl

theorem exists_alone {cs : List Chunk}
    (h : ∀ c ∈ cs, ∃ previous records, decode c path previous = .ok records) :
    ∃ alone : List Records, cs.map (decode · path []) = alone.map .ok := by
  induction cs with
  | nil => exact ⟨[], rfl⟩
  | cons c cs ih =>
    rw [List.forall_mem_cons] at h
    obtain ⟨⟨previous, records, hc⟩, hcs⟩ := h
    obtain ⟨alone, halone⟩ := ih hcs
    refine ⟨withBaseline [] records :: alone, ?_⟩
    rw [List.map_cons, List.map_cons, halone, decode_of_decode hc]

theorem drop_carried {alone : List Records} {i : Nat} (h : i < alone.length) (previous : Records) :
    (carried previous alone).drop (i + 1) = carried alone[i] (alone.drop (i + 1)) := by
  induction alone generalizing i previous with
  | nil => simp at h
  | cons records alone ih =>
    cases i with
    | zero => rfl
    | succ i => exact ih (Nat.lt_of_succ_lt_succ h) records

theorem exists_withBaseline_of_carried {previous R R' : Records} {alone before after : List Records}
    (h : previous :: carried previous alone = before ++ R :: R' :: after) :
    ∃ records, R' = withBaseline R records := by
  induction before generalizing previous alone with
  | nil =>
    obtain ⟨rfl, hrest⟩ := List.cons.inj h
    match alone, hrest with
    | records :: _, hrest => exact ⟨records, (List.cons.inj hrest).1.symm⟩
  | cons S before ih =>
    obtain ⟨rfl, hrest⟩ := List.cons.inj h
    match alone, hrest with
    | [], hrest => simp [carried] at hrest
    | records :: alone, hrest =>
      rw [carried, ← carried_withBaseline records previous] at hrest
      exact ih hrest

/-! ### Counters over a run -/

/-- The record of the id is one of the program. -/
def HasProgram (id : Int) (bpfType name : String) (records : Records) : Prop :=
  ∃ r, Assoc.get? id records = some r ∧ r.bpfType = bpfType ∧ r.name = name

/-- The values of a counter in the records of an id. -/
def values (id : Int) (k : Counter) (results : List Records) : List Int :=
  results.filterMap fun records => (Assoc.get? id records).map (·.value k)

/-- The changes of a counter in the records of an id. -/
def deltas (id : Int) (k : Counter) (results : List Records) : List Int :=
  results.filterMap fun records => (Assoc.get? id records).map (·.delta k)

/-- How far each value is above the one before; a fall counts for nothing. -/
def rises (vs : List Int) : List Int := List.zipWith (fun v w => max 0 (w - v)) vs vs.tail

@[simp] theorem rises_cons_cons (v w : Int) (vs : List Int) :
    rises (v :: w :: vs) = max 0 (w - v) :: rises (w :: vs) := rfl

theorem sum_rises {vs : List Int} (h : vs.Pairwise (· ≤ ·)) {first last : Int}
    (hfirst : vs.head? = some first) (hlast : vs.getLast? = some last) :
    (rises vs).sum = last - first := by
  induction vs generalizing first with
  | nil => simp at hfirst
  | cons v vs ih =>
    obtain rfl := Option.some.inj hfirst
    cases vs with
    | nil =>
      obtain rfl := Option.some.inj hlast
      simp [rises]
    | cons w vs =>
      rw [List.getLast?_cons_cons] at hlast
      have hrest := ih (List.pairwise_cons.1 h).2 rfl hlast
      have hle : v ≤ w := (List.pairwise_cons.1 h).1 w List.mem_cons_self
      rw [rises_cons_cons, List.sum_cons, hrest]
      omega

@[simp] theorem hasProgram_withBaseline_iff {id : Int} {bpfType name : String}
    {previous records : Records} :
    HasProgram id bpfType name (withBaseline previous records) ↔ HasProgram id bpfType name records := by
  unfold HasProgram
  rw [get?_withBaseline]
  cases Assoc.get? id records <;> simp

theorem hasProgram_carried_iff {id : Int} {bpfType name : String} {previous : Records}
    {alone : List Records} :
    (∀ R ∈ carried previous alone, HasProgram id bpfType name R) ↔
      ∀ R ∈ alone, HasProgram id bpfType name R := by
  induction alone generalizing previous with
  | nil => rfl
  | cons records alone ih =>
    rw [carried, List.forall_mem_cons, List.forall_mem_cons, hasProgram_withBaseline_iff, ih]

theorem values_carried (id : Int) (k : Counter) (previous : Records) (alone : List Records) :
    values id k (carried previous alone) = values id k alone := by
  induction alone generalizing previous with
  | nil => rfl
  | cons records alone ih =>
    have hrest := ih records
    have hvalue : (Assoc.get? id (withBaseline previous records)).map (·.value k) =
        (Assoc.get? id records).map (·.value k) := by
      rw [get?_withBaseline, Option.map_map]
      congr 1
      funext r
      exact r.value_carryOver _ k
    unfold values at hrest ⊢
    rw [carried, List.filterMap_cons, List.filterMap_cons, hvalue, hrest]

/-- The changes of a counter of a program that stays are the rises of its values. -/
theorem deltas_carried {id : Int} {bpfType name : String} {previous : Records} {alone : List Records}
    (hkeyed : ∀ R ∈ previous :: alone, Keyed R)
    (hstays : ∀ R ∈ previous :: alone, HasProgram id bpfType name R) (k : Counter) :
    deltas id k (carried previous alone) = rises (values id k (previous :: alone)) := by
  induction alone generalizing previous with
  | nil =>
    obtain ⟨r, hr, -, -⟩ := hstays previous List.mem_cons_self
    simp [deltas, carried, values, rises, hr]
  | cons records alone ih =>
    rw [List.forall_mem_cons] at hkeyed hstays
    have hrest := ih hkeyed.2 hstays.2
    obtain ⟨r, hr, hrtype, hrname⟩ := hstays.1
    obtain ⟨s, hs, hstype, hsname⟩ := hstays.2 records List.mem_cons_self
    -- The id is that of both records only because records stand under their ids.
    have hsame : s.id = r.id ∧ s.bpfType = r.bpfType ∧ s.name = r.name := by
      rw [hkeyed.1 id r hr, hkeyed.2 records List.mem_cons_self id s hs]
      exact ⟨rfl, hstype.trans hrtype.symm, hsname.trans hrname.symm⟩
    have hdelta : (Assoc.get? id (withBaseline previous records)).map (·.delta k) =
        some (max 0 (s.value k - r.value k)) := by
      rw [get?_withBaseline, hs, hr]
      exact congrArg some (s.delta_carryOver_of_same hsame k)
    have hvalues : values id k (previous :: records :: alone) =
        r.value k :: s.value k :: values id k alone := by
      simp [values, hr, hs]
    have hvalues' : values id k (records :: alone) = s.value k :: values id k alone := by
      simp [values, hs]
    rw [hvalues, rises_cons_cons, ← hvalues', ← hrest]
    simp only [deltas, carried, List.filterMap_cons, hdelta]

theorem delta_nonneg_of_carried {previous R : Records} {alone : List Records}
    (hR : R ∈ carried previous alone) {id : Int} {r : ProgramRecord} (hr : (id, r) ∈ R) (k : Counter) :
    0 ≤ r.delta k := by
  induction alone generalizing previous with
  | nil => simp [carried] at hR
  | cons records alone ih =>
    rcases List.mem_cons.1 hR with rfl | hR
    · obtain ⟨p, -, hp⟩ := List.mem_map.1 hr
      obtain ⟨-, rfl⟩ := Prod.mk.inj hp
      exact p.2.delta_nonneg_carryOver _ k
    · exact ih hR

theorem delta_of_fresh {previous records : Records} {id : Int} {r : ProgramRecord}
    (hr : (id, r) ∈ withBaseline previous records)
    (hfresh : ∀ q, Assoc.get? id previous = some q → q.bpfType ≠ r.bpfType ∨ q.name ≠ r.name)
    (k : Counter) : r.delta k = 0 := by
  obtain ⟨p, -, hp⟩ := List.mem_map.1 hr
  obtain ⟨rfl, rfl⟩ := Prod.mk.inj hp
  apply p.2.delta_carryOver_of_fresh
  rintro q hq ⟨-, htype, hname⟩
  simp only [ProgramRecord.bpfType_carryOver, ProgramRecord.name_carryOver] at hfresh
  rcases hfresh q hq with h | h
  · exact h htype.symm
  · exact h hname.symm

/-- Texts that are decoded at all are decoded one after another. No delta is negative; what comes after a
text does not depend on what came before it; the deltas of a program that is in all results add up to the
rises of its counters; and a program that is new, or has an id from another one, has none. -/
theorem decodeAll_deltas {cs : List Chunk}
    (hdecode : ∀ c ∈ cs, ∃ previous records, decode c path previous = .ok records) (previous : Records) :
    ∃ results, decodeAll path previous cs = .ok results ∧ results.length = cs.length ∧
      (∀ R ∈ results, ∀ id r, (id, r) ∈ R → ∀ k, 0 ≤ r.delta k) ∧
      (∀ i < cs.length, ∀ previous',
        ∃ R, decodeAll path previous' (cs.drop i) = .ok (R :: results.drop (i + 1))) ∧
      (∀ id bpfType name, (∀ R ∈ results, HasProgram id bpfType name R) → ∀ k,
        (deltas id k results.tail).sum = (rises (values id k results)).sum ∧
        ∀ first last, (values id k results).head? = some first →
          (values id k results).getLast? = some last → (values id k results).Pairwise (· ≤ ·) →
            (deltas id k results.tail).sum = last - first) ∧
      ∀ before R R' after, previous :: results = before ++ R :: R' :: after → ∀ id r, (id, r) ∈ R' →
        (∀ q, Assoc.get? id R = some q → q.bpfType ≠ r.bpfType ∨ q.name ≠ r.name) →
          ∀ k, r.delta k = 0 := by
  obtain ⟨alone, halone⟩ := exists_alone hdecode
  have hlength : alone.length = cs.length := by
    have := congrArg List.length halone
    simpa using this.symm
  have hkeyed : ∀ R ∈ alone, Keyed R := by
    intro R hR
    have hmem : Except.ok R ∈ cs.map (decode · path []) := halone ▸ List.mem_map_of_mem hR
    obtain ⟨c, -, hc⟩ := List.mem_map.1 hmem
    exact keyed_of_decode hc
  refine ⟨carried previous alone, decodeAll_eq halone previous, ?_, ?_, ?_, ?_, ?_⟩
  · rw [length_carried, hlength]
  · intro R hR id r hr k
    exact delta_nonneg_of_carried hR hr k
  · intro i hi previous'
    have hi' : i < alone.length := hlength ▸ hi
    have hdrop : (cs.drop i).map (decode · path []) = (alone.drop i).map .ok := by
      rw [List.map_drop, List.map_drop, halone]
    refine ⟨withBaseline previous' alone[i], ?_⟩
    rw [decodeAll_eq hdrop, drop_carried hi', List.drop_eq_getElem_cons hi', carried]
  · intro id bpfType name hstays k
    have hsum : deltas id k (carried previous alone).tail =
        rises (values id k (carried previous alone)) := by
      rw [values_carried]
      rw [hasProgram_carried_iff] at hstays
      cases alone with
      | nil => rfl
      | cons records alone => exact deltas_carried hkeyed hstays k
    rw [hsum]
    exact ⟨rfl, fun first last hfirst hlast hsorted => sum_rises hsorted hfirst hlast⟩
  · intro before R R' after hsplit id r hr hfresh k
    obtain ⟨records, rfl⟩ := exists_withBaseline_of_carried hsplit
    exact delta_of_fresh hr hfresh k

/-- A text with the run time of the program 7. -/
def runTimeText (v : UInt64) : Chunk :=
  .text (String.ofList
    (TypedMetric.document [.counter _ TypedMetric.isMetricName_runTime "7" "p" v]).text)

def runTimeRecords (v : UInt64) : Records :=
  [(7, { id := 7, bpfType := "", name := "p", runTime := v.toNat, prevRunTime := v.toNat })]

theorem decode_runTimeText (v : UInt64) :
    decode (runTimeText v) "bpf_prog" [] = .ok (runTimeRecords v) := by
  let s : Sample :=
    ⟨"bpf_prog_run_time_nanoseconds", .counter, [("id", "7"), ("name", "p")], v.toNat, 3⟩
  have hfield : s.field? "bpf_prog" = some .runTime := by
    show (belowPath? "bpf_prog" "bpf_prog_run_time_nanoseconds").bind ProgramRecord.fieldOf? = _
    decide
  have hlabel : s.label "id" = "7" := rfl
  have hid : s.id = .ok 7 := by
    rw [Sample.id_eq_ok_iff, Sample.HasDigits, hlabel]
    exact ⟨by simp, by rfl, by decide⟩
  have hgather : gather "bpf_prog" [] [s] =
      .ok [(7, { id := 7, bpfType := "", name := "p", runTime := v.toNat })] := by
    rw [gather, foldSample, hfield, hid]
    rfl
  rw [runTimeText, decode_of_spells (Chunk.spells_ofList _), TypedMetric.read_counter,
    foldPrograms_eq_ok_iff]
  refine ⟨_, hgather, ?_⟩
  simp [ordered, withBaseline, ProgramRecord.carryOver, Assoc.get?, runTimeRecords]

/-- A counter that is reset once: what it ran before counts, and so does what it ran after. -/
theorem decodeAll_deltas_reset :
    ∃ results, decodeAll "bpf_prog" [] ([5, 9, 2, 6].map runTimeText) = .ok results ∧
      values 7 .runTime results = [5, 9, 2, 6] ∧ (deltas 7 .runTime results.tail).sum = 8 := by
  have halone : ([5, 9, 2, 6].map runTimeText).map (decode · "bpf_prog" []) =
      ([5, 9, 2, 6].map runTimeRecords).map .ok := by
    simp [decode_runTimeText]
  have hdecode : ∀ c ∈ [5, 9, 2, 6].map runTimeText,
      ∃ previous records, decode c "bpf_prog" previous = .ok records := by
    intro c hc
    obtain ⟨v, -, rfl⟩ := List.mem_map.1 hc
    exact ⟨[], runTimeRecords v, decode_runTimeText v⟩
  obtain ⟨results, hrun, -, -, -, hsums, -⟩ := decodeAll_deltas hdecode []
  have hresults : carried [] ([5, 9, 2, 6].map runTimeRecords) = results :=
    Except.ok.inj ((decodeAll_eq halone []).symm.trans hrun)
  have hvalues : values 7 .runTime results = [5, 9, 2, 6] := by
    rw [← hresults, values_carried]
    rfl
  have hstays : ∀ R ∈ results, HasProgram 7 "" "p" R := by
    rw [← hresults, hasProgram_carried_iff]
    intro R hR
    obtain ⟨v, -, rfl⟩ := List.mem_map.1 hR
    exact ⟨_, rfl, rfl, rfl⟩
  refine ⟨results, hrun, hvalues, ?_⟩
  rw [(hsums 7 "" "p" hstays .runTime).1, hvalues]
  rfl

end Exposition

end BpfExporter
