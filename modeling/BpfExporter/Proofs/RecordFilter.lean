import BpfExporter.Proofs.Operations

/-! Records that are no snapshots. Each is dropped alone: what a collection stores is what it would store from
the listings without such records. A time that the clock has no words for is another matter, and a collection
comes to its end exactly when no listing that it consults has one. -/
namespace BpfExporter

/-- The clock has words for the number of seconds, if perhaps no date. -/
def Instant.IsTold : Except EpochError Instant → Prop
  | .error .overflow | .error .yearOverflow => False
  | .error .outOfCalendar | .ok _ => True

/-- The time at which the object was loaded is no number, or one that the clock has words for: the year of an
epoch second fits 32 bits. -/
def Json.IsTimely (v : Json) : Prop :=
  match v.fieldD "loaded_at" with
  | .int n => Instant.firstYearSecond ≤ n ∧ n ≤ Instant.lastYearSecond
  | .float x => Instant.IsTold (Instant.ofFloatSeconds x)
  | _ => True

namespace Instant

theorem isTold_ofSeconds_iff {n : Int} :
    IsTold (ofSeconds n) ↔ firstYearSecond ≤ n ∧ n ≤ lastYearSecond := by
  have hsecond : Int.fdiv (n * 1000000) 1000000 = n := Int.mul_fdiv_cancel n (by decide)
  simp only [ofSeconds, ofMicros, hsecond]
  by_cases hword : n < -0x8000000000000000 ∨ 0x7fffffffffffffff < n
  · rw [if_pos hword]
    refine iff_of_false id ?_
    simp only [firstYearSecond, lastYearSecond]
    omega
  · rw [if_neg hword]
    by_cases hyear : n < firstYearSecond ∨ lastYearSecond < n
    · rw [if_pos hyear]
      refine iff_of_false id ?_
      omega
    · rw [if_neg hyear]
      refine iff_of_true ?_ (by omega)
      split <;> trivial

end Instant

namespace Snapshot

theorem exists_ofEpoch_iff {t : Except Instant.EpochError Instant} :
    (∃ checked, ofEpoch t = .ok checked) ↔ Instant.IsTold t := by
  rcases t with (_ | _ | _) | _ <;> simp [ofEpoch, Instant.IsTold]

theorem exists_checkLoadedAt_iff {v : Json} : (∃ checked, checkLoadedAt v = .ok checked) ↔ v.IsTimely := by
  unfold checkLoadedAt Json.IsTimely
  cases v.fieldD "loaded_at" with
  | int n => exact exists_ofEpoch_iff.trans Instant.isTold_ofSeconds_iff
  | float x => exact exists_ofEpoch_iff
  | _ => simp

theorem mapError_invalid_ne (checked : Validation.Checked Snapshot) (e : ClockError) :
    checked.mapError CheckError.invalid ≠ .error (.clock e) := by
  intro h
  cases checked <;> cases h

/-- A time without words is an error of its own; all else that is wrong with a record are issues. -/
theorem exists_clock_iff {v : Json} : (∃ e, check v = .error (.clock e)) ↔ ¬v.IsTimely := by
  rw [← exists_checkLoadedAt_iff]
  cases v with
  | obj fields =>
    simp only [check]
    cases checkLoadedAt (.obj fields) with
    | error e => simp
    | ok checked =>
      exact iff_of_false (fun ⟨e, he⟩ => mapError_invalid_ne _ e he) fun hno => hno ⟨checked, rfl⟩
  | _ => simp [check, checkLoadedAt, Json.fieldD, Json.field?]

end Snapshot

namespace Record

def IsTimely : Record → Prop
  | .ready _ => True
  | .raw v => v.IsTimely

def isAccepted : Record → Bool
  | .ready _ => true
  | .raw v => (Snapshot.check v).isOk

theorem isTimely_of_isAccepted {r : Record} (h : r.isAccepted = true) : r.IsTimely := by
  cases r with
  | ready s => trivial
  | raw v =>
    refine Classical.not_not.1 fun hv => ?_
    obtain ⟨e, he⟩ := Snapshot.exists_clock_iff.2 hv
    simp [isAccepted, he, Except.isOk, Except.toBool] at h

theorem load?_of_isTimely {r : Record} (h : r.IsTimely) :
    ∃ s?, r.load? = .ok s? ∧ s?.isSome = r.isAccepted := by
  cases r with
  | ready s => exact ⟨some s, rfl, rfl⟩
  | raw v =>
    cases hc : Snapshot.check v with
    | ok s => exact ⟨some s, by simp only [load?, hc], by simp [isAccepted, hc, Except.isOk, Except.toBool]⟩
    | error e =>
      cases e with
      | invalid issues =>
        exact ⟨none, by simp only [load?, hc], by simp [isAccepted, hc, Except.isOk, Except.toBool]⟩
      | clock e => exact absurd h (Snapshot.exists_clock_iff.1 ⟨e, hc⟩)

theorem load?_of_not_isTimely {r : Record} (h : ¬r.IsTimely) : ∃ e, r.load? = .error e := by
  cases r with
  | ready s => exact absurd trivial h
  | raw v =>
    obtain ⟨e, he⟩ := Snapshot.exists_clock_iff.2 h
    exact ⟨e, by simp only [load?, he]⟩

theorem exists_load?_iff {r : Record} : (∃ s?, r.load? = .ok s?) ↔ r.IsTimely := by
  constructor
  · intro ⟨s?, hload⟩
    refine Classical.not_not.1 fun hr => ?_
    obtain ⟨e, he⟩ := load?_of_not_isTimely hr
    rw [hload] at he
    cases he
  · intro hr
    obtain ⟨s?, hload, -⟩ := load?_of_isTimely hr
    exact ⟨s?, hload⟩

theorem exists_loadAll_iff {rs : List Record} : (∃ ss, loadAll rs = .ok ss) ↔ ∀ r ∈ rs, r.IsTimely := by
  induction rs with
  | nil => simp [loadAll]
  | cons r rs ih =>
    rw [List.forall_mem_cons, ← ih, loadAll]
    by_cases hr : r.IsTimely
    · obtain ⟨s?, hload, -⟩ := load?_of_isTimely hr
      rw [hload]
      cases loadAll rs <;> simp [Except.map, hr]
    · obtain ⟨e, hload⟩ := load?_of_not_isTimely hr
      rw [hload]
      simp [hr]

theorem loadAll_filter {rs : List Record} (h : ∀ r ∈ rs, r.IsTimely) :
    loadAll (rs.filter isAccepted) = loadAll rs := by
  induction rs with
  | nil => rfl
  | cons r rs ih =>
    obtain ⟨hr, hrs⟩ := List.forall_mem_cons.1 h
    obtain ⟨s?, hload, hsome⟩ := load?_of_isTimely hr
    obtain ⟨ss, hss⟩ := exists_loadAll_iff.2 hrs
    rw [loadAll, hload]
    cases s? with
    | none => rw [List.filter_cons_of_neg (by simp [← hsome]), ih hrs, hss]; rfl
    | some s => rw [List.filter_cons_of_pos (by simp [← hsome]), loadAll, hload, ih hrs]

end Record

namespace Listing

def IsTimely (l : Listing) : Prop := ∀ records, l = .ok records → ∀ r ∈ records, r.IsTimely

/-- The listing without the records that are no snapshots. -/
def accepted (l : Listing) : Listing := l.map (List.filter Record.isAccepted)

theorem isTimely_accepted (l : Listing) : l.accepted.IsTimely := by
  intro records hrecords r hr
  cases l with
  | error f => cases hrecords
  | ok records' =>
    obtain rfl := Except.ok.inj hrecords
    exact Record.isTimely_of_isAccepted (List.mem_filter.1 hr).2

theorem load_accepted {l : Listing} (h : l.IsTimely) (s : Subject) : l.accepted.load s = l.load s := by
  cases l with
  | error f => rfl
  | ok records =>
    have hload := Record.loadAll_filter (h records rfl)
    simp only [accepted, Except.map, load, hload]

theorem exists_clock_iff {l : Listing} {s : Subject} :
    (∃ e, l.load s = .error (.clock e)) ↔ ¬l.IsTimely := by
  cases l with
  | error f => simp [load, IsTimely]
  | ok records =>
    have htimely : IsTimely (.ok records) ↔ ∃ ss, Record.loadAll records = .ok ss := by
      rw [Record.exists_loadAll_iff]
      exact ⟨fun h => h records rfl, fun h _ hrecords => Except.ok.inj hrecords ▸ h⟩
    rw [htimely]
    cases hload : Record.loadAll records <;> simp [load, hload]

end Listing

namespace Source

/-- No listing of the subjects has a time that the clock has no words for. -/
def IsTimely (source : Source) (ss : List Subject) : Prop := ∀ s ∈ ss, (source s).IsTimely

/-- The source without the records that are no snapshots. -/
def accepted (source : Source) : Source := fun s => (source s).accepted

end Source

namespace Registry

theorem exists_collectEach_iff {source : Source} {now : Instant} {fs : Families Kind} {ss : List Subject} :
    (∃ errors, (collectEach source now fs ss).1 = .ok errors) ↔ source.IsTimely ss := by
  induction ss generalizing fs with
  | nil => simp [collectEach, Source.IsTimely]
  | cons s ss ih =>
    have hclock := Listing.exists_clock_iff (l := source s) (s := s)
    rw [Source.IsTimely, List.forall_mem_cons, collectEach_cons]
    cases hload : (source s).load s with
    | ok snapshots =>
      have htimely : (source s).IsTimely := by simpa [hload] using hclock
      simp only [htimely, true_and]
      exact ih
    | error e =>
      cases e with
      | clock e =>
        have hno : ¬(source s).IsTimely := hclock.1 ⟨e, hload⟩
        simp [hno]
      | adapter e =>
        have htimely : (source s).IsTimely := by simpa [hload] using hclock
        simp only [htimely, true_and]
        refine Iff.trans ?_ (@ih fs)
        cases (collectEach source now fs ss).1 <;> simp [Except.map]

theorem exists_collect_iff {r : Registry} {source : Source} {now : Instant} :
    (∃ errors, (r.collect (some source) now).1 = .ok errors) ↔ source.IsTimely r.subjects := by
  rw [← exists_collectEach_iff]
  simp only [collect]
  cases (collectEach source now r.families r.subjects).1 with
  | ok errors => exact iff_of_true ⟨errors, rfl⟩ ⟨errors, rfl⟩
  | error e =>
    refine iff_of_false ?_ ?_
    · rintro ⟨errors, h⟩
      cases h
    · rintro ⟨errors, h⟩
      cases h

theorem collectEach_accepted {source : Source} {now : Instant} {fs : Families Kind} {ss : List Subject}
    (h : source.IsTimely ss) : collectEach source.accepted now fs ss = collectEach source now fs ss := by
  induction ss generalizing fs with
  | nil => rfl
  | cons s ss ih =>
    obtain ⟨hs, hss⟩ := List.forall_mem_cons.1 h
    have hload : (source.accepted s).load s = (source s).load s := Listing.load_accepted hs s
    simp only [collectEach_cons, hload, ih hss]

end Registry

/-- A collection comes to its end exactly when no time that it is given is one that the clock has no words
for, and then every record that is no snapshot has been dropped alone. Without such records it always comes to
its end. -/
theorem collect_accepted (r : Registry) (source : Source) (now : Instant) :
    ((∃ errors, (r.collect (some source) now).1 = .ok errors) ↔ source.IsTimely r.subjects) ∧
      source.accepted.IsTimely r.subjects ∧
      (source.IsTimely r.subjects →
        r.collect (some source) now = r.collect (some source.accepted) now) := by
  refine ⟨Registry.exists_collect_iff, fun s _ => (source s).isTimely_accepted, fun h => ?_⟩
  simp only [Registry.collect, Registry.collectEach_accepted h]

def ranFourTimes : Record :=
  .raw (.obj [("id", .int 7), ("name", .str "foo"), ("numeric_fields", .obj [("run_cnt", .int 4)])])

def sourceBeside (time : Json) : Source
  | .prog => .ok [ranFourTimes, .raw (.obj [("id", .int 8), ("name", .str "bar"), ("loaded_at", time)])]
  | _ => .ok []

/-- A registry that counts runs and holds values. -/
def runCounts (entries : List (LabelSet × Json)) : Registry :=
  ⟨"bpf", [.prog], [⟨.prog .runCount, (Kind.prog .runCount).spec, "bpf_prog_execution", entries⟩]⟩

/-- A time that cannot be read costs its own record. -/
theorem collect_accepted_unreadable :
    (runCounts []).collect (some (sourceBeside (.str "yesterday"))) ⟨1772366400000000⟩ =
      (.ok [], runCounts [(.prog ⟨7, "", "foo", 0⟩, .int 4)]) := by
  have htimely : (sourceBeside (.str "yesterday")).IsTimely (runCounts []).subjects := by
    intro s hs records hrecords r hr
    obtain rfl := List.mem_singleton.1 hs
    obtain rfl := Except.ok.inj hrecords
    simp only [List.mem_cons, List.not_mem_nil, or_false] at hr
    rcases hr with rfl | rfl <;> trivial
  rw [(collect_accepted _ _ _).2.2 htimely]
  rfl

/-- A time in nanoseconds ends the collection, where without its record a value would be stored. -/
theorem collect_ne_accepted_nanoseconds :
    (runCounts []).collect (some (sourceBeside (.int 1700000000000000000))) ⟨1772366400000000⟩ =
        (.error (.clock .yearOverflow), runCounts []) ∧
      (runCounts []).collect (some (sourceBeside (.int 1700000000000000000)).accepted) ⟨1772366400000000⟩ =
        (.ok [], runCounts [(.prog ⟨7, "", "foo", 0⟩, .int 4)]) := ⟨rfl, rfl⟩

end BpfExporter
