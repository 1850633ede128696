import BpfExporter.Proofs.PassEntries

/-! What a pass leaves in each entry. An entry of a family is written by the snapshots that have its label set, are
set up and provide a value for the family; the last of them in the order of the listing has its say, and without one
the entry stays as it was. -/
namespace BpfExporter

namespace Snapshot

/-- A value that a snapshot provides for a family: its number for the kind, where the family has room for it; the
time for which it has been loaded, where that is known and not in the future; or a link's mark of being there. -/
inductive Provides (x : Snapshot) (now : Instant) (f : Family Kind) : Int → Prop
  | number {field : String} {v : Int} (hfield : f.kind.field? = some field) (hvalue : x.valueOf? field = some v)
      (hroom : Exposition.inRange f.spec.type v = true) : Provides x now f v
  | uptime {loaded : Instant} (hkind : f.kind = .prog .uptime) (hloaded : x.loadedAt = some loaded)
      (hpast : loaded.micros ≤ now.micros) : Provides x now f ((now.micros - loaded.micros) * 1000)
  | attached (hkind : f.kind = .link .attached) : Provides x now f 1

/-- A snapshot that is listed for a subject has a value for an entry of a family. -/
structure Writes (s : Subject) (now : Instant) (f : Family Kind) (l : LabelSet) (x : Snapshot) (v : Int) : Prop where
  subject : f.kind.subject = s
  named : s = .link ∨ x.name ≠ ""
  labels : LabelSet.ofSnapshot x s = l
  provides : x.Provides now f v

/-- The last of the snapshots with a value for an entry has this one. -/
def LastWrites (s : Subject) (now : Instant) (f : Family Kind) (l : LabelSet) (snapshots : List Snapshot)
    (v : Int) : Prop :=
  ∃ before x after, snapshots = before ++ x :: after ∧ x.Writes s now f l v ∧
    ∀ y ∈ after, ∀ w, ¬y.Writes s now f l w

theorem isNamed_iff {x : Snapshot} {s : Subject} : x.isNamed s = true ↔ s = .link ∨ x.name ≠ "" := by
  cases s <;> simp [isNamed, Subject.nameLabel?]

theorem mem_numberReadings_iff {x : Snapshot} {s : Subject} {r : Reading} :
    r ∈ x.numberReadings (Kind.all s) ↔ r.kind.subject = s ∧ r.guarded = true ∧
      ∃ field, r.kind.field? = some field ∧ x.valueOf? field = some r.value := by
  obtain ⟨k, v, guarded⟩ := r
  simp only [numberReadings, List.mem_filterMap, Kind.mem_all_iff, Option.map_eq_some_iff,
    Option.bind_eq_some_iff, Reading.mk.injEq]
  constructor
  · rintro ⟨k', hk, v', ⟨field, hfield, hv⟩, rfl, rfl, rfl⟩
    exact ⟨hk, rfl, field, hfield, hv⟩
  · rintro ⟨hk, rfl, field, hfield, hv⟩
    exact ⟨k, hk, v, ⟨field, hfield, hv⟩, rfl, rfl, rfl⟩

theorem provides_of_takes {x : Snapshot} {s : Subject} {now : Instant} {f : Family Kind} {r : Reading}
    (hr : r ∈ x.readings now s) (htakes : f.takes r = true) : x.Provides now f r.value := by
  simp only [Family.takes, Bool.and_eq_true, beq_iff_eq, Bool.or_eq_true, Bool.not_eq_true'] at htakes
  obtain ⟨hkind, hroom⟩ := htakes
  have hnumber : r ∈ x.numberReadings (Kind.all s) → x.Provides now f r.value := by
    intro hr
    obtain ⟨-, hguarded, field, hfield, hvalue⟩ := mem_numberReadings_iff.1 hr
    exact .number (hkind ▸ hfield) hvalue (hroom.resolve_left (by simp [hguarded]))
  cases s with
  | prog =>
    rcases List.mem_append.1 hr with hr | hr
    · obtain ⟨n, hn, rfl⟩ := Option.map_eq_some_iff.1 (Option.mem_toList.1 hr)
      obtain ⟨loaded, hloaded, helapsed⟩ := Option.bind_eq_some_iff.1 hn
      rw [Instant.elapsedNanos?] at helapsed
      split at helapsed
      · cases helapsed
      · next hpast =>
        obtain rfl := Option.some.inj helapsed
        exact .uptime hkind hloaded (by omega)
    · exact hnumber hr
  | map => exact hnumber hr
  | link =>
    obtain rfl := List.mem_singleton.1 hr
    exact .attached hkind

theorem exists_takes_of_provides {x : Snapshot} {now : Instant} {f : Family Kind} {v : Int}
    (h : x.Provides now f v) : ∃ r ∈ x.readings now f.kind.subject, f.takes r = true ∧ r.value = v := by
  cases h with
  | @number field v hfield hvalue hroom =>
    have hmem : ∀ s, f.kind.subject = s → (⟨f.kind, v, true⟩ : Reading) ∈ x.numberReadings (Kind.all s) :=
      fun s hs => mem_numberReadings_iff.2 ⟨hs, rfl, field, hfield, hvalue⟩
    refine ⟨⟨f.kind, v, true⟩, ?_, by simp [Family.takes, hroom], rfl⟩
    cases hs : f.kind.subject with
    | prog => exact List.mem_append_right _ (hmem .prog hs)
    | map => exact hmem .map hs
    | link =>
      -- no number of a link is shown
      have hnone : (Kind.all .link).filterMap Kind.field? = [] := rfl
      have hfound : field ∈ (Kind.all .link).filterMap Kind.field? :=
        List.mem_filterMap.2 ⟨f.kind, Kind.mem_all_iff.2 hs, hfield⟩
      rw [hnone] at hfound
      cases hfound
  | @uptime loaded hkind hloaded hpast =>
    have hnanos : x.uptimeNanos? now = some ((now.micros - loaded.micros) * 1000) := by
      rw [uptimeNanos?, hloaded, Option.bind_some, Instant.elapsedNanos?, if_neg (by omega)]
    exact ⟨⟨.prog .uptime, _, false⟩, by simp [hkind, Kind.subject, readings, hnanos],
      by simp [Family.takes, hkind], rfl⟩
  | attached hkind =>
    exact ⟨⟨.link .attached, 1, false⟩, by simp [hkind, Kind.subject, readings],
      by simp [Family.takes, hkind], rfl⟩

/-- A family takes the readings of a snapshot of its subject that provide a value for it. -/
theorem exists_takes_iff {x : Snapshot} {s : Subject} {now : Instant} {f : Family Kind} {v : Int} :
    (∃ r ∈ x.readings now s, f.takes r = true ∧ r.value = v) ↔ f.kind.subject = s ∧ x.Provides now f v := by
  constructor
  · rintro ⟨r, hr, htakes, rfl⟩
    have hkind : f.kind = r.kind := by
      simp only [Family.takes, Bool.and_eq_true, beq_iff_eq] at htakes
      exact htakes.1
    exact ⟨hkind ▸ subject_of_mem_readings hr, provides_of_takes hr htakes⟩
  · rintro ⟨rfl, h⟩
    exact exists_takes_of_provides h

end Snapshot

namespace Family

variable {f : Family Kind} {s : Subject} {now : Instant} {snapshots : List Snapshot}

theorem taken_readings {x : Snapshot} {v : Int} (hs : f.kind.subject = s) (h : x.Provides now f v)
    (l : LabelSet) : f.taken l (x.readings now s) = [(l, .int v)] := by
  obtain ⟨r, hr, htakes, rfl⟩ := Snapshot.exists_takes_iff.2 ⟨hs, h⟩
  have hmem : (l, .int r.value) ∈ f.taken l (x.readings now s) :=
    List.mem_map_of_mem (f := fun r : Reading => (l, Json.int r.value)) (List.mem_filter.2 ⟨hr, htakes⟩)
  have hlength := (keys_taken_sublist (f := f) (x.nodup_kinds_readings now s) l).length_le
  rw [List.length_map, List.length_singleton] at hlength
  obtain ⟨p, hp⟩ := List.length_eq_one_iff.1 (Nat.le_antisymm hlength (List.length_pos_of_mem hmem))
  rw [hp, List.mem_singleton] at hmem
  rw [hp, hmem]

theorem writes_append (f : Family Kind) (s : Subject) (now : Instant) (xs ys : List Snapshot) :
    f.writes s now (xs ++ ys) = f.writes s now xs ++ f.writes s now ys := by
  simp only [writes, List.filter_append, List.flatMap_append]

theorem mem_keys_writes_iff {l : LabelSet} :
    l ∈ (f.writes s now snapshots).map Prod.fst ↔ ∃ x ∈ snapshots, ∃ v, x.Writes s now f l v := by
  simp only [writes, List.mem_map, List.mem_flatMap, taken, List.mem_filter]
  constructor
  · rintro ⟨p, ⟨x, ⟨hx, hnamed⟩, r, ⟨hr, htakes⟩, rfl⟩, rfl⟩
    obtain ⟨hs, hprovides⟩ := Snapshot.exists_takes_iff.1 ⟨r, hr, htakes, rfl⟩
    exact ⟨x, hx, r.value, hs, Snapshot.isNamed_iff.1 hnamed, rfl, hprovides⟩
  · rintro ⟨x, hx, v, hs, hnamed, rfl, hprovides⟩
    obtain ⟨r, hr, htakes, rfl⟩ := Snapshot.exists_takes_iff.2 ⟨hs, hprovides⟩
    exact ⟨_, ⟨x, ⟨hx, Snapshot.isNamed_iff.2 hnamed⟩, r, ⟨hr, htakes⟩, rfl⟩, rfl⟩

theorem get?_write_of_last {l : LabelSet} {v : Int} (h : Snapshot.LastWrites s now f l snapshots v) :
    (f.write (f.writes s now snapshots)).get? l = some (.int v) := by
  obtain ⟨before, x, after, rfl, hx, hafter⟩ := h
  have hkeys : l ∉ (f.writes s now after).map Prod.fst := by
    rw [mem_keys_writes_iff]
    rintro ⟨y, hy, w, hw⟩
    exact hafter y hy w hw
  have hnamed : x.isNamed s = true := Snapshot.isNamed_iff.2 hx.named
  have hfirst : f.writes s now [x] = [(l, .int v)] := by
    simp [writes, hnamed, taken_readings hx.subject hx.provides, hx.labels]
  have hsplit : f.writes s now (before ++ x :: after) =
      f.writes s now before ++ (l, .int v) :: f.writes s now after := by
    rw [writes_append, ← List.singleton_append, writes_append, hfirst, List.singleton_append]
  rw [hsplit]
  exact Assoc.get?_setAll_of_last hkeys _ _ _

theorem get?_write_of_none {l : LabelSet} (h : ∀ x ∈ snapshots, ∀ v, ¬x.Writes s now f l v) :
    (f.write (f.writes s now snapshots)).get? l = f.get? l := by
  refine Assoc.get?_setAll_of_not_mem ?_ _
  rw [mem_keys_writes_iff]
  rintro ⟨x, hx, v, hv⟩
  exact h x hx v hv

end Family

/-- What a pass stores. Families of distinct kinds, whatever they hold, come out in the same order with nothing but
their entries changed; an entry is the value of the last snapshot of the listing that has one for it, and what it was
before where none has. The answer is the count of the snapshots that have a name, for links of all. -/
theorem stored_of_collectSubject {fs : Families Kind} (hfs : (fs.map Family.kind).Nodup) {source : Source}
    {s : Subject} {snapshots : List Snapshot} (hload : (source s).load s = .ok snapshots) (now : Instant) :
    ∃ fs', Registry.collectSubject source now fs s =
        (.ok (snapshots.countP fun x => s = .link ∨ x.name ≠ ""), fs') ∧
      List.Forall₂ (fun f f' => f'.clear = f.clear ∧
        ((f.entries.map Prod.fst).Nodup → (f'.entries.map Prod.fst).Nodup) ∧
        ∀ l, (∀ v, Snapshot.LastWrites s now f l snapshots v → f'.get? l = some (.int v)) ∧
          ((∀ x ∈ snapshots, ∀ v, ¬x.Writes s now f l v) → f'.get? l = f.get? l)) fs fs' := by
  have hcount : (fun x : Snapshot => x.isNamed s) = fun x => decide (s = .link ∨ x.name ≠ "") := by
    funext x
    rw [Bool.eq_iff_iff, Snapshot.isNamed_iff, decide_eq_true_eq]
  refine ⟨fs.map fun f => f.write (f.writes s now snapshots), ?_, ?_⟩
  · simp only [Registry.collectSubject_eq, hload, Families.observeAll_eq_map hfs, hcount]
  · rw [List.forall₂_map_right_iff, List.forall₂_same]
    intro f _
    refine ⟨rfl, fun h => Assoc.nodup_keys_setAll h _, fun l => ⟨fun v => Family.get?_write_of_last, ?_⟩⟩
    exact Family.get?_write_of_none

/-- The run counts of programs, that of program 9 among them. -/
def runsOfNine : Families Kind :=
  [{ Family.make "bpf_prog" (.prog .runCount) (Kind.prog .runCount).spec with
    entries := [(.prog ⟨9, "xdp", "old", 0⟩, .int 1)] }]

/-- Program 7 with a run count and once more with one that no counter has, and a program without a name. -/
def sevenTwice : List Snapshot :=
  [{ id := 7, typeName := "kprobe", name := "foo", tag := none, fields := [("run_cnt", 4)], loadedAt := none },
    { id := 7, typeName := "kprobe", name := "foo", tag := none, fields := [("run_cnt", -1)], loadedAt := none },
    { id := 8, typeName := "xdp", name := "", tag := none, fields := [("run_cnt", 5)], loadedAt := none }]

def listingSeven : Source := fun _ => .ok (sevenTwice.map .ready)

theorem stored_of_listingSeven : ∃ f,
    Registry.collectSubject listingSeven ⟨0⟩ runsOfNine .prog = (.ok 2, [f]) ∧
      f.get? (.prog ⟨7, "kprobe", "foo", 0⟩) = some (.int 4) ∧
      f.get? (.prog ⟨9, "xdp", "old", 0⟩) = some (.int 1) := by
  have hkinds : (runsOfNine.map Family.kind).Nodup := by decide
  have hload : (listingSeven .prog).load .prog = .ok sevenTwice := rfl
  obtain ⟨fs', hcollect, hentries⟩ := stored_of_collectSubject hkinds hload ⟨0⟩
  obtain ⟨f, rest, hf, hrest, rfl⟩ := List.forall₂_cons_left_iff.1 hentries
  obtain rfl := List.forall₂_nil_left_iff.1 hrest
  obtain ⟨-, -, hget⟩ := hf
  refine ⟨f, hcollect, (hget _).1 4 ?_, (hget _).2 ?_⟩
  · refine ⟨[], _, _, rfl, ⟨rfl, .inr (by decide), rfl, .number rfl rfl rfl⟩, fun y hy w hw => ?_⟩
    have hnamed := hw.named
    rcases List.mem_pair.1 hy with rfl | rfl
    · cases hw.provides with
      | number hfield hvalue hroom =>
        cases hfield
        cases hvalue
        cases hroom
      | uptime hkind => cases hkind
      | attached hkind => cases hkind
    · simp at hnamed
  · intro x hx v hv
    have hlabels := hv.labels
    simp only [sevenTwice, List.mem_cons, List.not_mem_nil, or_false] at hx
    rcases hx with rfl | rfl | rfl <;> cases hlabels

end BpfExporter
