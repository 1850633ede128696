import Mathlib.Data.List.Nodup
import BpfExporter.Proofs.Entries
import BpfExporter.Proofs.SubjectPasses

/-! What a pass writes to each family. A family takes from a snapshot the readings of its kind for which it has
room, at most one, so the pass of a subject writes at most one value for each snapshot, under the snapshot's label
set. Families of which the same is read show the same, whatever the order in which they were written to. -/
namespace BpfExporter

namespace Family

variable {κ : Type}

def write (f : Family κ) (ps : List (LabelSet × Json)) : Family κ :=
  { f with entries := Assoc.setAll ps f.entries }

theorem write_append (f : Family κ) (ps qs : List (LabelSet × Json)) :
    f.write (ps ++ qs) = (f.write ps).write qs := by
  rw [write, Assoc.setAll_append]
  rfl

/-- The reading is of the kind of the family, which has room for it. -/
def takes (f : Family Kind) (x : Reading) : Bool :=
  f.kind == x.kind && (!x.guarded || Exposition.inRange f.spec.type x.value)

/-- What the family takes of readings for a label set. -/
def taken (f : Family Kind) (l : LabelSet) (xs : List Reading) : List (LabelSet × Json) :=
  (xs.filter f.takes).map fun x => (l, .int x.value)

theorem write_taken_singleton (f : Family Kind) (l : LabelSet) (x : Reading) :
    f.write (f.taken l [x]) = if f.takes x then f.set l (.int x.value) else f := by
  cases hx : f.takes x <;> simp [taken, hx, write, Assoc.setAll, set]

def writes (f : Family Kind) (s : Subject) (now : Instant) (snapshots : List Snapshot) :
    List (LabelSet × Json) :=
  (snapshots.filter (·.isNamed s)).flatMap fun snapshot =>
    f.taken (LabelSet.ofSnapshot snapshot s) (snapshot.readings now s)

end Family

namespace Families

variable {fs : Families Kind}

theorem kinds_map_write (w : Family Kind → List (LabelSet × Json)) (fs : Families Kind) :
    (fs.map fun f => f.write (w f)).map Family.kind = fs.map Family.kind := by
  rw [List.map_map]
  rfl

theorem observe_eq_map (hfs : (fs.map Family.kind).Nodup) (l : LabelSet) (x : Reading) :
    fs.observe l x = fs.map fun f => f.write (f.taken l [x]) := by
  simp only [Family.write_taken_singleton]
  rw [observe]
  cases hfind : fs.find? x.kind with
  | none =>
    have hnone : ∀ f ∈ fs, (if f.takes x then f.set l (.int x.value) else f) = f := by
      intro f hf
      have hkind : ¬f.kind = x.kind := by simpa using List.find?_eq_none.1 hfind f hf
      simp [Family.takes, hkind]
    rw [List.map_congr_left hnone, List.map_id']
  | some f =>
    have hmem : f ∈ fs := List.mem_of_find?_eq_some hfind
    have hkind : f.kind = x.kind := by simpa using List.find?_some hfind
    -- no other family is of the kind
    have htakes : ∀ g ∈ fs, g.takes x =
        (g.kind == x.kind && (!x.guarded || Exposition.inRange f.spec.type x.value)) := by
      intro g hg
      by_cases hgx : g.kind = x.kind
      · rw [List.inj_on_of_nodup_map hfs hg hmem (hgx.trans hkind.symm), Family.takes]
      · have hne : (g.kind == x.kind) = false := beq_eq_false_iff_ne.2 hgx
        rw [Family.takes, hne, Bool.false_and, Bool.false_and]
    have hguard : (x.guarded && !Exposition.inRange f.spec.type x.value) =
        !(!x.guarded || Exposition.inRange f.spec.type x.value) := by
      simp
    simp only [hguard, store]
    cases hroom : !x.guarded || Exposition.inRange f.spec.type x.value with
    | true =>
      refine List.map_congr_left fun g hg => ?_
      rw [htakes g hg, hroom, Bool.and_true]
    | false =>
      have hstay : ∀ g ∈ fs, (if g.takes x then g.set l (.int x.value) else g) = g := by
        intro g hg
        simp [htakes g hg, hroom]
      rw [List.map_congr_left hstay, List.map_id']
      rfl

theorem foldl_observe_eq_map (hfs : (fs.map Family.kind).Nodup) (l : LabelSet) (xs : List Reading) :
    xs.foldl (observe l) fs = fs.map fun f => f.write (f.taken l xs) := by
  induction xs generalizing fs with
  | nil => exact (List.map_id' fs).symm
  | cons x xs ih =>
    have hnext : ((fs.map fun f => f.write (f.taken l [x])).map Family.kind).Nodup := by
      rw [kinds_map_write]
      exact hfs
    rw [List.foldl_cons, observe_eq_map hfs, ih hnext, List.map_map]
    refine List.map_congr_left fun f _ => ?_
    -- what a family takes is not up to its entries
    have htaken : (f.write (f.taken l [x])).taken l xs = f.taken l xs := rfl
    have hsplit : f.taken l (x :: xs) = f.taken l [x] ++ f.taken l xs := by
      simp only [Family.taken, ← List.map_append, ← List.filter_append]
      rfl
    rw [Function.comp_apply, htaken, hsplit, Family.write_append]

theorem observeAll_eq_map (hfs : (fs.map Family.kind).Nodup) (s : Subject) (now : Instant)
    (snapshots : List Snapshot) :
    fs.observeAll s now snapshots = fs.map fun f => f.write (f.writes s now snapshots) := by
  simp only [observeAll, Family.writes]
  induction snapshots.filter (·.isNamed s) generalizing fs with
  | nil => exact (List.map_id' fs).symm
  | cons snapshot snapshots ih =>
    rw [List.foldl_cons, observeSnapshot, foldl_observe_eq_map hfs, ih, List.map_map]
    · refine List.map_congr_left fun f _ => ?_
      rw [List.flatMap_cons, Family.write_append]
      rfl
    · rw [kinds_map_write]
      exact hfs

end Families

/-! ### The passes of a collection -/

/-- The family after the pass of a subject. A listing that fails leaves it as it is. -/
def Family.pass (source : Source) (now : Instant) (s : Subject) (f : Family Kind) : Family Kind :=
  match (source s).load s with
  | .ok snapshots => f.write (f.writes s now snapshots)
  | .error _ => f

theorem Family.kind_pass (source : Source) (now : Instant) (s : Subject) (f : Family Kind) :
    (f.pass source now s).kind = f.kind := by
  rw [pass]
  split <;> rfl

theorem Registry.pass_eq_map {fs : Families Kind} (hfs : (fs.map Family.kind).Nodup) (source : Source)
    (now : Instant) (s : Subject) : pass source now s fs = fs.map fun f => f.pass source now s := by
  simp only [pass, Family.pass]
  cases (source s).load s with
  | ok snapshots => exact Families.observeAll_eq_map hfs s now snapshots
  | error e => exact (List.map_id' fs).symm

theorem Registry.passes_eq_map {fs : Families Kind} (hfs : (fs.map Family.kind).Nodup) (source : Source)
    (now : Instant) (ss : List Subject) : ss.foldl (fun fs s => pass source now s fs) fs =
      fs.map fun f => ss.foldl (fun f s => f.pass source now s) f := by
  induction ss generalizing fs with
  | nil => exact (List.map_id' fs).symm
  | cons s ss ih =>
    have hkinds : Family.kind ∘ (fun f => f.pass source now s) = Family.kind :=
      funext (Family.kind_pass source now s)
    have hnext : ((fs.map fun f => f.pass source now s).map Family.kind).Nodup := by
      rw [List.map_map, hkinds]
      exact hfs
    rw [List.foldl_cons, pass_eq_map hfs, ih hnext, List.map_map]
    rfl

/-! ### One value for each snapshot -/

namespace Snapshot

theorem kinds_numberReadings_sublist (s : Snapshot) (ks : List Kind) :
    ((s.numberReadings ks).map Reading.kind).Sublist (ks.filter fun k => k.field?.isSome) := by
  induction ks with
  | nil => exact List.Sublist.slnil
  | cons k ks ih =>
    rw [numberReadings, List.filterMap_cons, ← numberReadings]
    cases hfield : k.field? with
    | none => simpa [hfield] using ih
    | some field =>
      rw [List.filter_cons_of_pos (by simp [hfield])]
      cases hvalue : s.valueOf? field with
      | none => simpa [hvalue] using ih.cons k
      | some v => simpa [hvalue] using ih

theorem nodup_kinds_readings (s : Snapshot) (now : Instant) (subject : Subject) :
    ((s.readings now subject).map Reading.kind).Nodup := by
  cases subject with
  | prog =>
    have hnumbers := s.kinds_numberReadings_sublist (Kind.all .prog)
    have huptime : (((s.uptimeNanos? now).map fun v => (⟨.prog .uptime, v, false⟩ : Reading)).toList.map
        Reading.kind).Sublist [.prog .uptime] := by
      cases s.uptimeNanos? now <;> simp
    rw [readings, List.map_append]
    exact List.Nodup.sublist (huptime.append hnumbers) (by decide)
  | map => exact List.Nodup.sublist (s.kinds_numberReadings_sublist _) (by decide)
  | link => exact List.nodup_singleton _

end Snapshot

namespace Family

variable {f : Family Kind}

theorem keys_taken_sublist {xs : List Reading} (hxs : (xs.map Reading.kind).Nodup) (l : LabelSet) :
    ((f.taken l xs).map Prod.fst).Sublist [l] := by
  have hkinds : ((xs.filter f.takes).map Reading.kind).Nodup :=
    hxs.sublist (List.filter_sublist.map Reading.kind)
  have hsame : ∀ k ∈ (xs.filter f.takes).map Reading.kind, k = f.kind := by
    intro k hk
    obtain ⟨x, hx, rfl⟩ := List.mem_map.1 hk
    have htakes := (List.mem_filter.1 hx).2
    simp only [takes, Bool.and_eq_true, beq_iff_eq] at htakes
    exact htakes.1.symm
  have hlength : (xs.filter f.takes).length ≤ 1 := by
    rw [List.eq_replicate_of_mem hsame, List.nodup_replicate, List.length_map] at hkinds
    exact hkinds
  have hkeys : (f.taken l xs).map Prod.fst = List.replicate (xs.filter f.takes).length l := by
    rw [taken, List.map_map]
    exact List.map_const'
  rw [hkeys]
  exact (List.replicate_sublist_replicate l).2 hlength

theorem keys_writes_sublist (f : Family Kind) (s : Subject) (now : Instant) (snapshots : List Snapshot) :
    ((f.writes s now snapshots).map Prod.fst).Sublist (snapshots.map (LabelSet.ofSnapshot · s)) := by
  have hnamed : ∀ ss : List Snapshot, ((ss.flatMap fun snapshot =>
      f.taken (LabelSet.ofSnapshot snapshot s) (snapshot.readings now s)).map Prod.fst).Sublist
        (ss.map (LabelSet.ofSnapshot · s)) := by
    intro ss
    induction ss with
    | nil => exact List.Sublist.slnil
    | cons snapshot ss ih =>
      rw [List.flatMap_cons, List.map_append, List.map_cons]
      exact (keys_taken_sublist (snapshot.nodup_kinds_readings now s) _).append ih
  exact (hnamed _).trans (List.filter_sublist.map _)

theorem writes_perm (f : Family Kind) (s : Subject) (now : Instant) {ss ss' : List Snapshot} (h : ss.Perm ss') :
    (f.writes s now ss).Perm (f.writes s now ss') := (h.filter _).flatMap_right _

end Family

end BpfExporter
