import Mathlib.Data.List.Induction
import BpfExporter.Proofs.Assoc
import BpfExporter.Proofs.Export
import BpfExporter.Proofs.SubjectPasses

/-! What is visible. Without updates of one's own, entries come from collections alone and stay until all families
are emptied. So whatever a registry shows was observed by a collection since then, and after an export by the one
collection that follows it. -/
namespace BpfExporter

open Exposition (ofLines)

namespace Operation

/-- The operation stores a value that is handed to it. -/
def IsUpdate : Operation → Prop
  | .update _ _ _ => True
  | _ => False

/-- The operation exports or drops all values. A cycle exports when its collection comes to its end. -/
def empties (op : Operation) (r : Registry) : Bool :=
  match op with
  | .scrape source now => (r.collect source now).1.isOk
  | .exportText | .clear => true
  | _ => false

/-- A named object with the label set is listed for the subject where the operation looks. -/
def Observes (op : Operation) (s : Subject) (l : LabelSet) : Prop :=
  ∃ source now snapshots, op.pass? = some (source, now) ∧ (source s).load s = .ok snapshots ∧
    ∃ snapshot ∈ snapshots, snapshot.isNamed s = true ∧ LabelSet.ofSnapshot snapshot s = l

end Operation

/-- An operation on a registry, which comes with the operations since its families were last emptied. -/
def track (x : Registry × List Operation) (op : Operation) : Registry × List Operation :=
  (x.1.perform op, if op.empties x.1 then [] else x.2 ++ [op])

/-- The operations of a run since the families were last emptied. -/
def sinceEmptied (r : Registry) (ops : List Operation) : List Operation := (ops.foldl track (r, [])).2

theorem registry_foldl_track (x : Registry × List Operation) (ops : List Operation) :
    (ops.foldl track x).1 = x.1.performAll ops := by
  induction ops generalizing x with
  | nil => rfl
  | cons op ops ih => exact ih (track x op)

theorem sinceEmptied_concat (r : Registry) (ops : List Operation) (op : Operation) : sinceEmptied r (ops ++ [op]) =
    if op.empties (r.performAll ops) then [] else sinceEmptied r ops ++ [op] := by
  rw [sinceEmptied, List.foldl_append, ← registry_foldl_track (r, [])]
  rfl

namespace Families

variable {P Q : Subject → LabelSet → Prop} {fs : Families Kind}

/-- Every entry is one of a label set that the property allows for the subject. -/
def Shows (P : Subject → LabelSet → Prop) (fs : Families Kind) : Prop :=
  ∀ f ∈ fs, ∀ p ∈ f.entries, P f.kind.subject p.1

theorem Shows.mono (h : fs.Shows P) (hPQ : ∀ s l, P s l → Q s l) : fs.Shows Q :=
  fun f hf p hp => hPQ _ _ (h f hf p hp)

theorem shows_clear (fs : Families Kind) : fs.clear.Shows P := by
  intro f hf p hp
  obtain ⟨f', -, rfl⟩ := List.mem_map.1 hf
  exact absurd hp List.not_mem_nil

theorem Shows.store (h : fs.Shows P) {k : Kind} {l : LabelSet} (hl : P k.subject l) (v : Json) :
    (fs.store k l v).Shows P := by
  intro f hf p hp
  obtain ⟨f', hf', rfl⟩ := List.mem_map.1 hf
  by_cases hk : f'.kind = k
  · have hkind : (f'.kind == k) = true := beq_iff_eq.2 hk
    rw [if_pos hkind] at hp ⊢
    rcases Assoc.mem_of_mem_set hp with rfl | hp
    · exact hk ▸ hl
    · exact h f' hf' p hp
  · have hkind : ¬(f'.kind == k) = true := fun e => hk (eq_of_beq e)
    rw [if_neg hkind] at hp ⊢
    exact h f' hf' p hp

theorem Shows.observe (h : fs.Shows P) {x : Reading} {l : LabelSet} (hl : P x.kind.subject l) :
    (fs.observe l x).Shows P := by
  unfold Families.observe
  split
  · exact h
  · split
    · exact h
    · exact h.store hl _

theorem Shows.observeAll (h : fs.Shows P) {s : Subject} {now : Instant} {snapshots : List Snapshot}
    (hs : ∀ snapshot ∈ snapshots, snapshot.isNamed s = true → P s (LabelSet.ofSnapshot snapshot s)) :
    (fs.observeAll s now snapshots).Shows P := by
  refine observeAll_induction (P := Shows P) (fun snapshot hmem hnamed x hx fs hfs => ?_) h
  refine hfs.observe ?_
  rw [Snapshot.subject_of_mem_readings hx]
  exact hs snapshot hmem hnamed

end Families

namespace Registry

variable {P : Subject → LabelSet → Prop} {r : Registry}

theorem shows_register (h : r.families.Shows P) (arg : KindArg) (entry : Registration) :
    (r.register arg entry).2.families.Shows P := by
  rcases r.register_cases arg entry with ⟨_, hsame⟩ | ⟨s, _, -, hsame⟩ | ⟨k, t, -, -, -, -, hnew⟩
  · rw [hsame]
    exact h
  · rw [hsame, families_withSubject]
    exact h
  · rw [hnew]
    intro f hf p hp
    rcases List.mem_append.1 hf with hf | hf
    · exact h f hf p hp
    · rw [List.mem_singleton.1 hf] at hp
      exact absurd hp List.not_mem_nil

theorem shows_collect (h : r.families.Shows P) {source : Option Source} {now : Instant}
    (hP : ∀ s l, (Operation.collect source now).Observes s l → P s l) :
    (r.collect source now).2.families.Shows P := by
  cases source with
  | none => exact h
  | some source =>
    refine collectEach_induction (P := Families.Shows P) (fun s _ snapshots hload fs hfs => ?_) h
    refine hfs.observeAll fun snapshot hmem hnamed => ?_
    exact hP s _ ⟨source, now, snapshots, rfl, hload, snapshot, hmem, hnamed, rfl⟩

theorem shows_scrape (h : r.families.Shows P) {source : Option Source} {now : Instant}
    (hP : ∀ s l, (Operation.scrape source now).Observes s l → P s l) :
    (r.scrape source now).2.families.Shows P := by
  cases hc : (r.collect source now).1 with
  | ok errors =>
    rw [scrape_of_collect_ok hc]
    exact r.families.shows_clear
  | error e =>
    rw [scrape_of_collect_error hc]
    exact shows_collect h hP

theorem shows_perform (h : r.families.Shows P) {op : Operation} (hop : ¬op.IsUpdate)
    (hP : ∀ s l, op.Observes s l → P s l) : (r.perform op).families.Shows P := by
  have hkind : ∀ r : Registry, ∀ k, r.families.Shows P → (r.register (.kind k) (tableEntry k)).2.families.Shows P :=
    fun _ k hr => shows_register hr _ _
  cases op with
  | register arg entry => exact shows_register h arg entry
  | registerKind arg => exact registerKind_induction (P := fun r => r.families.Shows P) hkind h arg
  | registerAll s args => exact registerAll_induction (P := fun r => r.families.Shows P) hkind h s args
  | update arg labels value => exact absurd trivial hop
  | collect source now => exact shows_collect h hP
  | scrape source now => exact shows_scrape h hP
  | renderText =>
    rw [perform_renderText]
    exact h
  | exportText =>
    rw [perform_exportText]
    exact r.families.shows_clear
  | clear => exact r.families.shows_clear

theorem perform_of_empties {op : Operation} (h : op.empties r = true) : r.perform op = r.clear := by
  cases op with
  | scrape source now =>
    cases hc : (r.collect source now).1 with
    | ok errors => exact scrape_of_collect_ok hc
    | error e =>
      rw [Operation.empties, hc] at h
      cases h
  | exportText => exact r.perform_exportText
  | clear => rfl
  | _ => cases h

/-- What a registry shows was observed since its families were last emptied. -/
theorem shows_performAll (path : String) {ops : List Operation} (hops : ∀ op ∈ ops, ¬op.IsUpdate) :
    ((empty path).performAll ops).families.Shows
      fun s l => ∃ op ∈ sinceEmptied (empty path) ops, op.Observes s l := by
  induction ops using List.reverseRecOn with
  | nil => exact fun f hf => absurd hf List.not_mem_nil
  | append_singleton ops op ih =>
    have hlast : (empty path).performAll (ops ++ [op]) = ((empty path).performAll ops).perform op :=
      performAll_append _ _ _
    rw [hlast, sinceEmptied_concat]
    by_cases hempties : op.empties ((empty path).performAll ops) = true
    · rw [perform_of_empties hempties]
      exact Families.shows_clear _
    · have hbefore := ih fun op' hop' => hops op' (List.mem_append_left _ hop')
      have hop := hops op (List.mem_append_right _ List.mem_cons_self)
      rw [if_neg hempties]
      refine shows_perform (hbefore.mono ?_) hop ?_
      · rintro s l ⟨op', hop', hobserves⟩
        exact ⟨op', List.mem_append_left _ hop', hobserves⟩
      · intro s l hobserves
        exact ⟨op, List.mem_append_right _ List.mem_cons_self, hobserves⟩

end Registry

/-- Only what was observed is visible. Without updates, every entry of a registry is one of a label set that was
observed for the subject of its family since the families were last emptied, be it by an export, by a cycle that came
to its export or by a clearing; and a text, rendered or exported, has the lines of such label sets alone. A collection
right after the families have been emptied leaves what it would leave of a registry on which nothing was ever done but
registrations, and no entry but of label sets that it has itself observed. -/
theorem visible_observed {path : String} {ops : List Operation} {r : Registry}
    (hr : r = (Registry.empty path).performAll ops) (hops : ∀ op ∈ ops, ¬op.IsUpdate) :
    (∀ f ∈ r.families, ∀ p ∈ f.entries,
        ∃ op ∈ sinceEmptied (Registry.empty path) ops, op.Observes f.kind.subject p.1) ∧
      (∀ text, r.renderText.1 = .ok text ∨ r.exportText.1 = .ok text →
        text = ofLines (r.families.flatMap (fun f => familyLines f.exposedName f.spec f.ints) ++ ["# EOF"]) ∧
          ∀ f ∈ r.families, ∀ p ∈ f.ints,
            ∃ op ∈ sinceEmptied (Registry.empty path) ops, op.Observes f.kind.subject p.1) ∧
      ∀ op, op.empties r = true → ∀ source now,
        (r.perform op).collect source now =
            ((Registry.empty path).performAll (ops.filter Operation.IsRegistration)).collect source now ∧
          ∀ f ∈ ((r.perform op).collect source now).2.families, ∀ p ∈ f.entries,
            (Operation.collect source now).Observes f.kind.subject p.1 := by
  have hshows : r.families.Shows fun s l => ∃ op ∈ sinceEmptied (Registry.empty path) ops, op.Observes s l := by
    rw [hr]
    exact Registry.shows_performAll path hops
  refine ⟨hshows, fun text htext => ⟨?_, fun f hf p hp => ?_⟩, fun op hempties source now => ?_⟩
  · rw [Registry.renderText_eq, Registry.exportText_eq, or_self] at htext
    have hrender := Registry.render_of_fits (Registry.exists_render_iff.1 ⟨text, htext⟩)
    exact Except.ok.inj (htext.symm.trans hrender)
  · exact hshows f hf _ (Family.mem_ints.1 hp)
  · rw [Registry.perform_of_empties hempties]
    constructor
    · rw [hr, Registry.clear_performAll]
      rfl
    · exact Registry.shows_collect (Families.shows_clear _) fun _ _ => id

/-- A source that lists the program that has run four times, and one that lists nothing. -/
def listsProgram : Source
  | .prog => .ok [ranFourTimes]
  | _ => .ok []

def listsNothing : Source := fun _ => .ok []

theorem not_observes_listsNothing (now : Instant) (s : Subject) (l : LabelSet) :
    ¬(Operation.collect (some listsNothing) now).Observes s l := by
  rintro ⟨source, now, snapshots, hpass, hload, snapshot, hsnapshot, -⟩
  obtain ⟨rfl, rfl⟩ := Prod.mk.inj (Option.some.inj hpass)
  obtain rfl := Except.ok.inj hload
  cases hsnapshot

/-- The runs of programs are registered, and collected once. -/
def runsListed (source : Source) : List Operation :=
  [.registerKind (.kind (.prog .runCount)), .collect (some source) ⟨1772366400000000⟩]

theorem performAll_runsListed : (Registry.empty "bpf").performAll (runsListed listsProgram) =
    runCounts [(.prog ⟨7, "", "foo", 0⟩, .int 4)] := by
  rw [runsListed, Registry.performAll, List.foldl_cons, Registry.perform, Registry.registerKind_empty]
  rfl

/-- The program is found, then comes a cycle, and then a collection that finds nothing. -/
def runsGone : List Operation := runsListed listsProgram ++
  [.scrape (some listsProgram) ⟨1772366401000000⟩] ++ [.collect (some listsNothing) ⟨1772366402000000⟩]

/-- The cycle has emptied the families, so nothing is left after it. -/
theorem visible_observed_nothing :
    sinceEmptied (Registry.empty "bpf") runsGone = [.collect (some listsNothing) ⟨1772366402000000⟩] ∧
      ((Registry.empty "bpf").performAll runsGone).families.flatMap Family.entries = [] := by
  have hops : ∀ op ∈ runsGone, ¬op.IsUpdate := by
    simp [runsGone, runsListed, Operation.IsUpdate]
  have hcycle : sinceEmptied (Registry.empty "bpf")
      (runsListed listsProgram ++ [.scrape (some listsProgram) ⟨1772366401000000⟩]) = [] := by
    rw [sinceEmptied_concat, performAll_runsListed]
    rfl
  have hsince : sinceEmptied (Registry.empty "bpf") runsGone = [.collect (some listsNothing) ⟨1772366402000000⟩] := by
    rw [runsGone, sinceEmptied_concat, hcycle]
    rfl
  refine ⟨hsince, List.eq_nil_iff_forall_not_mem.2 fun p hmem => ?_⟩
  obtain ⟨f, hf, hp⟩ := List.mem_flatMap.1 hmem
  obtain ⟨op, hop, hobserves⟩ := (visible_observed rfl hops).1 f hf p hp
  rw [hsince, List.mem_singleton] at hop
  rw [hop] at hobserves
  exact not_observes_listsNothing _ _ _ hobserves

/-- Without an export between them, what the first of two collections has found is still there after the second,
which has found nothing and reports no error, and it is in the text. -/
theorem visible_not_observed :
    ((Registry.empty "bpf").performAll (runsListed listsProgram)).collect (some listsNothing) ⟨1772366401000000⟩ =
        (.ok [], runCounts [(.prog ⟨7, "", "foo", 0⟩, .int 4)]) ∧
      ¬(Operation.collect (some listsNothing) ⟨1772366401000000⟩).Observes .prog (.prog ⟨7, "", "foo", 0⟩) ∧
      (runCounts [(.prog ⟨7, "", "foo", 0⟩, .int 4)]).render = .ok (ofLines
        ["# HELP bpf_prog_execution_count Accumulated execution count of the program",
          "# TYPE bpf_prog_execution_count counter",
          "# UNIT bpf_prog_execution_count count",
          "bpf_prog_execution_count_total\x7bid=\"7\",program_type=\"\",name=\"foo\",tag=\"0\"\x7d 4",
          "# EOF"]) := by
  refine ⟨?_, not_observes_listsNothing _ _ _, ?_⟩
  · rw [performAll_runsListed]
    rfl
  · have hfits : ∀ f ∈ (runCounts [(.prog ⟨7, "", "foo", 0⟩, .int 4)]).families, f.Fits := by
      rw [runCounts]
      simp only [List.forall_mem_singleton, Family.Fits]
      exact ⟨by decide +kernel, 4, rfl, rfl⟩
    rw [Registry.render_of_fits hfits]
    simp only [runCounts, List.flatMap_cons, List.flatMap_nil, Family.lines, Family.ints,
      Family.items_mk_singleton]
    rfl

end BpfExporter
