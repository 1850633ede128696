import BpfExporter.Proofs.FamilyText
import BpfExporter.Proofs.RecordFilter

/-! Cycles one after another. A collection changes entries alone and a cycle that comes to its export drops
them all, so a registry of registrations is after such a cycle what it was at first, whatever earlier cycles
left behind. Only a time that the clock has no words for ends a cycle before its export. -/
namespace BpfExporter

abbrev Pass := Source × Instant

namespace Registry

/-- The outcomes of cycles one after another, and the registry after them. -/
def scrapeAll (r : Registry) : List Pass → List (Except ScrapeError Scrape) × Registry
  | [] => ([], r)
  | p :: ps =>
    let (outcome, r') := r.scrape (some p.1) p.2
    let (outcomes, r'') := scrapeAll r' ps
    (outcome :: outcomes, r'')

theorem scrapeAll_append (r : Registry) (ps qs : List Pass) :
    r.scrapeAll (ps ++ qs) = ((r.scrapeAll ps).1 ++ ((r.scrapeAll ps).2.scrapeAll qs).1,
      ((r.scrapeAll ps).2.scrapeAll qs).2) := by
  induction ps generalizing r with
  | nil => rfl
  | cons p ps ih => simp only [List.cons_append, scrapeAll, ih]

/-! ### What a cycle leaves behind -/

theorem subjects_clear (r : Registry) : r.clear.subjects = r.subjects := rfl

theorem clear_scrapeAll (r : Registry) (ps : List Pass) : (r.scrapeAll ps).2.clear = r.clear := by
  induction ps generalizing r with
  | nil => rfl
  | cons p ps ih => exact (ih _).trans (r.clear_scrape (some p.1) p.2)

theorem scrape_of_fits {r r' : Registry} {source : Option Source} {now : Instant} {errors : List AdapterError}
    (hc : r.collect source now = (.ok errors, r')) (hfits : ∀ f ∈ r'.families, f.Fits) :
    (r.scrape source now).1 =
      .ok ⟨Exposition.ofLines (r'.families.flatMap Family.lines ++ ["# EOF"]), errors⟩ := by
  simp only [scrape, hc, exportText_eq, render_of_fits hfits]

/-- A cycle of a timely source empties every family, whether its text can be written or not. -/
theorem scrape_of_isTimely {r : Registry} {source : Source} (h : source.IsTimely r.subjects) (now : Instant) :
    (r.scrape (some source) now).2 = r.clear := by
  have hend : ∃ errors, (r.collect (some source) now).1 = .ok errors := by
    rw [exists_collect_iff]
    exact h
  obtain ⟨errors, herrors⟩ := hend
  exact scrape_of_collect_ok herrors

/-- Whatever happened before, a cycle of a timely source ends with empty families. -/
theorem scrapeAll_of_isTimely {r : Registry} (ps : List Pass) {p : Pass} (h : p.1.IsTimely r.subjects) :
    (r.scrapeAll (ps ++ [p])).2 = r.clear := by
  have hsubjects : (r.scrapeAll ps).2.subjects = r.subjects := by
    rw [← subjects_clear, clear_scrapeAll, subjects_clear]
  have hp : p.1.IsTimely (r.scrapeAll ps).2.subjects := by
    rw [hsubjects]
    exact h
  rw [scrapeAll_append]
  exact (scrape_of_isTimely hp p.2).trans (r.clear_scrapeAll ps)

theorem scrapeAll_of_clear {r : Registry} (hr : r.clear = r) {ps : List Pass}
    (hps : ∀ p ∈ ps, p.1.IsTimely r.subjects) :
    r.scrapeAll ps = (ps.map fun p => (r.scrape (some p.1) p.2).1, r) := by
  induction ps with
  | nil => rfl
  | cons p ps ih =>
    obtain ⟨hp, hps⟩ := List.forall_mem_cons.1 hps
    have hback : (r.scrape (some p.1) p.2).2 = r := (scrape_of_isTimely hp p.2).trans hr
    simp only [scrapeAll, List.map_cons, hback, ih hps]

/-! ### Registries of registrations -/

/-- A registry to which nothing but registrations has been done has empty families. -/
theorem clear_of_registrations {path : String} {ops : List Operation} (hops : ∀ op ∈ ops, op.IsRegistration) :
    ((empty path).performAll ops).clear = (empty path).performAll ops := by
  have hall : ops.filter Operation.IsRegistration = ops := List.filter_eq_self.2 (by simpa using hops)
  rw [clear_performAll, hall]
  rfl

end Registry

/-- A cycle of a timely source leaves the registry as it was before any cycle, with empty families, whatever
the cycles before it did and whether its own text could be written or not. So a cycle after timely ones, itself
timely or not, has the outcome that it has on a registry on which there was none. -/
theorem scrapeAll_fresh {path : String} {ops : List Operation} {r : Registry}
    (hr : r = (Registry.empty path).performAll ops) (hops : ∀ op ∈ ops, op.IsRegistration) :
    (∀ f ∈ r.families, f.entries = []) ∧
      (∀ ps p, p.1.IsTimely r.subjects → (r.scrapeAll (ps ++ [p])).2 = r) ∧
      ∀ ps q, (∀ p ∈ ps, p.1.IsTimely r.subjects) →
        (r.scrapeAll (ps ++ [q])).1 = (ps ++ [q]).map fun p => (r.scrape (some p.1) p.2).1 := by
  have hclear : r.clear = r := by
    rw [hr]
    exact Registry.clear_of_registrations hops
  refine ⟨fun f hf => ?_, fun ps p hp => ?_, fun ps q hps => ?_⟩
  · rw [← hclear] at hf
    obtain ⟨f', -, rfl⟩ := List.mem_map.1 hf
    rfl
  · exact (Registry.scrapeAll_of_isTimely ps hp).trans hclear
  · rw [Registry.scrapeAll_append, Registry.scrapeAll_of_clear hclear hps, List.map_append]
    rfl

def runsAndKeys : Registry :=
  (Registry.empty "bpf").performAll [.registerKind (.kind (.prog .runCount)), .registerKind (.kind (.map .keySize))]

/-- A cycle that fails and one in which nothing is listed. -/
theorem scrapeAll_fresh_after_failure :
    (runsAndKeys.scrapeAll ([(sourceBeside (.int 1700000000000000000), ⟨1772366400000000⟩)] ++
      [(fun _ => .ok [], ⟨1772366400000000⟩)])).2 = runsAndKeys := by
  have htimely : Source.IsTimely (fun _ => .ok []) runsAndKeys.subjects := by
    intro s _ records hrecords r hr
    obtain rfl := Except.ok.inj hrecords
    exact absurd hr List.not_mem_nil
  exact (scrapeAll_fresh rfl (by simp [Operation.IsRegistration])).2.1 _ _ htimely

/-- A source of a program, and of a map with a time in nanoseconds. -/
def sourceAcross : Source
  | .prog => .ok [ranFourTimes]
  | .map => .ok [.raw (.obj [("id", .int 3), ("name", .str "m"), ("loaded_at", .int 1700000000000000000)])]
  | .link => .ok []

theorem families_runsAndKeys : runsAndKeys = ⟨"bpf", [.prog, .map],
    [Family.make "bpf_prog" (.prog .runCount) (Kind.prog .runCount).spec,
      Family.make "bpf_map" (.map .keySize) (Kind.map .keySize).spec]⟩ := by
  have hmap := Registry.registerKind_of_free (r := ⟨"bpf", [.prog], [Family.make "bpf_prog" (.prog .runCount)
    (Kind.prog .runCount).spec]⟩) (k := .map .keySize) rfl (by decide +kernel)
  rw [runsAndKeys, Registry.performAll, List.foldl_cons, Registry.perform, Registry.registerKind_empty]
  exact congrArg Prod.snd hmap

/-- What a cycle leaves that fails after the program has been stored. -/
def afterFailure : Registry := ⟨"bpf", [.prog, .map],
  [⟨.prog .runCount, (Kind.prog .runCount).spec, "bpf_prog_execution", [(.prog ⟨7, "", "foo", 0⟩, .int 4)]⟩,
    Family.make "bpf_map" (.map .keySize) (Kind.map .keySize).spec]⟩

theorem fits_afterFailure : ∀ f ∈ afterFailure.families, f.Fits := by
  intro f hf p hp
  simp only [afterFailure, List.mem_cons, List.not_mem_nil, or_false] at hf
  rcases hf with rfl | rfl
  · obtain rfl := List.mem_singleton.1 hp
    exact ⟨by decide +kernel, 4, rfl, rfl⟩
  · exact absurd hp List.not_mem_nil

/-- The listing of maps fails the first cycle when the program has been stored already. Nothing is listed in
the second, and the program is in its text. -/
theorem scrapeAll_stale : ∃ lines, (runsAndKeys.scrapeAll [(sourceAcross, ⟨1772366400000000⟩),
      (fun _ => .ok [], ⟨1772366400000000⟩)]).1 =
      [.error (.collect (.clock .yearOverflow)), .ok ⟨Exposition.ofLines lines, []⟩] ∧
    "bpf_prog_execution_count_total\x7bid=\"7\",program_type=\"\",name=\"foo\",tag=\"0\"\x7d 4" ∈ lines := by
  have hfirst : runsAndKeys.scrape (some sourceAcross) ⟨1772366400000000⟩ =
      (.error (.collect (.clock .yearOverflow)), afterFailure) := by
    rw [families_runsAndKeys]
    rfl
  have hcollect : afterFailure.collect (some fun _ => .ok []) ⟨1772366400000000⟩ = (.ok [], afterFailure) := rfl
  have hsecond := Registry.scrape_of_fits hcollect fits_afterFailure
  refine ⟨afterFailure.families.flatMap Family.lines ++ ["# EOF"], ?_, ?_⟩
  · simp only [Registry.scrapeAll, hfirst, hsecond]
  · refine List.mem_append_left _ (List.mem_flatMap.2 ⟨_, List.mem_cons_self, ?_⟩)
    refine List.mem_append_right _ (List.mem_map.2 ⟨(.prog ⟨7, "", "foo", 0⟩, 4), ?_, ?_⟩)
    · exact Family.mem_ints.2 List.mem_cons_self
    · decide +kernel

end BpfExporter
