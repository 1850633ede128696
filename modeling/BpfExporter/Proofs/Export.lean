import BpfExporter.Proofs.FamilyText
import BpfExporter.Proofs.RecordFilter

/-! Exports. An export says what rendering would say, be it a text or the reason why there is none, and empties
the families either way. What it leaves is what the registrations alone have made, so the export after it always
has a text, of heads without samples. -/
namespace BpfExporter

open Exposition (ofLines)

namespace Family

variable {κ : Type}

theorem items_mk_singleton (kind : κ) (spec : Spec) (baseName : String) (p : LabelSet × Json) :
    (Family.mk kind spec baseName [p]).items = [p] := List.mergeSort_singleton p

theorem fits_clear (f : Family κ) : f.clear.Fits := fun _ hp => absurd hp List.not_mem_nil

theorem lines_clear (f : Family κ) : f.clear.lines = familyLines f.exposedName f.spec [] := by
  rw [lines, ints, items_clear]
  rfl

end Family

namespace Registry

variable {r : Registry}

theorem render_clear (r : Registry) : r.clear.render =
    .ok (ofLines (r.families.flatMap (fun f => familyLines f.exposedName f.spec []) ++ ["# EOF"])) := by
  have hfits : ∀ f ∈ r.clear.families, f.Fits := by
    intro f hf
    obtain ⟨f', -, rfl⟩ := List.mem_map.1 hf
    exact f'.fits_clear
  have hlines : r.clear.families.flatMap Family.lines =
      r.families.flatMap fun f => familyLines f.exposedName f.spec [] := by
    rw [clear, Families.clear, List.flatMap_map]
    exact congrArg (List.flatMap · r.families) (funext Family.lines_clear)
  rw [render_of_fits hfits, hlines]

end Registry

/-- Rendering leaves the registry as it is. An export says what rendering says, be it the text, which takes every value
to be an integer with a place in its family and every label to be one that can be shown, or the reason why there is
none. What it leaves of the registry is what its registrations alone have made of it: the same families in the same
order, without entries, and the same subjects. So the next export has a text, in which no family has a sample, and
leaves all as it is. -/
theorem exportText_consumes {path : String} {ops : List Operation} {r : Registry}
    (hr : r = (Registry.empty path).performAll ops) :
    r.renderText.2 = r ∧ r.exportText.1 = r.renderText.1 ∧
      ((∃ text, r.exportText.1 = .ok text) ↔ ∀ f ∈ r.families, f.Fits) ∧
      r.exportText.2 = (Registry.empty path).performAll (ops.filter Operation.IsRegistration) ∧
      r.exportText.2.subjects = r.subjects ∧
      r.exportText.2.families = r.families.map (fun f => { f with entries := [] }) ∧
      r.exportText.2.exportText = (.ok (ofLines
        (r.families.flatMap (fun f => familyLines f.exposedName f.spec []) ++ ["# EOF"])), r.exportText.2) := by
  have hregistrations : r.clear = (Registry.empty path).performAll (ops.filter Operation.IsRegistration) := by
    rw [hr, Registry.clear_performAll]
    rfl
  have hnext : r.clear.exportText = (.ok (ofLines
      (r.families.flatMap (fun f => familyLines f.exposedName f.spec []) ++ ["# EOF"])), r.clear) := by
    rw [Registry.exportText_eq, Registry.render_clear, Registry.clear_clear]
  rw [Registry.renderText_eq, Registry.exportText_eq]
  exact ⟨rfl, rfl, Registry.exists_render_iff, hregistrations, rfl, rfl, hnext⟩

/-- A count below zero is given to a registry of the runs of programs. -/
def runsBelowZero : Registry := (Registry.empty "bpf").performAll
  [.registerKind (.kind (.prog .runCount)),
    .update (.kind (.prog .runCount)) (.prog ⟨9, "xdp", "neg", 0⟩) (.int (-1))]

theorem families_runsBelowZero : runsBelowZero = runCounts [(.prog ⟨9, "xdp", "neg", 0⟩, .int (-1))] := by
  rw [runsBelowZero, Registry.performAll, List.foldl_cons, Registry.perform, Registry.registerKind_empty]
  rfl

theorem render_runsBelowZero : runsBelowZero.render = .error (.outOfRange .counter (-1)) := by
  have hwritable : ∀ f ∈ runsBelowZero.families, ∀ p ∈ f.entries, p.1.isWritable = true := by
    rw [families_runsBelowZero]
    decide +kernel
  rw [Registry.render_eq_encode hwritable, families_runsBelowZero]
  simp only [Registry.metrics, runCounts, List.map_singleton, Family.metric, Family.items_mk_singleton]
  rfl

/-- The count keeps the text from being rendered and from being exported, and the text after that has the head of its
family. -/
theorem exportText_consumes_negative :
    runsBelowZero.renderText = (.error (.outOfRange .counter (-1)), runsBelowZero) ∧
      runsBelowZero.exportText.1 = .error (.outOfRange .counter (-1)) ∧
      runsBelowZero.exportText.2.exportText.1 = .ok
        ("# HELP bpf_prog_execution_count Accumulated execution count of the program\n" ++
          "# TYPE bpf_prog_execution_count counter\n# UNIT bpf_prog_execution_count count\n# EOF\n") := by
  have hruns : runsBelowZero = (Registry.empty "bpf").performAll _ := rfl
  obtain ⟨-, hfirst, -, -, -, -, hsecond⟩ := exportText_consumes hruns
  rw [hfirst, hsecond, Registry.renderText_eq, render_runsBelowZero]
  refine ⟨rfl, rfl, congrArg Except.ok ?_⟩
  rw [families_runsBelowZero]
  decide +kernel

end BpfExporter
