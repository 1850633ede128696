import BpfExporter.Proofs.FamilyText
import BpfExporter.Proofs.RoundTrip
import BpfExporter.Proofs.Updates

/-! The text of families of the fixed table. Where its values are in range, a family is a typed metric, whose
samples show the labels of its label sets as texts. -/
namespace BpfExporter

open Exposition
open Exposition.Grammar (isMetricName isLabelName)

namespace LabelSet

def texts (l : LabelSet) : List (String × String) := l.pairs.map fun p => (p.1, p.2.display)

theorem names_texts (l : LabelSet) : l.texts.map Prod.fst = l.subject.labelNames := by
  rw [← names_pairs, texts, List.map_map]
  rfl

theorem isLabelName_labelNames (s : Subject) : ∀ n ∈ s.labelNames, isLabelName n.toList = true := by
  cases s <;> decide

theorem nodup_labelNames (s : Subject) : s.labelNames.Nodup := by
  cases s <;> decide

end LabelSet

namespace Kind

def typedSample (k : Kind) (p : LabelSet × Int) (h : inRange k.spec.type p.2 = true) :
    TypedSample k.spec.type where
  labels := p.1.texts
  value := p.2
  named _ hq := LabelSet.isLabelName_labelNames _ _ (p.1.names_texts ▸ List.mem_map_of_mem hq)
  distinct := p.1.names_texts ▸ LabelSet.nodup_labelNames _
  held := h

variable {path : String}

def sorted (m : List (LabelSet × Int)) : List (LabelSet × Int) :=
  m.mergeSort fun a b => (a.1.compare b.1).isLE

end Kind

def Update.content (path : String) (u : Update) : String × MetricType × List (String × String) × Int :=
  ((u.kind.family path).exposedName, u.kind.spec.type, u.labels.texts, u.value)

def shown (ks : List Kind) (m : Kind → List (LabelSet × Int)) : List Update :=
  ks.flatMap fun k => (Kind.sorted (m k)).map fun p => ⟨k, p.1, p.2⟩

end BpfExporter
