import BpfExporter.Proofs.Placement
import BpfExporter.Proofs.Writing

/-! Reading undoes writing. The text of typed metrics is taken by the decoder to its end, and the samples
left are those that were written, in their order and each with the number of its line. -/
namespace BpfExporter.Exposition

open Grammar
open Decoder (cutLines)

namespace TypedMetric

theorem contents_read_document (ms : List TypedMetric) :
    (document ms).read.map Sample.content = ms.flatMap contents := by
  rw [Document.read, Document.contents_readFrom, document, List.flatMap_map]
  congr 1
  funext m
  simp [sectionText, contents, Function.comp_def]

theorem lineAt_read_document (ms : List TypedMetric) :
    (document ms).read.map (fun s => (lineAt (document ms).lines s.line).map fun line =>
        Except.ok (String.ofList (line ++ ['\n']))) =
      ms.flatMap fun m => m.metric.samples.map fun x => some (encodeSample m.type.name x) := by
  have hlines := (document ms).lineAt_readFrom [] ["# EOF".toList]
  have hwritten : ∀ m : TypedMetric,
      m.sectionText.samples.map (fun x => some
        (Except.ok (String.ofList (x.written (sampleName m.name m.type) ++ ['\n'])) :
          Except SampleError String)) =
        m.metric.samples.map fun x => some (encodeSample m.type.name x) := by
    intro m
    simp [sectionText, metric, TypedSample.encodeSample_eq, Function.comp_def]
  have hmap := congrArg (List.map (Option.map fun line =>
    (Except.ok (String.ofList (line ++ ['\n'])) : Except SampleError String))) hlines
  rw [List.map_map, document, List.flatMap_map, List.map_flatMap] at hmap
  refine hmap.trans ?_
  congr 1
  funext m
  rw [← hwritten m, List.map_map]
  rfl

end TypedMetric

namespace Decoder

/-- The text of typed metrics is taken whole, and the samples of their document are left. -/
theorem reads_document (ms : List TypedMetric) :
    ∃ text d, encode (ms.map fun m => .ok m.metric) = .ok text ∧
      text.toList = (TypedMetric.document ms).text ∧
      start.feed (.text text) = (.ok true, d) ∧ d.close = .ok (TypedMetric.document ms).read := by
  have htext : (String.ofList (TypedMetric.document ms).text).toList = (TypedMetric.document ms).text :=
    String.toList_ofList
  obtain ⟨d, hfeed, hclose⟩ := reads_iff.2 ⟨rfl, TypedMetric.document ms, htext, rfl⟩
  exact ⟨_, d, TypedMetric.encode_eq ms, htext, hfeed, hclose⟩

/-- What is written is read back: the samples say what they were written from, in the same order, their
numbers rise, and at each number stands the line that the sample was written as. -/
theorem reads_encode (ms : List TypedMetric) :
    ∃ text d samples, encode (ms.map fun m => .ok m.metric) = .ok text ∧
      start.feed (.text text) = (.ok true, d) ∧ d.close = .ok samples ∧
      samples.map Sample.content = ms.flatMap TypedMetric.contents ∧
      (samples.map Sample.line).Pairwise (· < ·) ∧
      samples.map (fun s => (lineAt (cutLines text.toList).1 s.line).map fun line =>
          Except.ok (String.ofList (line ++ ['\n']))) =
        ms.flatMap fun m => m.metric.samples.map fun x => some (encodeSample m.type.name x) := by
  obtain ⟨text, d, hencode, htext, hfeed, hclose⟩ := reads_document ms
  have hcut : cutLines text.toList = ((TypedMetric.document ms).lines, []) :=
    cutLines_eq_iff.2 ⟨htext, Document.newline_not_mem_lines _⟩
  refine ⟨text, d, _, hencode, hfeed, hclose, TypedMetric.contents_read_document ms,
    Document.pairwise_readFrom _ _, ?_⟩
  rw [hcut]
  exact TypedMetric.lineAt_read_document ms

/-- Texts that look like the rest of a sample, the end and an escape come back as they are. -/
theorem reads_encode_quoted :
    ∃ text d samples,
      encode [.ok ⟨"a", "\\n\n", "counter", "s", [⟨"a_total",
        [("k", .str "\"\x7d 5"), ("l", .str "\\\n# EOF\n")], .int 7⟩]⟩] = .ok text ∧
      start.feed (.text text) = (.ok true, d) ∧ d.close = .ok samples ∧
      samples.map Sample.content =
        [("a", .counter, [("k", "\"\x7d 5"), ("l", "\\\n# EOF\n")], 7)] := by
  have hnamed : ∀ p ∈ [("k", "\"\x7d 5"), ("l", "\\\n# EOF\n")], isLabelName p.1.toList = true := by
    simp [isLabelName, isWord]
  let x : TypedSample .counter :=
    ⟨[("k", "\"\x7d 5"), ("l", "\\\n# EOF\n")], 7, hnamed, by decide, by decide⟩
  let m : TypedMetric := ⟨"a", "\\n\n", .counter, "s", [x], by decide, by decide⟩
  obtain ⟨text, d, samples, hencode, hfeed, hclose, hcontents, -, -⟩ := reads_encode [m]
  exact ⟨text, d, samples, hencode, hfeed, hclose, hcontents⟩

end Decoder

end BpfExporter.Exposition
