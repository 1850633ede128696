import BpfExporter.Proofs.Grammar

/-! Where the samples of a document stand. The numbers that its samples are read with rise from line to
line, and at each of them stands the line of its sample. -/
namespace BpfExporter.Exposition

def Sample.content (s : Sample) : String × MetricType × List (String × String) × Int :=
  (s.family, s.type, s.labels, s.value)

/-- The line with a number. The first line has the number 1. -/
def lineAt (lines : List (List Char)) : Nat → Option (List Char)
  | 0 => none
  | n + 1 => lines[n]?

theorem lineAt_append (ls ms : List (List Char)) (line : List Char) :
    lineAt (ls ++ line :: ms) (ls.length + 1) = some line := by
  simp [lineAt]

namespace Grammar

namespace SectionText

theorem contents_numbered (family : String) (t : MetricType) (n : Nat) (xs : List SampleText) :
    (numbered family t n xs).map Sample.content =
      xs.map fun x => (family, t, x.pairs, x.value.value) := by
  induction xs generalizing n with
  | nil => rfl
  | cons x xs ih => simp [numbered, ih, Sample.content, SampleText.sample]

theorem lines_numbered (family : String) (t : MetricType) (n : Nat) (xs : List SampleText) :
    (numbered family t n xs).map Sample.line = List.range' (n + 1) xs.length := by
  induction xs generalizing n with
  | nil => rfl
  | cons x xs ih => simp [numbered, ih, SampleText.sample, List.range'_succ]

/-- Samples whose lines follow `before` have their own lines at their numbers. -/
theorem lineAt_numbered (family : String) (t : MetricType) (name : String) (xs : List SampleText)
    (before after : List (List Char)) :
    (numbered family t before.length xs).map
        (fun s => lineAt (before ++ (xs.map (SampleText.written name) ++ after)) s.line) =
      xs.map fun x => some (x.written name) := by
  induction xs generalizing before with
  | nil => rfl
  | cons x xs ih =>
    have hfirst := lineAt_append before (xs.map (SampleText.written name) ++ after) (x.written name)
    have hrest := ih (before ++ [x.written name])
    simp only [List.length_append, List.length_singleton, List.append_assoc,
      List.singleton_append] at hrest
    simp only [numbered, List.map_cons, List.cons_append, hrest]
    exact congrArg (· :: _) hfirst

theorem length_lines (sec : SectionText) :
    sec.lines.length = sec.head.length + sec.samples.length := by
  simp [lines]

theorem lines_read (sec : SectionText) (n : Nat) :
    (sec.read n).map Sample.line = List.range' (n + sec.head.length + 1) sec.samples.length :=
  lines_numbered _ _ _ _

theorem lineAt_read (sec : SectionText) (before after : List (List Char)) :
    (sec.read before.length).map (fun s => lineAt (before ++ (sec.lines ++ after)) s.line) =
      sec.samples.map fun x => some (x.written (sampleName sec.family sec.type)) := by
  have h := lineAt_numbered sec.family sec.type (sampleName sec.family sec.type) sec.samples
    (before ++ sec.head) after
  simpa only [read, List.length_append, List.append_assoc, lines] using h

end SectionText

namespace Document

theorem contents_readFrom (doc : Document) (n : Nat) :
    (doc.readFrom n).map Sample.content = doc.flatMap fun sec =>
      sec.samples.map fun x => (sec.family, sec.type, x.pairs, x.value.value) := by
  induction doc generalizing n with
  | nil => rfl
  | cons sec doc ih =>
    rw [readFrom, List.map_append, ih, List.flatMap_cons]
    exact congrArg (· ++ _) (SectionText.contents_numbered _ _ _ _)

theorem lineAt_readFrom (doc : Document) (before after : List (List Char)) :
    (doc.readFrom before.length).map (fun s => lineAt (before ++ (doc.body ++ after)) s.line) =
      doc.flatMap fun sec =>
        sec.samples.map fun x => some (x.written (sampleName sec.family sec.type)) := by
  induction doc generalizing before with
  | nil => rfl
  | cons sec doc ih =>
    have hfirst := sec.lineAt_read before (body doc ++ after)
    have hrest := ih (before ++ sec.lines)
    have hbody : body (sec :: doc) = sec.lines ++ body doc := by simp [body]
    simp only [List.length_append, List.append_assoc] at hrest
    rw [readFrom, List.map_append, hbody, List.append_assoc, hfirst, hrest, List.flatMap_cons]

theorem lt_line_of_mem_readFrom {doc : Document} {n : Nat} {s : Sample} (h : s ∈ doc.readFrom n) :
    n < s.line := by
  induction doc generalizing n with
  | nil => simp [readFrom] at h
  | cons sec doc ih =>
    rcases List.mem_append.1 h with h | h
    · have hline := List.mem_map_of_mem (f := Sample.line) h
      rw [sec.lines_read, List.mem_range'_1] at hline
      omega
    · have := ih h
      omega

theorem pairwise_readFrom (doc : Document) (n : Nat) :
    ((doc.readFrom n).map Sample.line).Pairwise (· < ·) := by
  induction doc generalizing n with
  | nil => exact .nil
  | cons sec doc ih =>
    rw [readFrom, List.map_append, sec.lines_read]
    refine List.pairwise_append.2 ⟨List.pairwise_lt_range', ih _, ?_⟩
    intro i hi j hj
    obtain ⟨s, hs, rfl⟩ := List.mem_map.1 hj
    have hlt := lt_line_of_mem_readFrom hs
    rw [List.mem_range'_1] at hi
    rw [sec.length_lines] at hlt
    omega

end Document

end Grammar

end BpfExporter.Exposition
