import Mathlib.Algebra.Group.Nat.Defs
import BpfExporter.Exposition.Encode
import BpfExporter.Proofs.Acceptance

/-! What the encoder writes. A metric of one of the two types, under a name of the format and with texts
as its label values, is written as a section of the grammar; metrics one after another make a document,
in which every sample says what it was written from. -/
namespace BpfExporter

namespace Numeral

theorem decimalValue_toDigits (n : Nat) : decimalValue (Nat.toDigits 10 n) = n :=
  Nat.ofDigitChars_ten_toDigits

theorem toList_toString (v : Int) :
    (toString v).toList = (if 0 ≤ v then [] else ['-']) ++ Nat.toDigits 10 v.natAbs := by
  rw [Int.toString_eq_repr, Int.repr_eq_if]
  by_cases hv : 0 ≤ v
  · have habs : v.toNat = v.natAbs := by omega
    simp [hv, habs]
  · have habs : (-v).toNat = v.natAbs := by omega
    simp [hv, habs]

theorem write?_eq (n : Int) : write? n = if n.natAbs < 10 ^ maxDigits then some (toString n) else none := by
  have hdigits : (toString n.natAbs).toList = Nat.toDigits 10 n.natAbs := by simp
  have hlength : (toString n.natAbs).length ≤ maxDigits ↔ n.natAbs < 10 ^ maxDigits := by
    rw [← String.length_toList, hdigits]
    exact Nat.length_toDigits_le_iff (by decide) (by decide)
  have htext : (if n < 0 then "-" ++ toString n.natAbs else toString n.natAbs) = toString n := by
    rw [← String.toList_inj, toList_toString]
    by_cases hn : n < 0
    · rw [if_pos hn, if_neg (by omega), String.toList_append, hdigits]
      rfl
    · rw [if_neg hn, if_pos (by omega), hdigits, List.nil_append]
  simp only [write?, hlength, htext]

theorem isSome_write?_iff {n : Int} : (write? n).isSome = true ↔ n.natAbs < 10 ^ maxDigits := by
  rw [write?_eq]
  by_cases h : n.natAbs < 10 ^ maxDigits
  · rw [if_pos h]
    exact iff_of_true rfl h
  · rw [if_neg h]
    exact iff_of_false Bool.false_ne_true h

theorem lt_pow_maxDigits {n bits : Nat} (hbits : bits ≤ 1000) (h : n ≤ 2 ^ bits) : n < 10 ^ maxDigits := calc
  n ≤ 2 ^ bits := h
  _ ≤ 10 ^ bits := Nat.pow_le_pow_left (by decide) bits
  _ < 10 ^ maxDigits := Nat.pow_lt_pow_right (by decide) (by unfold maxDigits; omega)

theorem write?_eq_some {n : Int} {bits : Nat} (hbits : bits ≤ 1000) (h : n.natAbs ≤ 2 ^ bits) :
    write? n = some (toString n) := by
  rw [write?_eq, if_pos (lt_pow_maxDigits hbits h)]

end Numeral

namespace Exposition

open Grammar

namespace Escape

theorem escaped_label (cs : List Char) : Escaped PlainInValue (label cs) cs := by
  fun_induction label cs with
  | case1 => exact .nil
  | case2 cs ih => exact .backslash ih
  | case3 cs ih => exact .newline ih
  | case4 cs ih => exact .quote ih
  | case5 c cs hb hn hq ih => exact .char ⟨hb, hq, hn⟩ ih

theorem label_cons {c : Char} (h : PlainInValue c) (cs : List Char) : label (c :: cs) = c :: label cs := by
  obtain ⟨hb, hq, hn⟩ := h
  rw [label]
  · exact hb
  · exact hn
  · exact hq

theorem eq_label_of_escaped {t v : List Char} (h : Escaped PlainInValue t v) : t = label v := by
  induction h with
  | nil => rfl
  | char hc _ ih => rw [label_cons hc, ← ih]
  | backslash _ ih => rw [ih]; rfl
  | quote _ ih => rw [ih]; rfl
  | newline _ ih => rw [ih]; rfl

theorem escaped_help (cs : List Char) : Escaped PlainInHelp (help cs) cs := by
  fun_induction help cs with
  | case1 => exact .nil
  | case2 cs ih => exact .backslash ih
  | case3 cs ih => exact .newline ih
  | case4 c cs hb hn ih => exact .char hb ih

theorem newline_not_mem_help (cs : List Char) : '\n' ∉ help cs := by
  fun_induction help cs with
  | case1 => simp
  | case2 cs ih => simp [ih]
  | case3 cs ih => simp [ih]
  | case4 c cs hb hn ih => simpa [ih] using fun h => hn h.symm

end Escape

theorem Grammar.isMetricName_append {name tail : List Char} (h : isMetricName name = true)
    (htail : tail.all (fun c => c.isAlphanum || c == '_' || c == ':') = true) :
    isMetricName (name ++ tail) = true := by
  cases name with
  | nil => simp [isMetricName, isWord] at h
  | cons c cs =>
    simp only [isMetricName, isWord, Bool.and_eq_true] at h
    simp only [isMetricName, isWord, List.cons_append, List.all_append, Bool.and_eq_true]
    exact ⟨h.1, h.2, htail⟩

namespace Grammar.Integer

/-- An integer of 64 bits as it is written by itself. -/
def ofInt (v : Int) (h : v.natAbs < 0x10000000000000000) : Integer where
  sign := if 0 ≤ v then .absent else .minus
  digits := Nat.toDigits 10 v.natAbs
  ascii _ hc := Nat.isDigit_of_mem_toDigits (by decide) (by decide) hc
  nonempty := Nat.toDigits_ne_nil
  short := by
    have hbound : v.natAbs < 10 ^ 20 := by omega
    have hlength := (Nat.length_toDigits_le_iff (by decide) (by decide)).2 hbound
    omega

@[simp] theorem value_ofInt {v : Int} (h : v.natAbs < 0x10000000000000000) : (ofInt v h).value = v := by
  rw [value, ofInt, Numeral.decimalValue_toDigits]
  by_cases hv : 0 ≤ v
  · rw [if_pos hv, Sign.apply]
    · omega
    · simp
  · rw [if_neg hv, Sign.apply]
    omega

@[simp] theorem written_ofInt {v : Int} (h : v.natAbs < 0x10000000000000000) :
    (ofInt v h).written = (toString v).toList := by
  rw [written, ofInt, Numeral.toList_toString]
  by_cases hv : 0 ≤ v <;> simp [hv, Sign.written]

end Grammar.Integer

namespace Grammar.Label

theorem toList_pairText (l : Label) : (LabelText.pairText (l.name, .str l.value)).toList = l.written := by
  simp [LabelText.pairText, LabelText.valueText, Escape.labelText, Json.display, written,
    Escape.eq_label_of_escaped l.escaped]

theorem toList_format (ls : List Label) : (LabelText.format (ls.map fun l => (l.name, .str l.value))).toList =
    if ls = [] then [] else '\x7b' :: (joined ls ++ ['\x7d']) := by
  have hpairs : (ls.map fun l => LabelText.pairText (l.name, .str l.value)).map String.toList =
      ls.map written := by
    rw [List.map_map]
    exact List.map_congr_left fun l _ => l.toList_pairText
  have hjoined : (String.intercalate "," (ls.map fun l => LabelText.pairText (l.name, .str l.value))).toList =
      joined ls := by
    rw [String.toList_intercalate, hpairs]
    rfl
  by_cases hl : ls = []
  · simp [LabelText.format, hl]
  · simp [LabelText.format, hl, ← hjoined, Function.comp_def]

end Grammar.Label

/-- A sample of a metric of a type: its labels have texts as values, and its value is in range. -/
structure TypedSample (t : MetricType) where
  labels : List (String × String)
  value : Int
  named : ∀ p ∈ labels, isLabelName p.1.toList = true
  distinct : (labels.map Prod.fst).Nodup
  held : inRange t value = true

namespace TypedSample

variable {t : MetricType}

def sample (name : String) (x : TypedSample t) : MetricSample :=
  ⟨name, x.labels.map fun p => (p.1, .str p.2), .int x.value⟩

theorem natAbs_value_lt (x : TypedSample t) : x.value.natAbs < 0x10000000000000000 := by
  have hheld := x.held
  cases t <;> simp only [inRange, Bool.and_eq_true, decide_eq_true_eq] at hheld <;> omega

theorem nonneg (x : TypedSample t) (ht : t = .counter) : 0 ≤ x.value := by
  have hheld := x.held
  subst ht
  simp only [inRange, Bool.and_eq_true, decide_eq_true_eq] at hheld
  exact hheld.1

def label (p : String × String) (h : isLabelName p.1.toList = true) : Label :=
  ⟨p.1, Escape.label p.2.toList, p.2, h, Escape.escaped_label _⟩

def grammarLabels (x : TypedSample t) : List Label := x.labels.pmap label x.named

@[simp] theorem pairs_grammarLabels (x : TypedSample t) : x.grammarLabels.map Label.pair = x.labels := by
  simp [grammarLabels, List.map_pmap, label, Label.pair]

theorem names_grammarLabels (x : TypedSample t) :
    x.grammarLabels.map Label.name = x.labels.map Prod.fst := by
  simp [grammarLabels, List.map_pmap, label]

/-- The sample in the grammar. Braces are left out where there are no labels. -/
def text (x : TypedSample t) : SampleText where
  labels := if x.labels = [] then none else some x.grammarLabels
  value := .ofInt x.value x.natAbs_value_lt
  distinct ls hls := by
    by_cases hl : x.labels = []
    · simp [hl] at hls
    · simp only [hl, if_false, Option.mem_def, Option.some.injEq] at hls
      rw [← hls, names_grammarLabels]
      exact x.distinct

@[simp] theorem pairs_text (x : TypedSample t) : x.text.pairs = x.labels := by
  by_cases hl : x.labels = []
  · simp [SampleText.pairs, text, hl]
  · simp [SampleText.pairs, text, hl]

@[simp] theorem value_text (x : TypedSample t) : x.text.value.value = x.value := by simp [text]

theorem toList_format (x : TypedSample t) :
    (LabelText.format (x.labels.map fun p => (p.1, .str p.2))).toList = x.text.braces := by
  have hlabels : x.labels.map (fun p => (p.1, Json.str p.2)) =
      x.grammarLabels.map fun l => (l.name, Json.str l.value) := by
    rw [← x.pairs_grammarLabels, List.map_map]
    rfl
  have hnil : x.grammarLabels = [] ↔ x.labels = [] := List.pmap_eq_nil_iff
  rw [hlabels, Label.toList_format]
  by_cases hl : x.labels = []
  · simp [hnil, hl, SampleText.braces, text]
  · simp [hnil, hl, SampleText.braces, text]

theorem encodeSample_eq (name : String) (x : TypedSample t) :
    encodeSample t.name (x.sample name) = .ok (String.ofList (x.text.written name ++ ['\n'])) := by
  have hvalue : formatValue t.name (.int x.value) = .ok (toString x.value) := by
    simp [formatValue, x.held]
  have hline : (name ++ LabelText.format (x.sample name).labels ++ " " ++ toString x.value ++ "\n").toList =
      x.text.written name ++ ['\n'] := by
    have hbraces := x.toList_format
    simp only [String.toList_append, sample, hbraces, SampleText.written, text, Integer.written_ofInt]
    simp
  have hlabels : formatLabels (x.sample name).labels = .ok (LabelText.format (x.sample name).labels) :=
    if_pos (by simp [sample])
  rw [encodeSample, hlabels, ← hline, String.ofList_toList, sample, hvalue]
  rfl

end TypedSample

/-- A metric of one of the two types under a name of the format, with a unit of one line. -/
structure TypedMetric where
  name : String
  help : String
  type : MetricType
  unit : String
  samples : List (TypedSample type)
  named : isMetricName name.toList = true
  unit_newline : '\n' ∉ unit.toList

namespace TypedMetric

def metric (m : TypedMetric) : Metric :=
  ⟨m.name, m.help, m.type.name, m.unit, m.samples.map (TypedSample.sample (sampleName m.name m.type))⟩

/-- What the samples say: family, type, labels and value. -/
def contents (m : TypedMetric) : List (String × MetricType × List (String × String) × Int) :=
  m.samples.map fun x => (m.name, m.type, x.labels, x.value)

theorem space_not_mem_name (m : TypedMetric) : ' ' ∉ m.name.toList := fun h => by
  have := next_of_isWord SampleLine.isMetricChar_of_isMetricStart m.named _ h
  exact absurd this (by decide)

theorem named_sampleName {name : String} (h : isMetricName name.toList = true) (t : MetricType) :
    isMetricName (sampleName name t).toList = true := by
  cases t with
  | gauge => exact h
  | counter =>
    rw [sampleName, String.toList_append]
    exact isMetricName_append h (by decide)

def sectionText (m : TypedMetric) : SectionText where
  family := m.name
  help := some (Escape.help m.help.toList)
  type := m.type
  units := if m.unit = "" then [] else [some m.unit.toList]
  samples := m.samples.map TypedSample.text
  family_plain := ⟨m.space_not_mem_name, newline_not_mem_of_isMetricName m.named⟩
  help_newline := by
    intro t ht
    obtain rfl := Option.some.inj ht
    exact Escape.newline_not_mem_help _
  help_escaped := by
    intro t ht
    obtain rfl := Option.some.inj ht
    exact ⟨_, Escape.escaped_help _⟩
  units_newline := by
    intro u hu t ht
    by_cases he : m.unit = ""
    · simp [he] at hu
    · simp only [he, if_false, List.mem_singleton] at hu
      rw [hu] at ht
      obtain rfl := Option.some.inj ht
      exact m.unit_newline
  units_blank := by by_cases he : m.unit = "" <;> simp [he]
  named _ := named_sampleName m.named m.type
  nonneg ht y hy := by
    obtain ⟨x, -, rfl⟩ := List.mem_map.1 hy
    simpa using x.nonneg ht

theorem encodeSamples_eq (name : String) {t : MetricType} (xs : List (TypedSample t)) :
    encodeSamples t.name (xs.map (TypedSample.sample name)) =
      .ok (String.ofList (unlines (xs.map fun x => x.text.written name))) := by
  induction xs with
  | nil => rfl
  | cons x xs ih =>
    rw [List.map_cons, encodeSamples, x.encodeSample_eq name]
    simp [ih, Except.map, ← String.ofList_append]

theorem encodeHead_eq (m : TypedMetric) :
    encodeHead m.metric = String.ofList (unlines m.sectionText.head) := by
  apply String.toList_inj.1
  show String.toList ("# HELP " ++ m.name ++ " " ++ Escape.helpText m.help ++ "\n" ++
    "# TYPE " ++ m.name ++ " " ++ m.type.name ++ "\n" ++
    (if m.unit.isEmpty then "" else "# UNIT " ++ m.name ++ " " ++ m.unit ++ "\n")) = _
  by_cases he : m.unit = ""
  · simp [he, Escape.helpText, SectionText.head, sectionText, headLine]
  · simp [he, Escape.helpText, SectionText.head, sectionText, headLine]

theorem encodeMetric_eq (m : TypedMetric) :
    encodeMetric m.metric = .ok (String.ofList (unlines m.sectionText.lines)) := by
  have hsamples := encodeSamples_eq (sampleName m.name m.type) m.samples
  have htype : (MetricType.ofName? m.metric.type).isNone = false := by simp [metric]
  have hlines : m.sectionText.lines = m.sectionText.head ++
      m.samples.map fun x => x.text.written (sampleName m.name m.type) := by
    simp [SectionText.lines, sectionText, Function.comp_def]
  rw [encodeMetric, htype, if_neg Bool.false_ne_true, encodeHead_eq, hlines, unlines_append,
    String.ofList_append]
  exact congrArg (Except.map _) hsamples

def document (ms : List TypedMetric) : Document := ms.map sectionText

theorem encode_eq (ms : List TypedMetric) :
    encode (ms.map fun m => .ok m.metric) = .ok (String.ofList (document ms).text) := by
  induction ms with
  | nil => rfl
  | cons m ms ih =>
    have htext : (document (m :: ms)).text = unlines m.sectionText.lines ++ (document ms).text := by
      simp [document, Document.text, Document.lines, Document.body]
    rw [List.map_cons, encode, encodeMetric_eq]
    simp only [ih, Except.map, htext, String.ofList_append]

theorem named_id_name (id name : String) :
    ∀ p ∈ [("id", id), ("name", name)], isLabelName p.1.toList = true := by
  simp [isLabelName, isWord]

theorem inRange_counter (v : UInt64) : inRange .counter v.toNat = true := by
  have := v.toNat_lt
  simp only [inRange, Bool.and_eq_true, decide_eq_true_eq]
  omega

def counter (family : String) (named : isMetricName family.toList = true) (id name : String) (v : UInt64) :
    TypedMetric :=
  ⟨family, "h", .counter, "", [⟨[("id", id), ("name", name)], v.toNat, named_id_name id name, by simp,
    inRange_counter v⟩], named, by simp⟩

theorem read_counter {family : String} (named : isMetricName family.toList = true) (id name : String)
    (v : UInt64) :
    (document [counter family named id name v]).read =
      [⟨family, .counter, [("id", id), ("name", name)], v.toNat, 3⟩] := by
  simp [Document.read, Document.readFrom, SectionText.read, SectionText.numbered, SampleText.sample,
    document, sectionText, SectionText.head, counter]

theorem isMetricName_runTime : isMetricName "bpf_prog_run_time_nanoseconds".toList = true := by
  decide

end TypedMetric

end Exposition

end BpfExporter
