import Mathlib.Data.List.DropRight
import BpfExporter.Proofs.Escaping
import BpfExporter.Proofs.ExposedNames
import BpfExporter.Proofs.FamilyText

/-! The lines of a text, spelled out. Names are told by their endings, escapes by replacements in the whole text, and
the labels of each subject as they stand in a line. What is written agrees with it. -/
namespace BpfExporter.Spelled

open Exposition
open Exposition.Escape (replaceAll)

/-- The text without the ending, where it has it. -/
def lessEnding (ending s : String) : String :=
  match s.toList.dropSuffix? ending.toList with
  | some front => String.ofList front
  | none => s

theorem lessEnding_append (front ending : String) : lessEnding ending (front ++ ending) = front := by
  have hdrop : (front ++ ending).toList.dropSuffix? ending.toList = some front.toList := by
    rw [List.dropSuffix?_eq_some_iff, String.toList_append]
    exact ⟨ending.toList, rfl, beq_self_eq_true _⟩
  simp only [lessEnding, hdrop, String.ofList_toList]

theorem lessEnding_of_not_suffix {ending s : String} (h : ¬ending.toList <:+ s.toList) : lessEnding ending s = s := by
  cases hdrop : s.toList.dropSuffix? ending.toList with
  | none => rw [lessEnding, hdrop]
  | some front =>
    obtain ⟨back, hs, hback⟩ := List.dropSuffix?_eq_some_iff.1 hdrop
    obtain rfl := eq_of_beq hback
    exact absurd ⟨front, hs.symm⟩ h

/-- Path, subject and the own name of a metric; in a counter less one `_total` at the end; and the unit, unless it
stands at the end already. -/
def name (path : String) (s : Subject) (spec : Spec) : String :=
  let full := path ++ "_" ++ s.name ++ "_" ++ spec.name
  let stem := match spec.type with
    | .counter => lessEnding "_total" full
    | .gauge => full
  if spec.unit = "" ∨ ("_" ++ spec.unit).toList <:+ stem.toList then stem else stem ++ "_" ++ spec.unit

theorem dropTotal_eq_lessEnding (s : String) : dropTotal s = lessEnding "_total" s := by
  by_cases h : endsWith s "_total" = true
  · have hs := dropTotal_append_total h
    rw [← hs, lessEnding_append, hs]
  · rw [dropTotal, if_neg h, lessEnding_of_not_suffix fun hsuffix => h (List.isSuffixOf_iff_suffix.2 hsuffix)]

theorem withUnit_eq (s unit : String) : withUnit s unit =
    if unit = "" ∨ ("_" ++ unit).toList <:+ s.toList then s else s ++ "_" ++ unit := by
  simp only [withUnit, endsWith, Bool.or_eq_true, String.isEmpty_iff, List.isSuffixOf_iff_suffix]

theorem exposedName_eq_name (path : String) (s : Subject) (spec : Spec) :
    exposedName (baseName path s spec) spec.unit spec.type = name path s spec := by
  rw [name]
  cases spec.type with
  | counter => rw [exposedName, withUnit_eq, dropTotal_eq_lessEnding]; rfl
  | gauge => rw [exposedName, withUnit_eq]; rfl

/-- The integers that a metric of a type can hold. -/
def InRange : MetricType → Int → Prop
  | .counter, n => 0 ≤ n ∧ n < 2 ^ 64
  | .gauge, n => -2 ^ 63 ≤ n ∧ n < 2 ^ 63

theorem inRange_iff {t : MetricType} {n : Int} : inRange t n = true ↔ InRange t n := by
  cases t <;> simp only [inRange, InRange, Bool.and_eq_true, decide_eq_true_eq] <;> omega

/-- The names that are kept for a metric. -/
def names (name : String) : MetricType → List String
  | .counter => [name, name ++ "_total", name ++ "_created"]
  | .gauge => [name]

theorem claimedNames_eq_names (name : String) (t : MetricType) : claimedNames name t = names name t := by
  cases t <;> rfl

/-- A help text in its line. -/
def help (s : String) : String := replaceAll '\n' "\\n" (replaceAll '\\' "\\\\" s)

/-- A text between the quotes of a label. -/
def quoted (s : String) : String := replaceAll '"' "\\\"" (replaceAll '\n' "\\n" (replaceAll '\\' "\\\\" s))

theorem labelText_eq_quoted (s : String) : Escape.labelText s = quoted s := by
  rw [Escape.labelText_eq_replaceAll, Escape.helpText_eq_replaceAll, quoted]

/-- The labels of a set as they stand in a line. -/
def labels : LabelSet → String
  | .prog l => "\x7bid=\"" ++ toString l.id ++ "\",program_type=\"" ++ quoted l.programType ++ "\",name=\"" ++
      quoted l.name ++ "\",tag=\"" ++ toString l.tag ++ "\"\x7d"
  | .map l => "\x7bid=\"" ++ toString l.id ++ "\",map_type=\"" ++ quoted l.mapType ++ "\",name=\"" ++
      quoted l.name ++ "\"\x7d"
  | .link l => "\x7bid=\"" ++ toString l.id ++ "\",link_type=\"" ++ quoted l.linkType ++ "\",prog_id=\"" ++
      toString l.progId ++ "\"\x7d"

theorem labelText_toString (n : Int) : Escape.labelText (toString n) = toString n := by
  have hplain : ∀ c ∈ (toString n).toList, Grammar.PlainInValue c := by
    rw [Numeral.toList_toString]
    intro c hc
    rcases List.mem_append.1 hc with hc | hc
    · have hminus : c = '-' := by
        split at hc
        · exact absurd hc List.not_mem_nil
        · exact List.mem_singleton.1 hc
      rw [hminus]
      exact ⟨by decide, by decide, by decide⟩
    · have hdigit := Nat.isDigit_of_mem_toDigits (by decide) (by decide) hc
      refine ⟨?_, ?_, ?_⟩ <;> rintro rfl <;> exact absurd hdigit (by decide)
  rw [← String.toList_inj, Escape.labelText, String.toList_ofList]
  generalize (toString n).toList = cs at hplain
  induction cs with
  | nil => rfl
  | cons c cs ih =>
    obtain ⟨hc, hcs⟩ := List.forall_mem_cons.1 hplain
    rw [Escape.label_cons hc, ih hcs]

theorem format_eq_labels (l : LabelSet) :
    LabelText.format (l.pairs.map fun q => (q.1, .str q.2.display)) = labels l := by
  have hint : ∀ (name : String) (n : Int), LabelText.pairText (name, .str (Json.int n).display) =
      name ++ "=\"" ++ toString n ++ "\"" := fun name n => congrArg (name ++ "=\"" ++ · ++ "\"") (labelText_toString n)
  have hstr : ∀ name s : String, LabelText.pairText (name, .str (Json.str s).display) =
      name ++ "=\"" ++ quoted s ++ "\"" := fun name s => congrArg (name ++ "=\"" ++ · ++ "\"") (labelText_eq_quoted s)
  cases l <;>
    simp [LabelSet.pairs, LabelText.format, labels, hint, hstr, String.intercalate_cons_cons, ← String.toList_inj]

/-- The line of a value. -/
def sampleLine (name : String) (t : MetricType) (p : LabelSet × Int) : String :=
  name ++ (match t with | .counter => "_total" | .gauge => "") ++ labels p.1 ++ " " ++ toString p.2

theorem sampleLine_eq (name : String) (t : MetricType) (p : LabelSet × Int) :
    BpfExporter.sampleLine name t p = sampleLine name t p := by
  rw [BpfExporter.sampleLine, format_eq_labels]
  cases t with
  | counter => rfl
  | gauge => rw [sampleName, sampleLine, String.append_empty]

/-- The lines of a metric: what it is about, its type, its unit if it has one, and a line for each value. -/
def metricLines (name : String) (spec : Spec) (items : List (LabelSet × Int)) : List String :=
  ("# HELP " ++ name ++ " " ++ help spec.help) :: ("# TYPE " ++ name ++ " " ++ spec.type.name) ::
    (if spec.unit = "" then [] else ["# UNIT " ++ name ++ " " ++ spec.unit]) ++ items.map (sampleLine name spec.type)

theorem familyLines_eq (name : String) (spec : Spec) (items : List (LabelSet × Int)) :
    familyLines name spec items = metricLines name spec items := by
  have hsamples : BpfExporter.sampleLine name spec.type = sampleLine name spec.type :=
    funext (sampleLine_eq name spec.type)
  rw [familyLines, metricLines, Escape.helpText_eq_replaceAll, help, hsamples]
  rfl

end BpfExporter.Spelled
