import BpfExporter.Exposition.Section
import BpfExporter.Proofs.Lines

/-! The grammar of the exposition format, as trees and the text that each of them is written as. A
document is a list of sections and the line `# EOF`; a section is its HELP and TYPE lines, its UNIT lines
and its samples. What a tree says is kept apart from how it is written: escapes, signs, zeros in front,
braces around no labels and UNIT lines without a unit may differ in trees that say the same. -/
namespace BpfExporter.Exposition.Grammar

def isWord (first next : Char → Bool) : List Char → Bool
  | [] => false
  | c :: cs => first c && cs.all next

/-- A letter, `_` or `:`, and then letters, digits, `_` or `:`. -/
def isMetricName : List Char → Bool :=
  isWord (fun c => c.isAlpha || c == '_' || c == ':') fun c => c.isAlphanum || c == '_' || c == ':'

/-- A letter or `_`, and then letters, digits or `_`. -/
def isLabelName : List Char → Bool :=
  isWord (fun c => c.isAlpha || c == '_') fun c => c.isAlphanum || c == '_'

/-- A text of plain characters and of the escapes of a backslash, a quote and a newline, with the text
that it stands for. -/
inductive Escaped (plain : Char → Prop) : List Char → List Char → Prop
  | nil : Escaped plain [] []
  | char {c : Char} {t v : List Char} (hc : plain c) (h : Escaped plain t v) :
      Escaped plain (c :: t) (c :: v)
  | backslash {t v : List Char} (h : Escaped plain t v) : Escaped plain ('\\' :: '\\' :: t) ('\\' :: v)
  | quote {t v : List Char} (h : Escaped plain t v) : Escaped plain ('\\' :: '"' :: t) ('"' :: v)
  | newline {t v : List Char} (h : Escaped plain t v) : Escaped plain ('\\' :: 'n' :: t) ('\n' :: v)

def PlainInHelp (c : Char) : Prop := c ≠ '\\'

def PlainInValue (c : Char) : Prop := c ≠ '\\' ∧ c ≠ '"' ∧ c ≠ '\n'

/-- A label: its name, and its value as written and as meant. -/
structure Label where
  name : String
  text : List Char
  value : String
  named : isLabelName name.toList = true
  escaped : Escaped PlainInValue text value.toList

namespace Label

def written (l : Label) : List Char := l.name.toList ++ '=' :: '"' :: (l.text ++ ['"'])

def pair (l : Label) : String × String := (l.name, l.value)

def joined (ls : List Label) : List Char := [','].intercalate (ls.map written)

@[simp] theorem joined_nil : joined [] = [] := rfl

@[simp] theorem joined_singleton (l : Label) : joined [l] = l.written := by simp [joined]

theorem joined_cons_cons (l l' : Label) (ls : List Label) :
    joined (l :: l' :: ls) = l.written ++ ',' :: joined (l' :: ls) := by
  simp [joined, List.intercalate_cons_cons]

theorem joined_ne_nil (l : Label) (ls : List Label) : joined (l :: ls) ≠ [] := by
  cases ls <;> simp [joined_cons_cons, written]

end Label

inductive Sign
  | absent | plus | minus

namespace Sign

def written : Sign → List Char
  | absent => []
  | plus => ['+']
  | minus => ['-']

def apply : Sign → Nat → Int
  | minus, n => -(n : Int)
  | _, n => n

end Sign

/-- An integer of at most 4300 digits. -/
structure Integer where
  sign : Sign
  digits : List Char
  ascii : ∀ c ∈ digits, c.isDigit = true
  nonempty : digits ≠ []
  short : digits.length ≤ 4300

namespace Integer

def written (i : Integer) : List Char := i.sign.written ++ i.digits

def value (i : Integer) : Int := i.sign.apply (Numeral.decimalValue i.digits)

end Integer

/-- What follows the name on a sample line: labels in braces, or no braces, and a value. -/
structure SampleText where
  labels : Option (List Label)
  value : Integer
  distinct : ∀ ls ∈ labels, (ls.map Label.name).Nodup

namespace SampleText

def braces (x : SampleText) : List Char :=
  match x.labels with
  | none => []
  | some ls => '\x7b' :: (Label.joined ls ++ ['\x7d'])

def written (name : String) (x : SampleText) : List Char :=
  name.toList ++ (x.braces ++ ' ' :: x.value.written)

def pairs (x : SampleText) : List (String × String) := (x.labels.getD []).map Label.pair

def sample (family : String) (t : MetricType) (line : Nat) (x : SampleText) : Sample :=
  ⟨family, t, x.pairs, x.value.value, line⟩

end SampleText

/-- The line `# KEYWORD FAMILY`, or `# KEYWORD FAMILY TEXT`. -/
def headLine (keyword family : String) (text : Option (List Char)) : List Char :=
  '#' :: ' ' :: (keyword.toList ++ ' ' :: (family.toList ++ (text.map (' ' :: ·)).getD []))

/-- A section. Of its UNIT lines only the last may name a unit. -/
structure SectionText where
  family : String
  help : Option (List Char)
  type : MetricType
  units : List (Option (List Char))
  samples : List SampleText
  family_plain : ' ' ∉ family.toList ∧ '\n' ∉ family.toList
  help_newline : ∀ t ∈ help, '\n' ∉ t
  help_escaped : ∀ t ∈ help, ∃ v, Escaped PlainInHelp t v
  units_newline : ∀ u ∈ units, ∀ t ∈ u, '\n' ∉ t
  units_blank : ∀ u ∈ units.dropLast, u.getD [] = []
  named : samples ≠ [] → isMetricName (sampleName family type).toList = true
  nonneg : type = .counter → ∀ x ∈ samples, 0 ≤ x.value.value

namespace SectionText

def head (sec : SectionText) : List (List Char) :=
  headLine "HELP" sec.family sec.help :: headLine "TYPE" sec.family (some sec.type.name.toList) ::
    sec.units.map (headLine "UNIT" sec.family)

def lines (sec : SectionText) : List (List Char) :=
  sec.head ++ sec.samples.map (SampleText.written (sampleName sec.family sec.type))

/-- The samples of lines that follow the first `n`. -/
def numbered (family : String) (t : MetricType) (n : Nat) : List SampleText → List Sample
  | [] => []
  | x :: xs => x.sample family t (n + 1) :: numbered family t (n + 1) xs

/-- The samples of a section that begins after the first `n` lines. -/
def read (n : Nat) (sec : SectionText) : List Sample :=
  numbered sec.family sec.type (n + sec.head.length) sec.samples

end SectionText

/-- Sections one after another, and the end. -/
abbrev Document := List SectionText

namespace Document

def body (doc : Document) : List (List Char) := doc.flatMap SectionText.lines

def lines (doc : Document) : List (List Char) := body doc ++ ["# EOF".toList]

def text (doc : Document) : List Char := unlines (lines doc)

/-- The samples of sections that begin after the first `n` lines. -/
def readFrom (n : Nat) : Document → List Sample
  | [] => []
  | sec :: doc => sec.read n ++ readFrom (n + sec.lines.length) doc

def read (doc : Document) : List Sample := readFrom 0 doc

end Document

end BpfExporter.Exposition.Grammar
