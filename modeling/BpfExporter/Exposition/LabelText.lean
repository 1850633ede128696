import BpfExporter.Exposition.Escape
import BpfExporter.Json.Display

/-! The labels of a sample as text: pairs `name="value"` with commas between them, in braces. Reading
takes one pair after another and refuses the first that is malformed or repeats a name. -/
namespace BpfExporter.Exposition

open Escape (BadEscape)

namespace LabelText

def valueText : Json → String
  | .int n => toString n
  | v => Escape.labelText v.display

def pairText (p : String × Json) : String := p.1 ++ "=\"" ++ valueText p.2 ++ "\""

/-- The labels in braces; nothing where there are none. -/
def format (labels : List (String × Json)) : String :=
  if labels.isEmpty then ""
  else "\x7b" ++ String.intercalate "," (labels.map pairText) ++ "\x7d"

def isNameStart (c : Char) : Bool := c.isAlpha || c == '_'

def isNameChar (c : Char) : Bool := c.isAlphanum || c == '_'

/-- The name in front of a text, which is empty where none stands there. -/
def splitName (cs : List Char) : List Char × List Char :=
  match cs with
  | [] => ([], [])
  | c :: _ => if isNameStart c then (cs.takeWhile isNameChar, cs.dropWhile isNameChar) else ([], cs)

/-- The text up to the first quote that no backslash precedes, still escaped, and the text after it. -/
def splitValue? : List Char → Option (List Char × List Char)
  | [] => none
  | '"' :: cs => some ([], cs)
  | '\\' :: c :: cs => if c = '\n' then none else (splitValue? cs).map fun r => ('\\' :: c :: r.1, r.2)
  | c :: cs =>
    if c = '\\' || c = '\n' then none else (splitValue? cs).map fun r => (c :: r.1, r.2)

/-- The pair in front of a text: its name, its value still escaped, and the rest. -/
def splitPair? (cs : List Char) : Option (String × List Char × List Char) :=
  match splitName cs with
  | ([], _) => none
  | (name, '=' :: '"' :: body) => (splitValue? body).map fun r => (String.ofList name, r.1, r.2)
  | _ => none

theorem length_splitValue? {cs v rest : List Char} (h : splitValue? cs = some (v, rest)) :
    rest.length < cs.length := by
  fun_induction splitValue? cs generalizing v with
  | case1 => simp at h
  | case2 cs => simp only [Option.some.injEq, Prod.mk.injEq] at h; simp [← h.2]
  | case3 => simp at h
  | case4 c cs _ ih =>
    obtain ⟨r, hr, he⟩ := Option.map_eq_some_iff.1 h
    obtain ⟨w, t⟩ := r
    simp only [Prod.mk.injEq] at he
    have := ih (v := w) (by rw [hr, he.2])
    simp; omega
  | case5 => simp at h
  | case6 c cs _ _ _ ih =>
    obtain ⟨r, hr, he⟩ := Option.map_eq_some_iff.1 h
    obtain ⟨w, t⟩ := r
    simp only [Prod.mk.injEq] at he
    have := ih (v := w) (by rw [hr, he.2])
    simp; omega

theorem length_splitName (cs : List Char) : (splitName cs).2.length ≤ cs.length := by
  unfold splitName
  split
  · simp
  · split
    · exact (List.dropWhile_sublist _).length_le
    · simp

theorem length_splitPair? {cs v rest : List Char} {name : String}
    (h : splitPair? cs = some (name, v, rest)) : rest.length < cs.length := by
  unfold splitPair? at h
  have hl := length_splitName cs
  split at h
  · simp at h
  · next name' body hs =>
    rw [hs] at hl
    obtain ⟨r, hr, he⟩ := Option.map_eq_some_iff.1 h
    obtain ⟨w, t⟩ := r
    simp only [Prod.mk.injEq] at he
    obtain ⟨_, rfl, rfl⟩ := he
    have := length_splitValue? hr
    simp at hl; omega
  · simp at h

/-- What follows a comma, where something does. -/
def afterComma? : List Char → Option (List Char)
  | ',' :: c :: cs => some (c :: cs)
  | _ => none

theorem afterComma?_eq_some_iff {cs more : List Char} :
    afterComma? cs = some more ↔ cs = ',' :: more ∧ more ≠ [] := by
  constructor
  · intro h
    unfold afterComma? at h
    split at h
    · obtain rfl := Option.some.inj h
      exact ⟨rfl, by simp⟩
    · simp at h
  · rintro ⟨rfl, hne⟩
    cases more with
    | nil => exact absurd rfl hne
    | cons c cs => rfl

/-- Why a text is no list of labels. -/
inductive ReadError
  | malformed (rest : String)
  | duplicate (name : String)
  | badEscape (e : BadEscape)
deriving DecidableEq, Repr

def readFrom (seen : List (String × String)) (cs : List Char) :
    Except ReadError (List (String × String)) :=
  if cs.isEmpty then .ok seen
  else match _h : splitPair? cs with
    | none => .error (.malformed (String.ofList cs))
    | some (name, value, rest) =>
      if seen.any (·.1 == name) then .error (.duplicate name)
      else match Escape.unescape value with
        | .error e => .error (.badEscape e)
        | .ok v =>
          let read := seen ++ [(name, String.ofList v)]
          if rest.isEmpty then .ok read
          else match _hr : afterComma? rest with
            | some more => readFrom read more
            | none => .error (.malformed (String.ofList rest))
termination_by cs.length
decreasing_by
  have hrest := length_splitPair? _h
  have hmore := congrArg List.length (afterComma?_eq_some_iff.1 _hr).1
  rw [List.length_cons] at hmore
  omega

def read (cs : List Char) : Except ReadError (List (String × String)) := readFrom [] cs

end LabelText

end BpfExporter.Exposition
