/-! Escapes of the exposition format. In a label value a backslash, a newline and a double quote are
written as two characters; in a help text the quote stands as it is. Main statements: `unescape_label`
and `unescape_help`, reading undoes both ways of writing. -/
namespace BpfExporter.Exposition.Escape

def label : List Char → List Char
  | [] => []
  | '\\' :: cs => '\\' :: '\\' :: label cs
  | '\n' :: cs => '\\' :: 'n' :: label cs
  | '"' :: cs => '\\' :: '"' :: label cs
  | c :: cs => c :: label cs

/-- A help text as it stands at the end of its line. -/
def help : List Char → List Char
  | [] => []
  | '\\' :: cs => '\\' :: '\\' :: help cs
  | '\n' :: cs => '\\' :: 'n' :: help cs
  | c :: cs => c :: help cs

/-- A backslash and a character, or the end of the text, that make no escape together. -/
structure BadEscape where
  char : Option Char
deriving DecidableEq, Repr

def escaped? : Char → Option Char
  | '\\' => some '\\'
  | '"' => some '"'
  | 'n' => some '\n'
  | _ => none

def unescape : List Char → Except BadEscape (List Char)
  | [] => .ok []
  | ['\\'] => .error ⟨none⟩
  | '\\' :: c :: cs => match escaped? c with
    | some x => (unescape cs).map (x :: ·)
    | none => .error ⟨some c⟩
  | c :: cs => (unescape cs).map (c :: ·)

theorem unescape_backslash (c : Char) (cs : List Char) :
    unescape ('\\' :: c :: cs) = match escaped? c with
      | some x => (unescape cs).map (x :: ·)
      | none => .error ⟨some c⟩ := by
  rw [unescape]

theorem unescape_cons {c : Char} (h : c ≠ '\\') (cs : List Char) :
    unescape (c :: cs) = (unescape cs).map (c :: ·) := by
  rw [unescape]
  · rintro rfl _; exact h rfl
  · rintro _ _ rfl _; exact h rfl

theorem unescape_label (cs : List Char) : unescape (label cs) = .ok cs := by
  fun_induction label cs with
  | case1 => rfl
  | case2 cs ih => rw [unescape_backslash]; simp [escaped?, ih, Except.map]
  | case3 cs ih => rw [unescape_backslash]; simp [escaped?, ih, Except.map]
  | case4 cs ih => rw [unescape_backslash]; simp [escaped?, ih, Except.map]
  | case5 c cs h₁ _ _ ih => rw [unescape_cons (by simpa using h₁)]; simp [ih, Except.map]

theorem unescape_help (cs : List Char) : unescape (help cs) = .ok cs := by
  fun_induction help cs with
  | case1 => rfl
  | case2 cs ih => rw [unescape_backslash]; simp [escaped?, ih, Except.map]
  | case3 cs ih => rw [unescape_backslash]; simp [escaped?, ih, Except.map]
  | case4 c cs h₁ _ ih => rw [unescape_cons (by simpa using h₁)]; simp [ih, Except.map]

/-- `label` on texts. -/
def labelText (s : String) : String := String.ofList (label s.toList)

/-- `help` on texts. -/
def helpText (s : String) : String := String.ofList (help s.toList)

end BpfExporter.Exposition.Escape
