import Mathlib.Algebra.Ring.Parity
import Mathlib.Data.List.DropRight
import BpfExporter.Proofs.Writing

/-! Escapes, written and read. Both ways of writing replace one character after another in the whole text, and a
single reading from left to right undoes them. A quote belongs to an escape exactly when an odd number of backslashes
stands right before it. A text that can be read, has no newline and no quote outside of its escapes is the one way
in which a label value is written. -/
namespace BpfExporter.Exposition.Escape

open Grammar

/-! ### Writing by replacements -/

/-- The text with another one in place of every occurrence of a character. -/
def replaceAll (c : Char) (new s : String) : String :=
  String.ofList (s.toList.flatMap fun d => if d = c then new.toList else [d])

@[simp] theorem toList_replaceAll (c : Char) (new s : String) :
    (replaceAll c new s).toList = s.toList.flatMap fun d => if d = c then new.toList else [d] :=
  String.toList_ofList

/-- Backslashes are replaced first, so the one that a newline is written with stays single. -/
theorem helpText_eq_replaceAll (s : String) : helpText s = replaceAll '\n' "\\n" (replaceAll '\\' "\\\\" s) := by
  rw [← String.toList_inj, helpText, String.toList_ofList]
  simp only [toList_replaceAll]
  fun_induction help s.toList with
  | case1 => rfl
  | case2 cs ih => simp [ih]
  | case3 cs ih => simp [ih]
  | case4 c cs hb hn ih => simp [ih, if_neg hb, if_neg hn]

theorem labelText_eq_replaceAll (s : String) : labelText s = replaceAll '"' "\\\"" (helpText s) := by
  rw [← String.toList_inj, labelText, helpText, String.toList_ofList]
  simp only [toList_replaceAll, String.toList_ofList]
  fun_induction label s.toList with
  | case1 => rfl
  | case2 cs ih => simp [help, ih]
  | case3 cs ih => simp [help, ih]
  | case4 cs ih => simp [help, ih]
  | case5 c cs hb hn hq ih => simp [help, ih, if_neg hq]

/-! ### Quotes and the backslashes before them -/

/-- Every quote belongs to an escape, which is a backslash and the character after it. -/
def quotesEscaped : List Char → Bool
  | [] => true
  | '\\' :: _ :: cs => quotesEscaped cs
  | c :: cs => c != '"' && quotesEscaped cs

theorem quotesEscaped_cons {c : Char} (h : c ≠ '\\') (cs : List Char) :
    quotesEscaped (c :: cs) = (c != '"' && quotesEscaped cs) := by
  rw [quotesEscaped]
  exact fun _ _ e => absurd e h

/-- The length of the longest run of backslashes at the end of a text. -/
def closingRun (cs : List Char) : Nat := (cs.rtakeWhile (· = '\\')).length

theorem closingRun_concat (cs : List Char) (c : Char) :
    closingRun (cs ++ [c]) = if c = '\\' then closingRun cs + 1 else 0 := by
  rw [closingRun, List.rtakeWhile_concat]
  by_cases hc : c = '\\' <;> simp [hc, closingRun]

theorem odd_closingRun_append {front : List Char} (h : Even (closingRun front)) (cs : List Char) :
    Odd (closingRun (front ++ cs)) ↔ Odd (closingRun cs) := by
  induction cs using List.reverseRecOn with
  | nil => simpa [closingRun] using h
  | append_singleton cs c ih =>
    rw [← List.append_assoc, closingRun_concat, closingRun_concat]
    split
    · rw [Nat.odd_add_one, Nat.odd_add_one, ih]
    · exact Iff.rfl

theorem odd_closingRun_escape (c : Char) (cs : List Char) :
    Odd (closingRun ('\\' :: c :: cs)) ↔ Odd (closingRun cs) := by
  have heven : Even (closingRun ['\\', c]) := by
    rw [← List.singleton_append, closingRun_concat]
    split <;> decide
  exact odd_closingRun_append heven cs

theorem odd_closingRun_cons {c : Char} (h : c ≠ '\\') (cs : List Char) :
    Odd (closingRun (c :: cs)) ↔ Odd (closingRun cs) := by
  have heven : Even (closingRun [c]) := by
    rw [← List.nil_append [c], closingRun_concat, if_neg h]
    exact Even.zero
  exact odd_closingRun_append heven cs

theorem forall_quote_cons {P : List Char → Prop} {c : Char} {cs : List Char} :
    (∀ before after, c :: cs = before ++ '"' :: after → P before) ↔
      (c = '"' → P []) ∧ ∀ before after, cs = before ++ '"' :: after → P (c :: before) := by
  constructor
  · intro h
    exact ⟨fun hc => h [] cs (by rw [hc, List.nil_append]), fun before after ht =>
      h (c :: before) after (by rw [ht, List.cons_append])⟩
  · rintro ⟨hhead, htail⟩ before after ht
    cases before with
    | nil => exact hhead (List.cons.inj ht).1
    | cons b before =>
      obtain ⟨rfl, hcs⟩ := List.cons.inj ht
      exact htail before after hcs

/-- Every quote belongs to an escape exactly when the run of backslashes before each of them is odd. -/
theorem quotesEscaped_iff_odd {t : List Char} :
    quotesEscaped t = true ↔ ∀ before after, t = before ++ '"' :: after → Odd (closingRun before) := by
  fun_induction quotesEscaped t with
  | case1 => simp
  | case2 c cs ih =>
    -- The escaped character may be a quote itself; the runs before later quotes are as odd without the escape.
    have hopen : Odd (closingRun ['\\']) := by decide
    rw [forall_quote_cons, forall_quote_cons, ih]
    simp only [odd_closingRun_escape]
    exact ⟨fun h => ⟨fun hq => absurd hq (by decide), fun _ => hopen, h⟩, fun h => h.2.2⟩
  | case3 c cs hc ih =>
    rw [forall_quote_cons, Bool.and_eq_true, bne_iff_ne, ih]
    by_cases hb : c = '\\'
    -- A backslash outside of an escape can only be the last character.
    · obtain rfl : cs = [] := by
        cases cs with
        | nil => rfl
        | cons d ds => exact absurd rfl (hc d ds hb)
      simp [hb]
    · have hempty : ¬Odd (closingRun []) := by decide
      simp only [odd_closingRun_cons hb, hempty, ne_eq]

/-! ### The written forms of label values -/

theorem quotesEscaped_of_escaped {t v : List Char} (h : Escaped PlainInValue t v) : quotesEscaped t = true := by
  induction h with
  | nil => rfl
  | char hc _ ih => simp [quotesEscaped_cons hc.1, hc.2.1, ih]
  | backslash _ ih => exact ih
  | quote _ ih => exact ih
  | newline _ ih => exact ih

/-- Where quotes are escaped and newlines are missing, what stands for itself in a help text does so in a value. -/
theorem escaped_plainInValue {t v : List Char} (h : Escaped PlainInHelp t v) (hn : '\n' ∉ t)
    (hq : quotesEscaped t = true) : Escaped PlainInValue t v := by
  induction h with
  | nil => exact .nil
  | char hc _ ih =>
    rw [quotesEscaped_cons hc, Bool.and_eq_true, bne_iff_ne] at hq
    obtain ⟨hne, hn⟩ := List.ne_and_not_mem_of_not_mem_cons hn
    exact .char ⟨hc, hq.1, hne.symm⟩ (ih hn hq.2)
  | backslash _ ih => exact .backslash (ih (by simpa using hn) hq)
  | quote _ ih => exact .quote (ih (by simpa using hn) hq)
  | newline _ ih => exact .newline (ih (by simpa using hn) hq)

theorem label_eq_iff {t v : List Char} :
    label v = t ↔ unescape t = .ok v ∧ '\n' ∉ t ∧ quotesEscaped t = true := by
  constructor
  · rintro rfl
    have hlabel := escaped_label v
    exact ⟨unescape_label v, newline_not_mem_of_escaped hlabel, quotesEscaped_of_escaped hlabel⟩
  · rintro ⟨hread, hn, hq⟩
    exact (eq_label_of_escaped (escaped_plainInValue (escaped_of_unescape hread) hn hq)).symm

/-- Both ways of writing replace backslashes first, then newlines, and label values then their quotes; reading takes
back either, without fail. Neither leaves a newline, and in a label value a run of backslashes of odd length comes
right before every quote. A text is the label value of another exactly when it is read as that, has no newline and
has no quote outside of an escape. -/
theorem escapes_inverse_unescape (s : String) :
    labelText s = replaceAll '"' "\\\"" (replaceAll '\n' "\\n" (replaceAll '\\' "\\\\" s)) ∧
      helpText s = replaceAll '\n' "\\n" (replaceAll '\\' "\\\\" s) ∧
      unescape (labelText s).toList = .ok s.toList ∧ unescape (helpText s).toList = .ok s.toList ∧
      '\n' ∉ (labelText s).toList ∧ '\n' ∉ (helpText s).toList ∧
      (∀ before after, (labelText s).toList = before ++ '"' :: after → Odd (closingRun before)) ∧
      ∀ t : String, labelText s = t ↔
        unescape t.toList = .ok s.toList ∧ '\n' ∉ t.toList ∧ quotesEscaped t.toList = true := by
  have hlabel : (labelText s).toList = label s.toList := String.toList_ofList
  have hhelp : (helpText s).toList = help s.toList := String.toList_ofList
  obtain ⟨hread, hnewline, hquotes⟩ := label_eq_iff.1 hlabel.symm
  refine ⟨?_, helpText_eq_replaceAll s, hread, ?_, hnewline, ?_, quotesEscaped_iff_odd.1 hquotes, fun t => ?_⟩
  · rw [labelText_eq_replaceAll, helpText_eq_replaceAll]
  · rw [hhelp, unescape_help]
  · rw [hhelp]
    exact newline_not_mem_help s.toList
  · rw [← label_eq_iff, ← hlabel, String.toList_inj]

theorem escapes_inverse_unescape_mixed :
    labelText "\\\"n\n" = "\\\\\\\"n\\n" ∧ unescape "\\\\\\\"n\\n".toList = .ok "\\\"n\n".toList ∧
      Odd (closingRun "\\\\\\".toList) := by
  obtain ⟨-, -, -, -, -, -, hodd, hiff⟩ := escapes_inverse_unescape "\\\"n\n"
  have hread : unescape "\\\\\\\"n\\n".toList = .ok "\\\"n\n".toList := by rfl
  have hlabel := (hiff "\\\\\\\"n\\n").2 ⟨hread, by decide, by decide⟩
  exact ⟨hlabel, hread, hodd _ "n\\n".toList (by rw [hlabel]; rfl)⟩

end BpfExporter.Exposition.Escape
