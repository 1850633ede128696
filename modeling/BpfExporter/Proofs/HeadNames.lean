import BpfExporter.Proofs.Acceptance

/-! Names in the heads of sections. A head names its family raw, once for every line, and where its lines are taken
the name has neither a space nor an end of line in it; before a value that is taken it is a name of the format. -/
namespace BpfExporter.Exposition

open Decoder (cutLines)
open Grammar

namespace Progress

variable {n n' : Nat} {p p' : Progress} {line : List Char} {family : String} {text : Option (List Char)}

/-! ### Lines of a run that is not refused -/

theorem exists_run_of_append {ls ms : List (List Char)} (h : run n p (ls ++ ms) = (.ok (), n', p')) :
    ∃ m q, run m q ms = (.ok (), n', p') := by
  rw [run_append] at h
  split at h
  · cases h
  · exact ⟨_, _, h⟩

theorem stage_of_taken_help (hf : ' ' ∉ family.toList) (h : Taken n p (headLine "HELP" family text) p') :
    p'.stage = .awaitingType family := by
  have htake := take_of_taken h
  rw [take_headLine (by decide) hf, if_pos rfl, takeHelp] at htake
  split at htake
  · cases htake
  split at htake
  · cases htake
  · rw [← (Prod.mk.inj htake).2, String.ofList_toList]

/-- A TYPE line is taken after the HELP line of its family, and begins a section of a type. -/
theorem stage_of_taken_type (hf : ' ' ∉ family.toList) (h : Taken n p (headLine "TYPE" family text) p') :
    p.stage = .awaitingType family ∧ ∃ t : MetricType, text.getD [] = t.name.toList ∧
      p'.stage = .inSection ⟨family, t, [], []⟩ := by
  have htake := take_of_taken h
  rw [take_headLine (by decide) hf, if_neg (by decide), if_pos rfl, takeType] at htake
  split at htake
  · next family' hp =>
    simp only [ne_eq, ite_not, String.ofList_toList] at htake
    split at htake
    · next hfamily =>
      subst hfamily
      split at htake
      · cases htake
      · next t ht =>
        refine ⟨hp, t, ?_, by rw [← (Prod.mk.inj htake).2]⟩
        rw [← MetricType.ofName?_eq_some.1 ht, String.toList_ofList]
    · cases htake
  · cases htake

theorem stage_ne_of_taken_type (hf : ' ' ∉ family.toList) (h : Taken n p (headLine "TYPE" family text) p')
    {s : Section} : p.stage ≠ .inSection s := by
  rw [(stage_of_taken_type hf h).1]
  simp

theorem of_taken_awaitingType (hp : p.stage = .awaitingType family) (h : Taken n p line p') :
    ∃ t : MetricType, line = headLine "TYPE" family (some t.name.toList) ∧
      p'.stage = .inSection ⟨family, t, [], []⟩ := by
  cases h with
  | eof hp' => exact absurd hp (hp' family)
  | help hp' => exact absurd hp (hp' family)
  | type hp' =>
    rw [hp] at hp'
    cases hp'
    exact ⟨_, rfl, rfl⟩
  | unit hp' =>
    rw [hp] at hp'
    cases hp'
  | sample hp' =>
    rw [hp] at hp'
    cases hp'

theorem isMetricName_of_taken {s : Section} {name rest : List Char} (hp : p.stage = .inSection s)
    (hname : ' ' ∉ name) (h : Taken n p (name ++ '\x7b' :: rest) p') :
    isMetricName (sampleName s.family s.type).toList = true := by
  have hhead : ∀ keyword family text, name ++ '\x7b' :: rest ≠ headLine keyword family text := by
    intro keyword family text he
    rcases name with _ | ⟨c, _ | ⟨c', name⟩⟩
    · simp [headLine] at he
    · simp [headLine] at he
    · simp only [headLine, List.cons_append, List.cons.injEq] at he
      simp [he.2.1] at hname
  generalize hline : name ++ '\x7b' :: rest = line at h
  cases h with
  | eof =>
    have hmem : '\x7b' ∈ name ++ '\x7b' :: rest := by simp
    rw [hline] at hmem
    exact absurd hmem (by decide)
  | help => exact absurd hline (hhead _ _ _)
  | type => exact absurd hline (hhead _ _ _)
  | unit => exact absurd hline (hhead _ _ _)
  | sample hp' hn =>
    rw [hp] at hp'
    cases hp'
    exact hn

end Progress

/-! ### Names in the lines of a head -/

def keywordLine (keyword : String) (rest : List Char) : List Char :=
  '#' :: ' ' :: (keyword.toList ++ ' ' :: rest)

theorem exists_headLine (rest : List Char) :
    ∃ family text, ' ' ∉ family.toList ∧ ∀ keyword, keywordLine keyword rest = headLine keyword family text := by
  by_cases h : ' ' ∈ rest
  · obtain ⟨word, more, rfl, hword⟩ := List.eq_append_cons_of_mem h
    exact ⟨String.ofList word, some more, by simpa using hword, fun keyword => by
      simp [keywordLine, headLine]⟩
  · exact ⟨String.ofList rest, none, by simpa using h, fun keyword => by simp [keywordLine, headLine]⟩

theorem exists_cutLines_append (xs ys : List Char) :
    ∃ lines, cutLines (xs ++ '\n' :: ys) = (lines ++ (cutLines ys).1, (cutLines ys).2) := by
  obtain ⟨hlines, hlast⟩ := not_mem_cutLines xs
  refine ⟨(cutLines xs).1 ++ [(cutLines xs).2], ?_⟩
  have htext : xs ++ '\n' :: ys = unlines ((cutLines xs).1 ++ [(cutLines xs).2]) ++ ys := by
    calc xs ++ '\n' :: ys
        = unlines (cutLines xs).1 ++ (cutLines xs).2 ++ '\n' :: ys := by rw [unlines_cutLines]
      _ = _ := by simp
  rw [htext, cutLines_unlines]
  intro line hline
  rcases List.mem_append.1 hline with hline | hline
  · exact hlines line hline
  · rw [List.mem_singleton.1 hline]
    exact hlast

theorem newline_not_mem_keywordLine {keyword : String} {rest : List Char} (hk : '\n' ∉ keyword.toList)
    (h : '\n' ∉ rest) : '\n' ∉ keywordLine keyword rest := by
  simp [keywordLine, hk, h]

section

variable {n n' : Nat} {p p' : Progress} {first line more name help tail : List Char} {t : MetricType}

/-- No line stands between a HELP line and a TYPE line that go on with the same: it would have to be a TYPE line. -/
theorem run_ne_of_line_between (hfirst : '\n' ∉ first) (hline : '\n' ∉ line) :
    p.run n (cutLines (keywordLine "HELP" first ++ '\n' :: (line ++ '\n' ::
      (keywordLine "TYPE" first ++ '\n' :: tail)))).1 ≠ (.ok (), n', p') := by
  intro h
  obtain ⟨family, text, hfamily, hkeyword⟩ := exists_headLine first
  rw [cutLines_line (newline_not_mem_keywordLine (by decide) hfirst), cutLines_line hline,
    cutLines_line (newline_not_mem_keywordLine (by decide) hfirst), hkeyword, hkeyword] at h
  obtain ⟨q₁, hq₁, h⟩ := Progress.exists_taken_of_run h
  obtain ⟨q₂, hq₂, h⟩ := Progress.exists_taken_of_run h
  obtain ⟨q₃, hq₃, -⟩ := Progress.exists_taken_of_run h
  obtain ⟨t, -, hinside⟩ := Progress.of_taken_awaitingType (Progress.stage_of_taken_help hfamily hq₁) hq₂
  exact Progress.stage_ne_of_taken_type hfamily hq₃ hinside

/-- No line follows both a HELP line and a TYPE line that go on with the same: it would have to be a TYPE line. -/
theorem run_ne_of_line_after_both (hfirst : '\n' ∉ first) (hline : '\n' ∉ line) :
    p.run n (cutLines (keywordLine "HELP" first ++ '\n' :: (line ++ '\n' :: (more ++ '\n' ::
      (keywordLine "TYPE" first ++ '\n' :: (line ++ '\n' :: tail)))))).1 ≠ (.ok (), n', p') := by
  intro h
  obtain ⟨family, text, hfamily, hkeyword⟩ := exists_headLine first
  obtain ⟨lines, hlines⟩ := exists_cutLines_append more (keywordLine "TYPE" first ++ '\n' :: (line ++ '\n' :: tail))
  rw [cutLines_line (newline_not_mem_keywordLine (by decide) hfirst), cutLines_line hline, hlines,
    cutLines_line (newline_not_mem_keywordLine (by decide) hfirst), cutLines_line hline, hkeyword, hkeyword] at h
  obtain ⟨q₁, hq₁, h⟩ := Progress.exists_taken_of_run h
  obtain ⟨q₂, hq₂, h⟩ := Progress.exists_taken_of_run h
  obtain ⟨m, q₃, h⟩ := Progress.exists_run_of_append h
  obtain ⟨q₄, hq₄, h⟩ := Progress.exists_taken_of_run h
  obtain ⟨q₅, hq₅, -⟩ := Progress.exists_taken_of_run h
  obtain ⟨t, htype, -⟩ := Progress.of_taken_awaitingType (Progress.stage_of_taken_help hfamily hq₁) hq₂
  rw [htype] at hq₅
  obtain ⟨-, _, -, hinside⟩ := Progress.stage_of_taken_type hfamily hq₄
  exact Progress.stage_ne_of_taken_type hfamily hq₅ hinside

/-- A name of several lines makes a TYPE line where none is taken: right behind another, be it behind what its
HELP line goes on with, or before what its TYPE line goes on with. -/
theorem newline_not_mem_of_run (hhelp : '\n' ∉ help)
    (h : p.run n (cutLines (keywordLine "HELP" (name ++ ' ' :: help) ++ '\n' ::
      (keywordLine "TYPE" (name ++ ' ' :: t.name.toList) ++ '\n' :: tail))).1 = (.ok (), n', p')) :
    '\n' ∉ name := by
  intro hmem
  obtain ⟨first, rest, rfl, hfirst⟩ := List.eq_append_cons_of_mem hmem
  by_cases hrest : '\n' ∈ rest
  · obtain ⟨second, more, rfl, hsecond⟩ := List.eq_append_cons_of_mem hrest
    have htext : keywordLine "HELP" (first ++ '\n' :: (second ++ '\n' :: more) ++ ' ' :: help) ++ '\n' ::
        (keywordLine "TYPE" (first ++ '\n' :: (second ++ '\n' :: more) ++ ' ' :: t.name.toList) ++ '\n' :: tail) =
        keywordLine "HELP" first ++ '\n' :: (second ++ '\n' :: (more ++ ' ' :: help ++ '\n' ::
          (keywordLine "TYPE" first ++ '\n' ::
            (second ++ '\n' :: (more ++ ' ' :: t.name.toList ++ '\n' :: tail))))) := by
      simp [keywordLine]
    rw [htext] at h
    exact run_ne_of_line_after_both hfirst hsecond h
  · have hsecond : '\n' ∉ rest ++ ' ' :: help := by simp [hrest, hhelp]
    have htext : keywordLine "HELP" (first ++ '\n' :: rest ++ ' ' :: help) ++ '\n' ::
        (keywordLine "TYPE" (first ++ '\n' :: rest ++ ' ' :: t.name.toList) ++ '\n' :: tail) =
        keywordLine "HELP" first ++ '\n' :: (rest ++ ' ' :: help ++ '\n' ::
          (keywordLine "TYPE" first ++ '\n' :: (rest ++ ' ' :: t.name.toList ++ '\n' :: tail))) := by
      simp [keywordLine]
    rw [htext] at h
    exact run_ne_of_line_between hfirst hsecond h

/-- A space in a name makes the rest of the name a part of the type. -/
theorem space_not_mem_of_run (hhelp : '\n' ∉ help) (hname : '\n' ∉ name)
    (h : p.run n (cutLines (keywordLine "HELP" (name ++ ' ' :: help) ++ '\n' ::
      (keywordLine "TYPE" (name ++ ' ' :: t.name.toList) ++ '\n' :: tail))).1 = (.ok (), n', p')) :
    ' ' ∉ name := by
  intro hmem
  have htype : '\n' ∉ t.name.toList := by cases t <;> decide
  rw [cutLines_line (newline_not_mem_keywordLine (by decide) (by simp [hname, hhelp])),
    cutLines_line (newline_not_mem_keywordLine (by decide) (by simp [hname, htype]))] at h
  obtain ⟨q₁, -, h⟩ := Progress.exists_taken_of_run h
  obtain ⟨q₂, hq₂, -⟩ := Progress.exists_taken_of_run h
  obtain ⟨family, rest, rfl, hfamily⟩ := List.eq_append_cons_of_mem hmem
  have hline : keywordLine "TYPE" (family ++ ' ' :: rest ++ ' ' :: t.name.toList) =
      headLine "TYPE" (String.ofList family) (some (rest ++ ' ' :: t.name.toList)) := by
    simp [keywordLine, headLine]
  rw [hline] at hq₂
  obtain ⟨-, t₁, ht₁, -⟩ := Progress.stage_of_taken_type (by simpa using hfamily) hq₂
  have hspace : ' ' ∈ t₁.name.toList := by simp [← ht₁]
  cases t₁ <;> exact absurd hspace (by decide)

end

end BpfExporter.Exposition
