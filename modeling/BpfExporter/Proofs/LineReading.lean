import BpfExporter.Proofs.SampleReading

/-! What a line can do. A line is taken exactly when it is one of five: the end, or a HELP, TYPE, UNIT or
sample line of the grammar that fits the stage; and each of them changes the progress in one way. -/
namespace BpfExporter.Exposition

open Grammar

theorem cutSpaces_word {w : List Char} (h : ' ' ∉ w) (n : Nat) (cs : List Char) :
    cutSpaces (n + 1) (w ++ ' ' :: cs) = w :: cutSpaces n cs := by
  have hall : ∀ c ∈ w, (c != ' ') = true := by
    intro c hc
    simpa using fun e : c = ' ' => h (e ▸ hc)
  rw [cutSpaces, List.dropWhile_append_of_pos hall, List.takeWhile_append_of_pos hall]
  simp

theorem cutSpaces_last {w : List Char} (h : ' ' ∉ w) (n : Nat) : cutSpaces n w = [w] := by
  cases n with
  | zero => rfl
  | succ n =>
    have hall : ∀ c ∈ w, (c != ' ') = true := by
      intro c hc
      simpa using fun e : c = ' ' => h (e ▸ hc)
    have hd : (w ++ []).dropWhile (· != ' ') = [] := List.dropWhile_append_of_pos hall
    rw [List.append_nil] at hd
    rw [cutSpaces, hd]

theorem cutSpaces_succ_cases (n : Nat) (cs : List Char) :
    ' ' ∉ cs ∧ cutSpaces (n + 1) cs = [cs] ∨
      ∃ w rest, ' ' ∉ w ∧ cs = w ++ ' ' :: rest ∧ cutSpaces (n + 1) cs = w :: cutSpaces n rest := by
  by_cases h : ' ' ∈ cs
  · right
    obtain ⟨w, rest, rfl, hw⟩ := List.eq_append_cons_of_mem h
    exact ⟨w, rest, hw, rfl, cutSpaces_word hw n rest⟩
  · exact .inl ⟨h, cutSpaces_last h (n + 1)⟩

theorem cutSpaces_headLine {keyword family : String} (hk : ' ' ∉ keyword.toList)
    (hf : ' ' ∉ family.toList) (text : Option (List Char)) :
    cutSpaces 3 (headLine keyword family text) =
      ['#'] :: keyword.toList :: family.toList :: text.toList := by
  have hhash : ' ' ∉ ['#'] := by simp
  have hline : headLine keyword family text =
      ['#'] ++ ' ' :: (keyword.toList ++ ' ' :: (family.toList ++ (text.map (' ' :: ·)).getD [])) := rfl
  rw [hline, cutSpaces_word hhash, cutSpaces_word hk]
  cases text with
  | none => simp [cutSpaces_last hf]
  | some t =>
    have hword := cutSpaces_word hf 0 t
    simp only [Option.map_some, Option.getD_some, Option.toList_some] at hword ⊢
    rw [hword]
    rfl

theorem headLine_of_cutSpaces {line keyword family : List Char} {rest : List (List Char)}
    (h : cutSpaces 3 line = ['#'] :: keyword :: family :: rest) :
    ' ' ∉ family ∧ ∃ text : Option (List Char),
      line = headLine (String.ofList keyword) (String.ofList family) text ∧ rest = text.toList := by
  rcases cutSpaces_succ_cases 2 line with ⟨-, h1⟩ | ⟨w1, line1, -, rfl, h1⟩
  · simp [h1] at h
  rw [h1, List.cons.injEq] at h
  obtain ⟨rfl, h⟩ := h
  rcases cutSpaces_succ_cases 1 line1 with ⟨-, h2⟩ | ⟨w2, line2, -, rfl, h2⟩
  · simp [h2] at h
  rw [h2, List.cons.injEq] at h
  obtain ⟨rfl, h⟩ := h
  rcases cutSpaces_succ_cases 0 line2 with ⟨h3, h4⟩ | ⟨w3, text, h3, rfl, h4⟩
  · rw [h4, List.cons.injEq] at h
    obtain ⟨rfl, rfl⟩ := h
    exact ⟨h3, none, by simp [headLine], rfl⟩
  · rw [h4, List.cons.injEq] at h
    obtain ⟨rfl, rfl⟩ := h
    exact ⟨h3, some text, by simp [headLine], rfl⟩

namespace Progress

/-- What becomes of a line that is taken, when `n` is its number. -/
inductive Taken (n : Nat) (p : Progress) : List Char → Progress → Prop
  | eof (hp : ∀ f, p.stage ≠ .awaitingType f) : Taken n p "# EOF".toList ⟨.complete, p.closed⟩
  | help {family : String} {text : Option (List Char)} (hp : ∀ f, p.stage ≠ .awaitingType f)
      (hf : ' ' ∉ family.toList) (ht : ∀ t ∈ text, ∃ v, Escaped PlainInHelp t v) :
      Taken n p (headLine "HELP" family text) ⟨.awaitingType family, p.closed⟩
  | type {family : String} {t : MetricType} (hp : p.stage = .awaitingType family)
      (hf : ' ' ∉ family.toList) :
      Taken n p (headLine "TYPE" family (some t.name.toList))
        { p with stage := .inSection ⟨family, t, [], []⟩ }
  | unit {s : Section} {text : Option (List Char)} (hp : p.stage = .inSection s)
      (hf : ' ' ∉ s.family.toList) (hu : s.unit = []) (hs : s.samples = []) :
      Taken n p (headLine "UNIT" s.family text)
        { p with stage := .inSection { s with unit := text.getD [] } }
  | sample {s : Section} {x : SampleText} (hp : p.stage = .inSection s)
      (hn : isMetricName (sampleName s.family s.type).toList = true)
      (hv : s.type = .counter → 0 ≤ x.value.value) :
      Taken n p (x.written (sampleName s.family s.type))
        { p with stage := .inSection { s with samples := s.samples ++ [x.sample s.family s.type n] } }

theorem take_headLine {p : Progress} {n : Nat} {keyword family : String} {text : Option (List Char)}
    (hk : ' ' ∉ keyword.toList) (hf : ' ' ∉ family.toList) :
    p.take n (headLine keyword family text) =
      if keyword = "HELP" then p.takeHelp family.toList (text.getD [])
      else if keyword = "TYPE" then p.takeType family.toList (text.getD [])
      else if keyword = "UNIT" then p.takeUnit family.toList (text.getD [])
      else p.refuse (.unknownKeyword keyword) := by
  have hcut := cutSpaces_headLine hk hf text
  have hne : headLine keyword family text ≠ "# EOF".toList := by
    intro h
    rw [h] at hcut
    exact absurd (congrArg List.length hcut) (by simp [cutSpaces])
  have hhash : (headLine keyword family text).head? = some '#' := rfl
  have htext : text.toList.flatten = text.getD [] := by cases text <;> simp
  rw [take, if_neg hne, if_pos hhash, takeMetadata, hcut]
  simp only [htext, String.toList_inj, String.ofList_toList]

theorem head?_ne_hash {name : String} (h : isMetricName name.toList = true) (rest : List Char) :
    (name.toList ++ rest).head? ≠ some '#' := by
  intro hhash
  cases hn : name.toList with
  | nil => simp [hn, isMetricName, isWord] at h
  | cons c cs =>
    simp only [hn, List.cons_append, List.head?_cons, Option.some.injEq] at hhash
    subst hhash
    simp [hn, isMetricName, isWord] at h

theorem take_of_isMetricName {p : Progress} {n : Nat} {name : String}
    (h : isMetricName name.toList = true) (rest : List Char) :
    p.take n (name.toList ++ rest) = p.takeSample n (name.toList ++ rest) := by
  have hhash := head?_ne_hash h rest
  have hne : name.toList ++ rest ≠ "# EOF".toList := fun he => hhash (by rw [he]; rfl)
  rw [take, if_neg hne, if_neg hhash]

theorem take_of_taken {n : Nat} {p p' : Progress} {line : List Char} (h : Taken n p line p') :
    p.take n line = (.ok (), p') := by
  cases h with
  | eof hp =>
    rw [take, if_pos rfl, takeEnd]
    split
    · next f hf => exact absurd hf (hp f)
    · rfl
  | @help family text hp hf ht =>
    have hv : ∃ v, Escape.unescape (text.getD []) = .ok v := by
      cases text with
      | none => exact ⟨[], rfl⟩
      | some t =>
        obtain ⟨v, hv⟩ := ht t rfl
        exact ⟨v, Escape.unescape_eq_ok_iff.2 hv⟩
    obtain ⟨v, hv⟩ := hv
    rw [take_headLine (by decide) hf, if_pos rfl, takeHelp]
    split
    · next f hf' => exact absurd hf' (hp f)
    · simp [hv, advance]
  | type hp hf =>
    rw [take_headLine (by decide) hf, if_neg (by decide), if_pos rfl]
    simp [takeType, hp, advance]
  | unit hp hf hu hs =>
    rw [take_headLine (by decide) hf, if_neg (by decide), if_neg (by decide), if_pos rfl]
    simp [takeUnit, hp, hu, hs, advance]
  | @sample s x hp hn hv =>
    have hread := Section.readSample_written hn hv n
    rw [SampleText.written] at hread ⊢
    rw [take_of_isMetricName hn]
    simp [takeSample, hp, hread, advance]

theorem taken_of_takeEnd {n : Nat} {p p' : Progress} (h : p.takeEnd = (.ok (), p')) :
    Taken n p "# EOF".toList p' := by
  unfold takeEnd at h
  split at h
  · simp [refuse] at h
  · next hp =>
    simp only [advance, Prod.mk.injEq, true_and] at h
    exact h ▸ .eof hp

theorem taken_of_takeHelp {n : Nat} {p p' : Progress} {name : List Char} {text : Option (List Char)}
    (hf : ' ' ∉ name) (h : p.takeHelp name (text.getD []) = (.ok (), p')) :
    Taken n p (headLine "HELP" (String.ofList name) text) p' := by
  unfold takeHelp at h
  split at h
  · simp [refuse] at h
  · next hp =>
    split at h
    · simp [refuse] at h
    · next v hv =>
      simp only [advance, Prod.mk.injEq, true_and] at h
      refine h ▸ .help hp (by simpa using hf) ?_
      rintro t rfl
      exact ⟨v, Escape.unescape_eq_ok_iff.1 hv⟩

theorem taken_of_takeType {n : Nat} {p p' : Progress} {name : List Char} {text : Option (List Char)}
    (hf : ' ' ∉ name) (h : p.takeType name (text.getD []) = (.ok (), p')) :
    Taken n p (headLine "TYPE" (String.ofList name) text) p' := by
  unfold takeType at h
  split at h
  · next family hp =>
    simp only [ne_eq, ite_not] at h
    split at h
    · next hn =>
      subst hn
      split at h
      · simp [refuse] at h
      · next t ht =>
        simp only [advance, Prod.mk.injEq, true_and] at h
        have htext : text = some t.name.toList := by
          rw [MetricType.ofName?_eq_some] at ht
          cases text with
          | none => cases t <;> simp [MetricType.name] at ht
          | some w => rw [← ht]; simp
        rw [htext, ← h]
        exact .type hp (by simpa using hf)
    · simp [refuse] at h
  · simp [refuse] at h

theorem taken_of_takeUnit {n : Nat} {p p' : Progress} {name : List Char} {text : Option (List Char)}
    (hf : ' ' ∉ name) (h : p.takeUnit name (text.getD []) = (.ok (), p')) :
    Taken n p (headLine "UNIT" (String.ofList name) text) p' := by
  unfold takeUnit at h
  split at h
  · next s hp =>
    split at h
    · simp [refuse] at h
    · next hus =>
      simp only [Bool.or_eq_true, Bool.not_eq_true', List.isEmpty_eq_false_iff, not_or,
        Decidable.not_not] at hus
      simp only [ne_eq, ite_not] at h
      split at h
      · next hn =>
        simp only [advance, Prod.mk.injEq, true_and] at h
        rw [hn, ← h]
        exact .unit hp (by simpa [← hn] using hf) hus.1 hus.2
      · simp [refuse] at h
  · simp [refuse] at h

theorem taken_of_takeSample {n : Nat} {p p' : Progress} {line : List Char}
    (h : p.takeSample n line = (.ok (), p')) : Taken n p line p' := by
  unfold takeSample at h
  split at h
  · next s hp =>
    split at h
    · simp at h
    · next sample hs =>
      obtain ⟨x, hn, hv, rfl, rfl⟩ := Section.exists_of_readSample hs
      simp only [advance, Prod.mk.injEq, true_and] at h
      exact h ▸ .sample hp hn hv
  · simp [refuse] at h

theorem taken_of_takeMetadata {n : Nat} {p p' : Progress} {line : List Char}
    (h : p.takeMetadata line = (.ok (), p')) : Taken n p line p' := by
  unfold takeMetadata at h
  split at h
  · next keyword name text hcut =>
    obtain ⟨hf, t, rfl, rfl⟩ := headLine_of_cutSpaces hcut
    have htext : t.toList.flatten = t.getD [] := by cases t <;> simp
    simp only [htext] at h
    split at h
    · next hk => exact hk ▸ taken_of_takeHelp hf h
    split at h
    · next hk => exact hk ▸ taken_of_takeType hf h
    split at h
    · next hk => exact hk ▸ taken_of_takeUnit hf h
    · simp [refuse] at h
  · simp [refuse] at h

theorem take_eq_ok_iff {n : Nat} {p p' : Progress} {line : List Char} :
    p.take n line = (.ok (), p') ↔ Taken n p line p' := by
  refine ⟨fun h => ?_, take_of_taken⟩
  unfold take at h
  split at h
  · next he => exact he ▸ taken_of_takeEnd h
  split at h
  · exact taken_of_takeMetadata h
  · exact taken_of_takeSample h

end Progress

end BpfExporter.Exposition
