import BpfExporter.Proofs.Grammar

/-! Labels are read as their grammar has them: a text is a list of labels that reading accepts exactly
when it is written by labels of the grammar with distinct names, and then those are read. -/
namespace BpfExporter.Exposition

open Grammar

theorem map_eq_ok_iff {ε α β : Type} {x : Except ε α} {f : α → β} {b : β} :
    x.map f = .ok b ↔ ∃ a, x = .ok a ∧ f a = b := by
  cases x <;> simp [Except.map]

namespace Escape

theorem unescape_of_escaped {plain : Char → Prop} (hp : ∀ c, plain c → c ≠ '\\') {t v : List Char}
    (h : Escaped plain t v) : unescape t = .ok v := by
  induction h with
  | nil => rfl
  | char hc _ ih => rw [unescape_cons (hp _ hc), ih]; rfl
  | backslash _ ih => rw [unescape_backslash]; simp [escaped?, ih, Except.map]
  | quote _ ih => rw [unescape_backslash]; simp [escaped?, ih, Except.map]
  | newline _ ih => rw [unescape_backslash]; simp [escaped?, ih, Except.map]

theorem escaped?_eq_some {c x : Char} (h : escaped? c = some x) :
    c = '\\' ∧ x = '\\' ∨ c = '"' ∧ x = '"' ∨ c = 'n' ∧ x = '\n' := by
  unfold escaped? at h
  split at h <;> simp_all [eq_comm]

theorem escaped_of_unescape {t v : List Char} (h : unescape t = .ok v) : Escaped PlainInHelp t v := by
  fun_induction unescape t generalizing v with
  | case1 =>
    simp only [Except.ok.injEq] at h
    exact h ▸ .nil
  | case2 => simp at h
  | case3 c cs x hx ih =>
    obtain ⟨w, hu, rfl⟩ := map_eq_ok_iff.1 h
    rcases escaped?_eq_some hx with ⟨rfl, rfl⟩ | ⟨rfl, rfl⟩ | ⟨rfl, rfl⟩
    · exact .backslash (ih hu)
    · exact .quote (ih hu)
    · exact .newline (ih hu)
  | case4 c cs hx => simp at h
  | case5 c cs h1 h2 ih =>
    obtain ⟨w, hu, rfl⟩ := map_eq_ok_iff.1 h
    refine .char ?_ (ih hu)
    rintro rfl
    cases cs with
    | nil => exact h1 rfl rfl
    | cons d ds => exact h2 d ds rfl rfl

theorem unescape_eq_ok_iff {t v : List Char} : unescape t = .ok v ↔ Escaped PlainInHelp t v :=
  ⟨escaped_of_unescape, unescape_of_escaped fun _ h => h⟩

end Escape

/-- The word in front of a text, which is empty where none stands there. -/
def splitWord (first next : Char → Bool) (cs : List Char) : List Char × List Char :=
  match cs with
  | [] => ([], [])
  | c :: _ => if first c then (cs.takeWhile next, cs.dropWhile next) else ([], cs)

section Words

variable {first next : Char → Bool} (hnext : ∀ c, first c = true → next c = true)

include hnext

theorem next_of_isWord {word : List Char} (h : isWord first next word = true) :
    ∀ c ∈ word, next c = true := by
  cases word with
  | nil => simp
  | cons c cs =>
    simp only [isWord, Bool.and_eq_true, List.all_eq_true] at h
    intro x hx
    rcases List.mem_cons.1 hx with rfl | hx
    · exact hnext x h.1
    · exact h.2 x hx

theorem splitWord_append {word : List Char} (h : isWord first next word = true) {rest : List Char}
    (hr : ∀ c ∈ rest.head?, next c = false) :
    splitWord first next (word ++ rest) = (word, rest) := by
  have hall := next_of_isWord hnext h
  cases word with
  | nil => simp [isWord] at h
  | cons x xs =>
    simp only [isWord, Bool.and_eq_true] at h
    rw [List.cons_append, splitWord, if_pos h.1, ← List.cons_append,
      List.takeWhile_append_of_pos hall, List.dropWhile_append_of_pos hall]
    cases rest with
    | nil => simp
    | cons c rest => simp [hr c rfl]

theorem isWord_of_splitWord {cs word rest : List Char} (h : splitWord first next cs = (word, rest))
    (hw : word ≠ []) : isWord first next word = true ∧ cs = word ++ rest := by
  unfold splitWord at h
  split at h
  · simp only [Prod.mk.injEq] at h
    exact absurd h.1.symm hw
  · next c cs =>
    split at h
    · next hc =>
      simp only [Prod.mk.injEq] at h
      obtain ⟨rfl, rfl⟩ := h
      refine ⟨?_, List.takeWhile_append_dropWhile.symm⟩
      rw [List.takeWhile_cons_of_pos (hnext c hc)]
      simp only [isWord, Bool.and_eq_true]
      exact ⟨hc, List.all_takeWhile⟩
    · simp only [Prod.mk.injEq] at h
      exact absurd h.1.symm hw

end Words

namespace LabelText

theorem isNameChar_of_isNameStart {c : Char} (h : isNameStart c = true) : isNameChar c = true := by
  simp only [isNameStart, Bool.or_eq_true] at h
  rcases h with h | h <;> simp [isNameChar, Char.isAlphanum, h]

theorem splitValue?_backslash {c : Char} (hc : c ≠ '\n') (cs : List Char) :
    splitValue? ('\\' :: c :: cs) = (splitValue? cs).map fun r => ('\\' :: c :: r.1, r.2) := by
  rw [splitValue?, if_neg hc]

theorem splitValue?_cons {c : Char} (hc : PlainInValue c) (cs : List Char) :
    splitValue? (c :: cs) = (splitValue? cs).map fun r => (c :: r.1, r.2) := by
  obtain ⟨h1, h2, h3⟩ := hc
  rw [splitValue?]
  · simp [h1, h3]
  · exact fun e => h2 e
  · exact fun _ _ e => absurd e h1

theorem splitValue?_of_escaped {t v : List Char} (h : Escaped PlainInValue t v) (rest : List Char) :
    splitValue? (t ++ '"' :: rest) = some (t, rest) := by
  induction h with
  | nil => rfl
  | char hc _ ih => rw [List.cons_append, splitValue?_cons hc, ih]; rfl
  | backslash _ ih =>
    rw [List.cons_append, List.cons_append, splitValue?_backslash (by decide), ih]; rfl
  | quote _ ih =>
    rw [List.cons_append, List.cons_append, splitValue?_backslash (by decide), ih]; rfl
  | newline _ ih =>
    rw [List.cons_append, List.cons_append, splitValue?_backslash (by decide), ih]; rfl

/-- What is split off ends before a quote, and where its escapes can be read it is a value. -/
theorem escaped_of_splitValue? {cs t rest : List Char} (h : splitValue? cs = some (t, rest)) :
    cs = t ++ '"' :: rest ∧ ∀ v, Escape.unescape t = .ok v → Escaped PlainInValue t v := by
  fun_induction splitValue? cs generalizing t with
  | case1 => simp at h
  | case2 cs =>
    simp only [Option.some.injEq, Prod.mk.injEq] at h
    obtain ⟨rfl, rfl⟩ := h
    refine ⟨rfl, fun v hv => ?_⟩
    simp only [Escape.unescape, Except.ok.injEq] at hv
    exact hv ▸ .nil
  | case3 => simp at h
  | case4 c cs hc ih =>
    obtain ⟨⟨w, r⟩, hr, he⟩ := Option.map_eq_some_iff.1 h
    simp only [Prod.mk.injEq] at he
    obtain ⟨rfl, rfl⟩ := he
    obtain ⟨hcs, hw⟩ := ih hr
    refine ⟨by simp [hcs], fun v hv => ?_⟩
    rw [Escape.unescape_backslash] at hv
    cases hx : Escape.escaped? c with
    | none => simp [hx] at hv
    | some x =>
      simp only [hx] at hv
      obtain ⟨u, hu, rfl⟩ := map_eq_ok_iff.1 hv
      rcases Escape.escaped?_eq_some hx with ⟨rfl, rfl⟩ | ⟨rfl, rfl⟩ | ⟨rfl, rfl⟩
      · exact .backslash (hw u hu)
      · exact .quote (hw u hu)
      · exact .newline (hw u hu)
  | case5 => simp at h
  | case6 c cs h1 h2 hc ih =>
    obtain ⟨⟨w, r⟩, hr, he⟩ := Option.map_eq_some_iff.1 h
    simp only [Prod.mk.injEq] at he
    obtain ⟨rfl, rfl⟩ := he
    obtain ⟨hcs, hw⟩ := ih hr
    simp only [Bool.or_eq_true, decide_eq_true_eq, not_or] at hc
    refine ⟨by simp [hcs], fun v hv => ?_⟩
    rw [Escape.unescape_cons hc.1] at hv
    obtain ⟨u, hu, rfl⟩ := map_eq_ok_iff.1 hv
    exact .char ⟨hc.1, fun e => h1 e, hc.2⟩ (hw u hu)

theorem splitName_append {name : List Char} (h : isLabelName name = true) (rest : List Char) :
    splitName (name ++ '=' :: rest) = (name, '=' :: rest) :=
  splitWord_append (fun _ => isNameChar_of_isNameStart) h (by simp [isNameChar])

theorem isLabelName_of_splitName {cs name rest : List Char} (h : splitName cs = (name, rest))
    (hn : name ≠ []) : isLabelName name = true ∧ cs = name ++ rest :=
  isWord_of_splitWord (fun _ => isNameChar_of_isNameStart) h hn

theorem splitPair?_written (l : Label) (rest : List Char) :
    splitPair? (l.written ++ rest) = some (l.name, l.text, rest) := by
  have hw : l.written ++ rest = l.name.toList ++ '=' :: ('"' :: (l.text ++ '"' :: rest)) := by
    simp [Label.written]
  have hn : l.name.toList ≠ [] := by
    intro h
    have := l.named
    simp [h, isLabelName, isWord] at this
  rw [hw, splitPair?, splitName_append l.named]
  split
  · next h => exact absurd (congrArg Prod.fst h) hn
  · next name body _ h =>
    simp only [Prod.mk.injEq, List.cons.injEq, true_and] at h
    obtain ⟨rfl, rfl⟩ := h
    simp [splitValue?_of_escaped l.escaped]
  · next h1 h2 => exact absurd rfl (h2 _ _)

theorem label_of_splitPair? {cs t rest v : List Char} {name : String}
    (h : splitPair? cs = some (name, t, rest)) (hv : Escape.unescape t = .ok v) :
    ∃ l : Label, l.name = name ∧ l.value = String.ofList v ∧ cs = l.written ++ rest := by
  unfold splitPair? at h
  split at h
  · simp at h
  · next word body hn hs =>
    obtain ⟨⟨t', r⟩, hr, he⟩ := Option.map_eq_some_iff.1 h
    simp only [Prod.mk.injEq] at he
    obtain ⟨rfl, rfl, rfl⟩ := he
    obtain ⟨hw, hcs⟩ := isLabelName_of_splitName hs fun e => hn (e ▸ rfl)
    obtain ⟨hbody, hesc⟩ := escaped_of_splitValue? hr
    refine ⟨⟨String.ofList word, t', String.ofList v, by simpa using hw, by simpa using hesc v hv⟩,
      rfl, rfl, ?_⟩
    simp [Label.written, hcs, hbody]
  · simp at h

theorem ne_nil_of_splitPair? {cs t rest : List Char} {name : String}
    (h : splitPair? cs = some (name, t, rest)) : cs.isEmpty = false := by
  cases cs with
  | nil => simp [splitPair?, splitName] at h
  | cons c cs => rfl

theorem readFrom_last {seen : List (String × String)} {cs t v : List Char} {name : String}
    (h : splitPair? cs = some (name, t, [])) (hs : seen.any (·.1 == name) = false)
    (hv : Escape.unescape t = .ok v) : readFrom seen cs = .ok (seen ++ [(name, String.ofList v)]) := by
  rw [readFrom, ne_nil_of_splitPair? h]
  simp only [Bool.false_eq_true, if_false]
  split
  · next h' => simp [h] at h'
  · next h' =>
    rw [h] at h'
    simp only [Option.some.injEq, Prod.mk.injEq] at h'
    obtain ⟨rfl, rfl, rfl⟩ := h'
    simp [hs, hv]

theorem readFrom_comma {seen : List (String × String)} {cs t v more : List Char} {name : String}
    (h : splitPair? cs = some (name, t, ',' :: more)) (hmore : more ≠ [])
    (hs : seen.any (·.1 == name) = false) (hv : Escape.unescape t = .ok v) :
    readFrom seen cs = readFrom (seen ++ [(name, String.ofList v)]) more := by
  rw [readFrom, ne_nil_of_splitPair? h]
  simp only [Bool.false_eq_true, if_false]
  split
  · next h' => simp [h] at h'
  · next h' =>
    rw [h] at h'
    simp only [Option.some.injEq, Prod.mk.injEq] at h'
    obtain ⟨rfl, rfl, rfl⟩ := h'
    have hcomma : afterComma? (',' :: more) = some more := afterComma?_eq_some_iff.2 ⟨rfl, hmore⟩
    simp only [hs, Bool.false_eq_true, if_false, hv, List.isEmpty_cons]
    split
    · next hr =>
      rw [hcomma] at hr
      rw [Option.some.inj hr]
    · next hr => simp [hcomma] at hr

theorem readFrom_joined (seen : List (String × String)) (ls : List Label)
    (h : (seen.map Prod.fst ++ ls.map Label.name).Nodup) :
    readFrom seen (Label.joined ls) = .ok (seen ++ ls.map Label.pair) := by
  induction ls generalizing seen with
  | nil => simp [readFrom]
  | cons l ls ih =>
    have hseen : seen.any (·.1 == l.name) = false := by
      rw [List.map_cons, List.nodup_append] at h
      rw [List.any_eq_false]
      intro p hp
      simpa using h.2.2 p.1 (List.mem_map_of_mem hp) l.name List.mem_cons_self
    have hu : Escape.unescape l.text = .ok l.value.toList :=
      Escape.unescape_of_escaped (fun _ hc => hc.1) l.escaped
    cases ls with
    | nil =>
      have hs := splitPair?_written l []
      rw [List.append_nil] at hs
      simp [readFrom_last hs hseen hu, Label.pair]
    | cons l' ls =>
      have hn : ((seen ++ [l.pair]).map Prod.fst ++ (l' :: ls).map Label.name).Nodup := by
        simpa [Label.pair] using h
      have hih := ih (seen ++ [l.pair]) hn
      rw [Label.joined_cons_cons,
        readFrom_comma (splitPair?_written l _) (Label.joined_ne_nil l' ls) hseen hu]
      simpa [Label.pair] using hih

theorem nodup_names_append {seen : List (String × String)} (h : (seen.map Prod.fst).Nodup)
    {name : String} (hn : ¬seen.any (·.1 == name) = true) (v : String) :
    ((seen ++ [(name, v)]).map Prod.fst).Nodup := by
  rw [List.map_append, List.nodup_append]
  refine ⟨h, by simp, ?_⟩
  intro x hx y hy
  obtain ⟨p, hp, rfl⟩ := List.mem_map.1 hx
  obtain rfl : y = name := by simpa using hy
  intro he
  exact hn (List.any_eq_true.2 ⟨p, hp, by simpa using he⟩)

theorem labels_of_readFrom {seen ps : List (String × String)} {cs : List Char}
    (h : readFrom seen cs = .ok ps) (hseen : (seen.map Prod.fst).Nodup) :
    ∃ ls : List Label, cs = Label.joined ls ∧ ps = seen ++ ls.map Label.pair ∧
      (ps.map Prod.fst).Nodup := by
  fun_induction readFrom seen cs with
  | case1 seen cs hcs =>
    simp only [Except.ok.injEq] at h
    subst h
    exact ⟨[], by simpa using hcs, by simp, hseen⟩
  | case2 => simp at h
  | case3 => simp at h
  | case4 => simp at h
  | case5 seen cs _ name t rest hs hn v hv read hrest =>
    simp only [Except.ok.injEq] at h
    subst h
    obtain rfl := List.isEmpty_iff.1 hrest
    obtain ⟨l, rfl, hl, rfl⟩ := label_of_splitPair? hs hv
    exact ⟨[l], by simp, by simp [read, Label.pair, hl], nodup_names_append hseen hn _⟩
  | case6 seen cs _ name t rest hs hn v hv read _ more hr ih =>
    obtain ⟨rfl, hne⟩ := afterComma?_eq_some_iff.1 hr
    obtain ⟨ls, hmore, rfl, hnodup⟩ := ih h (nodup_names_append hseen hn _)
    obtain ⟨l, rfl, hl, rfl⟩ := label_of_splitPair? hs hv
    cases ls with
    | nil => exact absurd hmore hne
    | cons l' ls =>
      refine ⟨l :: l' :: ls, ?_, by simp [read, Label.pair, hl], hnodup⟩
      rw [Label.joined_cons_cons, hmore]
  | case7 => simp at h

theorem read_eq_ok_iff {cs : List Char} {ps : List (String × String)} :
    read cs = .ok ps ↔
      ∃ ls : List Label, cs = Label.joined ls ∧ (ls.map Label.name).Nodup ∧ ps = ls.map Label.pair := by
  constructor
  · intro h
    obtain ⟨ls, hcs, rfl, hn⟩ := labels_of_readFrom h (by simp)
    refine ⟨ls, hcs, ?_, by simp⟩
    simpa [Function.comp_def, Label.pair] using hn
  · rintro ⟨ls, rfl, hn, rfl⟩
    exact readFrom_joined [] ls (by simpa using hn)

end LabelText

end BpfExporter.Exposition
