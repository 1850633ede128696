import BpfExporter.Proofs.LabelReading

/-! Sample lines are read as their grammar has them. The value is what follows the last blank, so that
braces, blanks and line ends inside label values do not disturb it. -/
namespace BpfExporter.Exposition

open Grammar

theorem not_isBlank_of_isDigit {c : Char} (h : c.isDigit = true) : Text.isBlank c = false := by
  obtain ⟨h1, h2⟩ := Char.isDigit_iff_toNat.1 h
  have h0 : '0'.toNat = 48 := rfl
  have h9 : '9'.toNat = 57 := rfl
  simp [Text.isBlank, Text.isWhiteSpace, Text.inRanges, Text.whiteSpaceRanges]
  omega

theorem cutLastBlank?_eq_some_iff {cs before after : List Char} {b : Char} :
    cutLastBlank? cs = some (before, b, after) ↔
      cs = before ++ b :: after ∧ Text.isBlank b = true ∧ ∀ c ∈ after, Text.isBlank c = false := by
  unfold cutLastBlank?
  constructor
  · intro h
    simp only at h
    split at h
    · simp at h
    · next x before' hd =>
      simp only [Option.some.injEq, Prod.mk.injEq] at h
      obtain ⟨rfl, rfl, rfl⟩ := h
      have hsplit := List.takeWhile_append_dropWhile (p := fun c => !Text.isBlank c) (l := cs.reverse)
      have hb := List.head?_dropWhile_not (fun c => !Text.isBlank c) cs.reverse
      rw [hd] at hsplit hb
      refine ⟨?_, by simpa using hb, ?_⟩
      · simpa using (congrArg List.reverse hsplit).symm
      · intro c hc
        have := List.all_eq_true.1 (List.all_takeWhile (p := fun c => !Text.isBlank c)
          (l := cs.reverse)) c (List.mem_reverse.1 hc)
        simpa using this
  · rintro ⟨rfl, hb, ha⟩
    have hall : ∀ c ∈ after.reverse, (!Text.isBlank c) = true := by
      intro c hc
      simp [ha c (List.mem_reverse.1 hc)]
    simp [List.takeWhile_append_of_pos hall, List.dropWhile_append_of_pos hall, hb]

namespace SampleLine

theorem isMetricChar_of_isMetricStart (c : Char) (h : (c.isAlpha || c == '_' || c == ':') = true) :
    (c.isAlphanum || c == '_' || c == ':') = true := by
  simp only [Bool.or_eq_true] at h
  rcases h with (h | h) | h <;> simp [Char.isAlphanum, h]

theorem splitMetricName_append {name rest : List Char} (h : isMetricName name = true)
    (hr : ∀ c ∈ rest.head?, (c.isAlphanum || c == '_' || c == ':') = false) :
    splitMetricName (name ++ rest) = (name, rest) :=
  splitWord_append isMetricChar_of_isMetricStart h hr

theorem isMetricName_of_splitMetricName {cs name rest : List Char}
    (h : splitMetricName cs = (name, rest)) (hn : name ≠ []) :
    isMetricName name = true ∧ cs = name ++ rest :=
  isWord_of_splitWord isMetricChar_of_isMetricStart h hn

/-- What stands between the name and the space, where the text between the braces is `labels`. -/
inductive Braced (labels : List Char) : List Char → Prop
  | none (h : labels = []) : Braced labels []
  | some : Braced labels ('\x7b' :: (labels ++ ['\x7d']))

theorem braced_of_read? {line labels value : List Char} {name : String}
    (h : read? line = some ⟨name, labels, value⟩) :
    isMetricName name.toList = true ∧ value ≠ [] ∧ (∀ c ∈ value, Text.isBlank c = false) ∧
      ∃ braces, Braced labels braces ∧ line = name.toList ++ (braces ++ ' ' :: value) := by
  unfold read? at h
  split at h
  · next before value' hcut =>
    obtain ⟨rfl, -, hvalue⟩ := cutLastBlank?_eq_some_iff.1 hcut
    cases hs : splitMetricName before with
    | mk word rest =>
      simp only [hs] at h
      split at h
      · simp at h
      · next hne =>
        simp only [Bool.or_eq_true, List.isEmpty_iff, not_or] at hne
        obtain ⟨hw, rfl⟩ := isMetricName_of_splitMetricName hs hne.1
        split at h
        · simp only [Option.some.injEq, SampleLine.mk.injEq] at h
          obtain ⟨rfl, rfl, rfl⟩ := h
          exact ⟨by simpa using hw, hne.2, hvalue, [], .none rfl, by simp⟩
        · next body =>
          split at h
          · next hlast =>
            obtain ⟨inner, rfl⟩ := List.getLast?_eq_some_iff.1 hlast
            simp only [List.dropLast_concat, Option.some.injEq, SampleLine.mk.injEq] at h
            obtain ⟨rfl, rfl, rfl⟩ := h
            exact ⟨by simpa using hw, hne.2, hvalue, _, .some, by simp⟩
          · simp at h
        · simp at h
  · simp at h

theorem read?_of_braced {labels value braces : List Char} {name : String}
    (hname : isMetricName name.toList = true) (hne : value ≠ [])
    (hvalue : ∀ c ∈ value, Text.isBlank c = false) (hbraces : Braced labels braces) :
    read? (name.toList ++ (braces ++ ' ' :: value)) = some ⟨name, labels, value⟩ := by
  have hcut : cutLastBlank? (name.toList ++ (braces ++ ' ' :: value)) =
      some (name.toList ++ braces, ' ', value) :=
    cutLastBlank?_eq_some_iff.2 ⟨by simp, by decide, hvalue⟩
  have hempty : name.toList.isEmpty = false := by
    cases hn : name.toList with
    | nil => simp [hn, isMetricName, isWord] at hname
    | cons c cs => rfl
  cases hbraces with
  | none hl =>
    have hs : splitMetricName (name.toList ++ []) = (name.toList, []) :=
      splitMetricName_append hname (by simp)
    rw [read?, hcut]
    simp only [hs]
    simp [hempty, hne, hl]
  | some =>
    have hs : splitMetricName (name.toList ++ '\x7b' :: (labels ++ ['\x7d'])) =
        (name.toList, '\x7b' :: (labels ++ ['\x7d'])) := splitMetricName_append hname (by simp)
    rw [read?, hcut]
    simp only [hs]
    simp [hempty, hne]

end SampleLine

namespace Grammar.Sign

theorem splitSign_written (sign : Sign) {digits : List Char} (ascii : ∀ c ∈ digits, c.isDigit = true) :
    ∃ negative, Numeral.splitSign (sign.written ++ digits) = (negative, digits) ∧
      ∀ n, Numeral.signed negative n = sign.apply n := by
  cases sign with
  | plus => exact ⟨false, rfl, fun n => rfl⟩
  | minus => exact ⟨true, rfl, fun n => rfl⟩
  | absent =>
    refine ⟨false, ?_, fun n => rfl⟩
    show Numeral.splitSign digits = (false, digits)
    unfold Numeral.splitSign
    split
    · exact absurd (ascii _ List.mem_cons_self) (by decide)
    · exact absurd (ascii _ List.mem_cons_self) (by decide)
    · rfl

theorem exists_written_splitSign (cs : List Char) :
    ∃ sign : Sign, cs = sign.written ++ (Numeral.splitSign cs).2 ∧
      ∀ n, Numeral.signed (Numeral.splitSign cs).1 n = sign.apply n := by
  unfold Numeral.splitSign
  split
  · exact ⟨.minus, rfl, fun n => rfl⟩
  · exact ⟨.plus, rfl, fun n => rfl⟩
  · exact ⟨.absent, rfl, fun n => rfl⟩

theorem not_isBlank_of_mem_written (sign : Sign) {digits : List Char}
    (ascii : ∀ c ∈ digits, c.isDigit = true) {c : Char} (h : c ∈ sign.written ++ digits) :
    Text.isBlank c = false := by
  rcases List.mem_append.1 h with h | h
  · cases sign <;> simp [written] at h <;> subst h <;> decide
  · exact not_isBlank_of_isDigit (ascii c h)

end Grammar.Sign

namespace Grammar.Integer

theorem splitSign_written (i : Integer) :
    ∃ negative, Numeral.splitSign i.written = (negative, i.digits) ∧
      ∀ n, Numeral.signed negative n = i.sign.apply n :=
  i.sign.splitSign_written i.ascii

theorem isSigned_written (i : Integer) : Numeral.isSigned i.written = true := by
  obtain ⟨negative, hs, -⟩ := splitSign_written i
  simp only [Numeral.isSigned, hs, Bool.and_eq_true, List.all_eq_true]
  exact ⟨by simpa using i.nonempty, i.ascii⟩

theorem readSigned_written (i : Integer) : Numeral.readSigned i.written = .ok i.value := by
  obtain ⟨negative, hs, hn⟩ := splitSign_written i
  simp only [Numeral.readSigned, hs, Numeral.readNat, Numeral.maxDigits, if_pos i.short, Except.map, hn]
  rfl

theorem written_ne_nil (i : Integer) : i.written ≠ [] := by
  simp [written, i.nonempty]

theorem not_isBlank_of_mem_written {i : Integer} {c : Char} (h : c ∈ i.written) :
    Text.isBlank c = false :=
  i.sign.not_isBlank_of_mem_written i.ascii h

theorem exists_of_readSigned {cs : List Char} {v : Int} (hs : Numeral.isSigned cs = true)
    (hv : Numeral.readSigned cs = .ok v) : ∃ i : Integer, cs = i.written ∧ v = i.value := by
  obtain ⟨sign, hcs, hn⟩ := Sign.exists_written_splitSign cs
  simp only [Numeral.isSigned, Bool.and_eq_true, List.all_eq_true, Bool.not_eq_true',
    List.isEmpty_eq_false_iff] at hs
  obtain ⟨m, hm, rfl⟩ := map_eq_ok_iff.1 hv
  unfold Numeral.readNat at hm
  split at hm
  · next hl =>
    simp only [Except.ok.injEq] at hm
    refine ⟨⟨sign, (Numeral.splitSign cs).2, hs.2, hs.1, hl⟩, hcs, ?_⟩
    rw [hn, ← hm]
    rfl
  · simp at hm

end Grammar.Integer

namespace Section

theorem braced_braces (x : SampleText) :
    SampleLine.Braced (Label.joined (x.labels.getD [])) x.braces := by
  unfold SampleText.braces
  cases x.labels with
  | none => exact .none rfl
  | some ls => exact .some

theorem readSample_written {s : Section} {x : SampleText}
    (hname : isMetricName (sampleName s.family s.type).toList = true)
    (hvalue : s.type = .counter → 0 ≤ x.value.value) (n : Nat) :
    s.readSample n (x.written (sampleName s.family s.type)) = .ok (x.sample s.family s.type n) := by
  have hread : SampleLine.read? (x.written (sampleName s.family s.type)) =
      some ⟨sampleName s.family s.type, Label.joined (x.labels.getD []), x.value.written⟩ :=
    SampleLine.read?_of_braced hname x.value.written_ne_nil
      (fun _ => Integer.not_isBlank_of_mem_written) (braced_braces x)
  have hdistinct : ((x.labels.getD []).map Label.name).Nodup := by
    cases hl : x.labels with
    | none => simp
    | some ls => exact x.distinct ls hl
  have hlabels : LabelText.read (Label.joined (x.labels.getD [])) = .ok x.pairs :=
    LabelText.read_eq_ok_iff.2 ⟨_, rfl, hdistinct, rfl⟩
  have hneg : ¬(s.type = .counter ∧ x.value.value < 0) := fun h => by
    have := hvalue h.1
    omega
  simp [readSample, hread, x.value.isSigned_written, x.value.readSigned_written, hneg, hlabels,
    SampleText.sample]

theorem exists_of_braced {text braces : List Char} {ps : List (String × String)}
    (hb : SampleLine.Braced text braces) (h : LabelText.read text = .ok ps) (i : Integer) :
    ∃ x : SampleText, x.value = i ∧ x.braces = braces ∧ x.pairs = ps := by
  obtain ⟨ls, rfl, hn, rfl⟩ := LabelText.read_eq_ok_iff.1 h
  cases hb with
  | none he =>
    cases ls with
    | nil => exact ⟨⟨none, i, by simp⟩, rfl, rfl, rfl⟩
    | cons l ls => exact absurd he (Label.joined_ne_nil l ls)
  | some => exact ⟨⟨some ls, i, by simpa using hn⟩, rfl, rfl, rfl⟩

theorem exists_of_readSample {s : Section} {n : Nat} {line : List Char} {sample : Sample}
    (h : s.readSample n line = .ok sample) :
    ∃ x : SampleText, isMetricName (sampleName s.family s.type).toList = true ∧
      (s.type = .counter → 0 ≤ x.value.value) ∧ line = x.written (sampleName s.family s.type) ∧
      sample = x.sample s.family s.type n := by
  unfold readSample at h
  split at h
  · simp at h
  · next parts hread =>
    obtain ⟨name, labels, value⟩ := parts
    obtain ⟨hname, -, -, braces, hbraces, rfl⟩ := SampleLine.braced_of_read? hread
    simp only [ne_eq, ite_not] at h
    split at h
    · next he =>
      subst he
      split at h
      · simp at h
      · next hs =>
        split at h
        · simp at h
        · next v hv =>
          split at h
          · simp at h
          · next hneg =>
            split at h
            · simp at h
            · next pairs hpairs =>
              simp only [Except.ok.injEq] at h
              obtain ⟨i, rfl, rfl⟩ := Integer.exists_of_readSigned (by simpa using hs) hv
              obtain ⟨x, rfl, rfl, rfl⟩ := exists_of_braced hbraces hpairs i
              exact ⟨x, hname, fun ht => Int.not_lt.1 fun hlt => hneg ⟨ht, hlt⟩, rfl, h.symm⟩
    · simp at h

end Section

end BpfExporter.Exposition
