import BpfExporter.Proofs.LineCuts

/-! The lines that refusals name. Characters are refused under the number of the first line that is at fault,
however they are cut. Bytes that are no UTF-8 are found before the lines of their chunk are counted, and are refused
under the number of the line that the chunk goes on with; the fault is in that line or in a later one. -/
namespace BpfExporter.Exposition

open Decoder (cutLines)

namespace Progress

variable {n n' m : Nat} {p p' : Progress} {lines : List (List Char)}

theorem number_of_run (h : p.run n lines = (.ok (), n', p')) : n' = n + lines.length := by
  induction lines generalizing n p with
  | nil => exact (Prod.mk.inj (Prod.mk.inj h).2).1.symm
  | cons line lines ih =>
    by_cases hc : p.stage = .complete
    · rw [run_complete hc] at h
      cases h
    · cases ht : p.take (n + 1) line with
      | mk r p₁ =>
        cases r with
        | error e =>
          rw [run_of_error hc ht] at h
          cases h
        | ok u =>
          rw [run_of_ok hc ht] at h
          rw [ih h, List.length_cons]
          omega

variable {why : Malformed} {q : Nat × Progress}

theorem number_of_fault {line : List Char} (h : p.run n [line] = (.error (.parse m why), q)) : m = n + 1 := by
  by_cases hc : p.stage = .complete
  · rw [run_complete hc] at h
    cases h
    rfl
  · cases ht : p.take (n + 1) line with
    | mk r p₁ =>
      cases r with
      | error e =>
        rw [run_of_error hc ht] at h
        cases e <;> cases h
        rfl
      | ok u =>
        rw [run_of_ok hc ht] at h
        cases h

theorem exists_of_run_error (h : p.run n lines = (.error (.parse m why), q)) :
    ∃ before line after p₁, lines = before ++ [line] ++ after ∧ m = n + before.length + 1 ∧
      p.run n before = (.ok (), n + before.length, p₁) ∧
      p.run n (before ++ [line]) = (.error (.parse m why), q) := by
  induction lines generalizing n p with
  | nil => cases h
  | cons line lines ih =>
    rw [← List.singleton_append, run_append] at h
    cases hl : p.run n [line] with
    | mk r q₁ =>
      rw [hl] at h
      cases r with
      | error e =>
        have hfault := hl.trans h
        exact ⟨[], line, lines, p, rfl, number_of_fault hfault, rfl, hfault⟩
      | ok u =>
        obtain ⟨n₁, p₁⟩ := q₁
        obtain ⟨before, fault, after, p₂, rfl, hm, hbefore, hfault⟩ := ih h
        obtain rfl : n₁ = n + 1 := number_of_run hl
        have hlength : n + (line :: before).length = n + 1 + before.length := by
          rw [List.length_cons]
          omega
        refine ⟨line :: before, fault, after, p₂, rfl, by rw [hm, hlength], ?_, ?_⟩
        · rw [← List.singleton_append, run_append, hl, List.singleton_append, hlength]
          exact hbefore
        · rw [List.cons_append, ← List.singleton_append, run_append, hl]
          exact hfault

end Progress

namespace Decoder

variable {d : Decoder} {n : Nat} {p : Progress} {why : Malformed} {lines : List (List Char)} {cs : List Char}

theorem feedChars_unlines_of_ok (h : ∀ line ∈ lines, '\n' ∉ line)
    (hrun : Progress.start.run 0 lines = (.ok (), n, p)) :
    ∃ b d', start.feedChars (unlines lines) = (.ok b, d') := by
  have hcut : cutLines (start.buffer ++ unlines lines) = (lines, []) := cutLines_eq_iff.2 ⟨rfl, h⟩
  have hstart : start.progress.run start.lineNumber lines = (.ok (), n, p) := hrun
  rw [feedChars_eq_run, hcut, hstart]
  exact ⟨_, _, if_neg fun hc => hc.2 rfl⟩

theorem feedChars_unlines_of_error {e : DecodeError} {q : Nat × Progress} (h : ∀ line ∈ lines, '\n' ∉ line)
    (hrun : Progress.start.run 0 lines = (.error e, q)) :
    ∃ e' d', start.feedChars (unlines lines) = (.error e', d') := by
  have hcut : cutLines (start.buffer ++ unlines lines) = (lines, []) := cutLines_eq_iff.2 ⟨rfl, h⟩
  have hstart : start.progress.run start.lineNumber lines = (.error e, q) := hrun
  rw [feedChars_eq_run, hcut, hstart]
  exact ⟨_, _, rfl⟩

/-- Characters are refused under the number of the first line at fault: the lines before it are taken, and with it
they are not. -/
theorem lines_of_feedChars_error (h : start.feedChars cs = (.error (.parse n why), d)) :
    ∃ k, n = k + 1 ∧ k ≤ cs.count '\n' ∧ (∃ b d', start.feedChars (cutAfter '\n' k cs).1 = (.ok b, d')) ∧
      ∃ e d', start.feedChars (cutAfter '\n' (k + 1) cs).1 = (.error e, d') := by
  obtain ⟨hlines, hrest⟩ := not_mem_cutLines cs
  have hcount := count_newline cs
  have htext := unlines_cutLines cs
  have hrefused := h
  rw [feedChars_eq_run, show start.buffer ++ cs = cs from rfl] at h
  cases hrun : start.progress.run start.lineNumber (cutLines cs).1 with
  | mk r q =>
    rw [hrun] at h
    cases r with
    | error e =>
      obtain rfl : e = .parse n why := Except.error.inj (Prod.mk.inj h).1
      obtain ⟨before, line, after, p₁, hsplit, hn, hbefore, hfault⟩ := Progress.exists_of_run_error hrun
      rw [hsplit] at hlines hcount htext
      have hwith : ∀ l ∈ before ++ [line], '\n' ∉ l := fun l hl => hlines l (List.mem_append_left _ hl)
      have hwithout : ∀ l ∈ before, '\n' ∉ l := fun l hl => hwith l (List.mem_append_left _ hl)
      have hfirst : (cutAfter '\n' before.length cs).1 = unlines before := by
        rw [← htext, unlines_append, unlines_append, List.append_assoc, List.append_assoc,
          cutAfter_unlines hwithout]
      have hnext : (cutAfter '\n' (before.length + 1) cs).1 = unlines (before ++ [line]) := by
        have hlength : (before ++ [line]).length = before.length + 1 := List.length_append
        rw [← htext, unlines_append, List.append_assoc, ← hlength, cutAfter_unlines hwith]
      refine ⟨before.length, ?_, ?_, ?_, ?_⟩
      · exact hn.trans (congrArg (· + 1) (Nat.zero_add _))
      · rw [hcount, List.length_append, List.length_append]
        omega
      · rw [hfirst]
        exact feedChars_unlines_of_ok hwithout hbefore
      · rw [hnext]
        exact feedChars_unlines_of_error hwith hfault
    | ok u =>
      obtain ⟨m, p⟩ := q
      simp only at h
      split at h
      · obtain ⟨rfl, -⟩ := DecodeError.parse.inj (Except.error.inj (Prod.mk.inj h).1)
        have hm : m = (cutLines cs).1.length := (Progress.number_of_run hrun).trans (Nat.zero_add _)
        have hfirst : (cutAfter '\n' m cs).1 = unlines (cutLines cs).1 := by
          conv => lhs; rw [← htext, hm]
          rw [cutAfter_unlines hlines]
        refine ⟨m, rfl, Nat.le_of_eq (hm.trans hcount.symm), ?_, ?_⟩
        · rw [hfirst]
          exact feedChars_unlines_of_ok hlines hrun
        · rw [cutAfter_of_count_lt (by omega)]
          exact ⟨_, _, hrefused⟩
      · cases h

theorem lineNumber_of_feed {c : Chunk} {b : Bool} (h : start.feed c = (.ok b, d)) : d.lineNumber = c.newlines := by
  obtain ⟨cs, hgives⟩ := gives_of_feed h
  rw [feed_of_gives hgives, feedChars_eq_run] at h
  rw [hgives.newlines, count_newline, ← Nat.zero_add (cutLines cs).1.length]
  cases hrun : start.progress.run start.lineNumber (cutLines (start.buffer ++ cs)).1 with
  | mk r q =>
    rw [hrun] at h
    cases r with
    | error e => cases h
    | ok u =>
      obtain ⟨n, p⟩ := q
      have hn := Progress.number_of_run hrun
      simp only at h
      split at h
      · cases h
      · rw [← (Prod.mk.inj h).2]
        exact hn

end Decoder

namespace Chunk

variable {c u v w whole : Chunk} {n k m : Nat}

/-- A new decoder takes the chunk. -/
def IsTaken (c : Chunk) : Prop := ∃ b d, Decoder.start.feed c = (.ok b, d)

/-- The first line at fault. A new decoder takes the lines before it, and refuses it then, be it for bytes that are
no UTF-8 or for what it says. -/
def FirstFault (whole : Chunk) (n : Nat) : Prop :=
  ∃ k, n = k + 1 ∧ ∃ b d, Decoder.start.feed (whole.firstLines k) = (.ok b, d) ∧
    ∃ e d', d.feed (whole.lineAfter k) = (.error e, d')

theorem not_isTaken_iff : ¬c.IsTaken ↔ ∃ e d, Decoder.start.feed c = (.error e, d) := by
  rw [IsTaken]
  cases hfeed : Decoder.start.feed c with
  | mk r d => cases r <;> simp

theorem IsTaken.of_append (hw : w.IsTaken) (h : Append u v w) : u.IsTaken := by
  by_cases hu : u.IsTaken
  · exact hu
  · obtain ⟨e, d, hrefused⟩ := not_isTaken_iff.1 hu
    exact absurd hw (not_isTaken_iff.2 (Decoder.feed_append_of_error h hrefused))

theorem firstFault_succ_iff :
    whole.FirstFault (k + 1) ↔ (whole.firstLines k).IsTaken ∧ ¬(whole.firstLines (k + 1)).IsTaken := by
  have hnext := whole.firstLines_succ k
  rw [not_isTaken_iff]
  constructor
  · rintro ⟨j, hj, b, d, hbefore, hfault⟩
    obtain rfl := Nat.succ.inj hj
    refine ⟨⟨b, d, hbefore⟩, ?_⟩
    rcases Decoder.feed_append_of_ok hnext hbefore with heq | ⟨hrefused, -⟩
    · rwa [heq]
    · exact hrefused
  · rintro ⟨⟨b, d, hbefore⟩, hrefused⟩
    refine ⟨k, rfl, b, d, hbefore, ?_⟩
    rcases Decoder.feed_append_of_ok hnext hbefore with heq | ⟨-, hfault⟩
    · rwa [← heq]
    · exact hfault

theorem IsTaken.firstLines_le (h : (w.firstLines n).IsTaken) (hk : k ≤ n) : (w.firstLines k).IsTaken := by
  induction n with
  | zero => rwa [Nat.le_zero.1 hk]
  | succ n ih =>
    by_cases heq : k = n + 1
    · rwa [heq]
    · exact ih (h.of_append (w.firstLines_succ n)) (by omega)

theorem firstLines_all (w : Chunk) : w.firstLines (w.newlines + 1) = w :=
  firstLines_of_newlines_lt (Nat.lt_succ_self _)

theorem IsTaken.firstLines (h : w.IsTaken) (hn : n ≤ w.newlines) : (w.firstLines n).IsTaken := by
  rw [← w.firstLines_all] at h
  exact h.firstLines_le (Nat.le_succ_of_le hn)

theorem FirstFault.lt_of_isTaken (h : whole.FirstFault m) (hk : (whole.firstLines k).IsTaken) : k < m := by
  obtain ⟨j, rfl, -⟩ := id h
  obtain ⟨-, hrefused⟩ := firstFault_succ_iff.1 h
  by_cases hjk : j + 1 ≤ k
  · exact absurd (hk.firstLines_le hjk) hrefused
  · omega

theorem FirstFault.unique (hm : whole.FirstFault m) (hn : whole.FirstFault n) : m = n := by
  obtain ⟨j, rfl, b, d, hj, -⟩ := id hm
  obtain ⟨k, rfl, b', d', hk, -⟩ := id hn
  have hle := hm.lt_of_isTaken ⟨b', d', hk⟩
  have hge := hn.lt_of_isTaken ⟨b, d, hj⟩
  omega

theorem exists_firstFault (h : ¬whole.IsTaken) : ∃ m, whole.FirstFault m := by
  have hlines : ∀ k, ¬(whole.firstLines k).IsTaken → ∃ m, whole.FirstFault m := by
    intro k hk
    induction k with
    | zero =>
      refine absurd ?_ hk
      cases whole with
      | text s => exact ⟨false, Decoder.start, by simp [firstLines]; rfl⟩
      | bytes bs => exact ⟨false, Decoder.start, by simp [firstLines]; rfl⟩
    | succ k ih =>
      by_cases hbefore : (whole.firstLines k).IsTaken
      · exact ⟨k + 1, firstFault_succ_iff.2 ⟨hbefore, hk⟩⟩
      · exact ih hbefore
  rw [← whole.firstLines_all] at h
  exact hlines _ h

/-! ### Chunks one after another -/

theorem Append.assoc (h : Append u v whole) {x y : Chunk} (hv : Append x y v) :
    ∃ ux, Append u x ux ∧ Append ux y whole := by
  cases h with
  | text s t =>
    cases hv with
    | text s' t' =>
      rw [← String.append_assoc]
      exact ⟨_, .text _ _, .text _ _⟩
  | bytes xs ys =>
    cases hv with
    | bytes xs' ys' =>
      rw [← List.append_assoc]
      exact ⟨_, .bytes _ _, .bytes _ _⟩

theorem Concat.split {pre post : List Chunk} (h : Concat (pre ++ c :: post) whole) :
    ∃ w u v, Concat pre w ∧ Append w c u ∧ Append u v whole := by
  induction pre generalizing whole with
  | nil =>
    cases h with
    | cons hwhole hrest =>
      cases hwhole with
      | text s t =>
        have hnone : Append (.text "") (.text s) (.text s) := by
          simpa using Append.text "" s
        exact ⟨_, _, _, .noText, hnone, .text s t⟩
      | bytes xs ys => exact ⟨_, _, _, .noBytes, .bytes [] xs, .bytes xs ys⟩
  | cons p pre ih =>
    cases h with
    | cons hwhole hrest =>
      obtain ⟨w, u, v, hw, hu, hv⟩ := ih hrest
      obtain ⟨pu, hpu, hlast⟩ := hwhole.assoc hv
      obtain ⟨pw, hpw, hwith⟩ := hpu.assoc hu
      exact ⟨pw, pu, v, .cons hpw hw, hwith, hlast⟩

end Chunk

namespace Decoder

open Chunk (Append Concat)

variable {d d' : Decoder} {c u w whole : Chunk} {cs : List Chunk} {n : Nat} {why : Malformed}

theorem exists_of_feedEach_error {e : DecodeError} (h : d.feedEach c cs = (.error e, d')) :
    ∃ pre refused post, c :: cs = pre ++ refused :: post ∧ (∀ r ∈ (d.feedAll pre).1, ∃ b, r = .ok b) ∧
      (d.feedAll pre).2.feed refused = (.error e, d') := by
  induction cs generalizing d c with
  | nil => exact ⟨[], c, [], rfl, nofun, h⟩
  | cons c' cs ih =>
    rw [feedEach] at h
    cases hfeed : d.feed c with
    | mk r d₁ =>
      rw [hfeed] at h
      cases r with
      | error e' => exact ⟨[], c, c' :: cs, rfl, nofun, hfeed.trans h⟩
      | ok b =>
        obtain ⟨pre, refused, post, hsplit, htaken, hrefused⟩ := ih h
        refine ⟨c :: pre, refused, post, congrArg (c :: ·) hsplit, ?_, ?_⟩
        · rw [feedAll, hfeed]
          exact List.forall_mem_cons.2 ⟨⟨b, rfl⟩, htaken⟩
        · rw [feedAll, hfeed]
          exact hrefused

theorem lines_of_gives {chars : List Char} {pending : Option Utf8.Partial} (hu : u.Gives chars pending)
    (h : start.feedChars chars = (.error (.parse n why), d)) :
    ∃ k, n = k + 1 ∧ k ≤ u.newlines ∧ (u.firstLines k).IsTaken ∧ ¬(u.firstLines (k + 1)).IsTaken := by
  obtain ⟨k, rfl, hk, ⟨b, d₁, hbefore⟩, e, d₂, hfault⟩ := lines_of_feedChars_error h
  obtain ⟨mid, hmid⟩ := hu.firstLines k
  obtain ⟨mid', hmid'⟩ := hu.firstLines (k + 1)
  refine ⟨k, rfl, by rwa [hu.newlines], ⟨b, { d₁ with pending := mid }, ?_⟩, ?_⟩
  · rw [feed_of_gives hmid, hbefore]
  · rw [Chunk.not_isTaken_iff]
    exact ⟨e, { d₂ with pending := mid' }, by rw [feed_of_gives hmid', hfault]⟩

/-- What a chunk is refused for after others: a line of what was fed by then, or its bytes. -/
theorem lines_of_feed_error {b : Bool} (hw : start.feed w = (.ok b, d)) (hu : Append w c u)
    (h : d.feed c = (.error (.parse n why), d')) :
    (∃ k, n = k + 1 ∧ k ≤ u.newlines ∧ (u.firstLines k).IsTaken ∧ ¬(u.firstLines (k + 1)).IsTaken) ∨
      ∃ bs reason, c = .bytes bs ∧ why = .invalidUtf8 reason ∧ n = w.newlines + 1 := by
  cases hu with
  | text s t =>
    have hchars : start.feedChars (s ++ t).toList = (.error (.parse n why), d') := by
      rw [String.toList_append, feedChars_append_of_ok hw]
      exact h
    exact .inl (lines_of_gives (u := .text (s ++ t)) ⟨rfl, rfl⟩ hchars)
  | bytes xs ys =>
    cases hys : Utf8.decode 0 d.pending ys with
    | error e =>
      rw [feed_bytes_of_error hys, lineNumber_of_feed hw] at h
      obtain ⟨hn, hwhy⟩ := DecodeError.parse.inj (Except.error.inj (Prod.mk.inj h).1)
      exact .inr ⟨ys, e.reason, rfl, hwhy.symm, hn.symm⟩
    | ok r =>
      obtain ⟨chars, hxs⟩ := gives_of_feed hw
      have hboth : (Chunk.bytes (xs ++ ys)).Gives (chars ++ r.1) r.2 := by
        rcases Utf8.decode_append_cases hxs ys with ⟨e, -, he, -⟩ | ⟨chars', last, hok, hwhole⟩
        · rw [hys] at he
          cases he
        · obtain rfl := Except.ok.inj (hys.symm.trans hok)
          exact hwhole
      -- What is pending has no say in the characters, so those of both chunks are fed as at once.
      rw [feed_of_gives hxs] at hw
      obtain ⟨hb, hd⟩ := Prod.mk.inj hw
      have hfirst : start.feedChars chars = (.ok b, (start.feedChars chars).2) := Prod.ext hb rfl
      rw [feed_bytes_of_ok hys, ← hd, feedChars_pending] at h
      have hrefused : start.feedChars (chars ++ r.1) =
          (.error (.parse n why), ((start.feedChars chars).2.feedChars r.1).2) := by
        rw [feedChars_append_of_ok hfirst]
        exact Prod.ext (Prod.mk.inj h).1 rfl
      exact .inl (lines_of_gives hboth hrefused)

/-- A chunk that is refused after others has the first fault in the line that it goes on with, or in a later one of
its own. -/
theorem firstFault_of_refused {v : Chunk} {b : Bool} (hw : start.feed w = (.ok b, d)) (hu : Append w c u)
    (hv : Append u v whole) {e : DecodeError} (h : d.feed c = (.error e, d')) :
    (whole.firstLines w.newlines).IsTaken ∧ (whole.FirstFault (w.newlines + 1) ∨
      0 < c.newlines ∧ ∃ m, w.newlines + 1 < m ∧ whole.FirstFault m) := by
  have hrefused : ¬u.IsTaken := by
    rw [Chunk.not_isTaken_iff]
    rcases feed_append_of_ok hu hw with heq | ⟨hrefused, -⟩
    · exact ⟨e, d', heq.trans h⟩
    · exact hrefused
  have hlines : (whole.firstLines w.newlines).IsTaken := by
    have htaken : w.IsTaken := ⟨b, d, hw⟩
    rw [Chunk.firstLines_append hv (by rw [Chunk.newlines_append hu]; omega),
      Chunk.firstLines_append hu (Nat.le_refl _)]
    exact htaken.firstLines (Nat.le_refl _)
  refine ⟨hlines, ?_⟩
  by_cases hnone : c.newlines = 0
  · obtain ⟨x, hx⟩ := Chunk.exists_firstLines_append hv (w.newlines + 1)
    have hall : u.firstLines (w.newlines + 1) = u :=
      Chunk.firstLines_of_newlines_lt (by rw [Chunk.newlines_append hu]; omega)
    rw [hall] at hx
    exact .inl (Chunk.firstFault_succ_iff.2 ⟨hlines, fun ht => hrefused (ht.of_append hx)⟩)
  · have hall : ¬whole.IsTaken := fun ht => hrefused (ht.of_append hv)
    obtain ⟨m, hm⟩ := Chunk.exists_firstFault hall
    have hlt := hm.lt_of_isTaken hlines
    by_cases hnext : m = w.newlines + 1
    · exact .inl (hnext ▸ hm)
    · exact .inr ⟨Nat.pos_of_ne_zero hnone, m, by omega, hm⟩

/-- Whatever way a payload is cut, the lines before the one that a refusal names are taken. That line is the first
at fault, and always so in a payload of characters; but for bytes that are no UTF-8 it may be the one that their
chunk begins in, and the first at fault a later one. -/
theorem line_of_feedEach_error (hwhole : Concat (c :: cs) whole)
    (h : start.feedEach c cs = (.error (.parse n why), d)) :
    (whole.firstLines (n - 1)).IsTaken ∧ (∀ s, whole = .text s → whole.FirstFault n) ∧
      (whole.FirstFault n ∨ ∃ pre x y post reason m, c :: cs = pre ++ .bytes (x ++ 10 :: y) :: post ∧ 10 ∉ x ∧
        why = .invalidUtf8 reason ∧ n = (pre.map Chunk.newlines).sum + 1 ∧ n < m ∧ whole.FirstFault m) := by
  obtain ⟨pre, refused, post, hsplit, htaken, hrefused⟩ := exists_of_feedEach_error h
  rw [hsplit] at hwhole ⊢
  obtain ⟨w, u, v, hpre, hu, hv⟩ := hwhole.split
  obtain ⟨b, hw⟩ := (feedAll_concat hpre isSettled_start).1 htaken
  rcases lines_of_feed_error hw hu hrefused with ⟨k, rfl, hk, hbefore, hfault⟩ | ⟨bs, reason, rfl, hwhy, rfl⟩
  · have hlines : (whole.firstLines k).IsTaken := by rwa [Chunk.firstLines_append hv hk]
    obtain ⟨x, hx⟩ := Chunk.exists_firstLines_append hv (k + 1)
    have hfirst : whole.FirstFault (k + 1) :=
      Chunk.firstFault_succ_iff.2 ⟨hlines, fun ht => hfault (ht.of_append hx)⟩
    exact ⟨hlines, fun _ _ => hfirst, .inl hfirst⟩
  · obtain ⟨hlines, hfault⟩ := firstFault_of_refused hw hu hv hrefused
    refine ⟨hlines, fun s hs => ?_, hfault.imp_right ?_⟩
    · subst hs
      cases hv
      cases hu
    · rintro ⟨hnewlines, m, hm, hfirst⟩
      obtain ⟨x, y, rfl, hx⟩ := List.eq_append_cons_of_mem (List.count_pos_iff.1 hnewlines)
      exact ⟨pre, x, y, post, reason, m, rfl, hx, hwhy, by rw [Chunk.newlines_concat hpre], hm, hfirst⟩

theorem feedEach_type : start.feedEach (.text "# HELP a h\n# TY") [.text "PE a x\n"] =
    (.error (.parse 2 (.unsupportedType "x")), ⟨none, [], 2, ⟨.awaitingType "a", []⟩⟩) := rfl

/-- A payload whose second line is at fault, cut inside of that line. -/
theorem line_of_feedEach_error_type :
    Concat [.text "# HELP a h\n# TY", .text "PE a x\n"] (.text ("# HELP a h\n# TY" ++ "PE a x\n")) ∧
      (start.feedEach (.text "# HELP a h\n# TY") [.text "PE a x\n"]).1 =
        .error (.parse 2 (.unsupportedType "x")) ∧
      (Chunk.text ("# HELP a h\n# TY" ++ "PE a x\n")).FirstFault 2 := by
  have hconcat : Concat [.text "# HELP a h\n# TY", .text "PE a x\n"] (.text ("# HELP a h\n# TY" ++ "PE a x\n")) :=
    .cons (.text _ _) (.cons (.text _ "") .noText)
  obtain ⟨-, hfault, -⟩ := line_of_feedEach_error hconcat feedEach_type
  exact ⟨hconcat, congrArg Prod.fst feedEach_type, hfault _ rfl⟩

/-- The bytes of a HELP line, and one of the next line that begins no character. -/
def helpAndInvalid : List UInt8 := [0x23, 0x20, 0x48, 0x45, 0x4c, 0x50, 0x20, 0x61, 0x20, 0x68, 0x0a, 0xff]

/-- Bytes that are no UTF-8 in a second line are refused under the number of the first, which is not at fault. -/
theorem line_of_invalid_bytes :
    start.feedEach (.bytes helpAndInvalid) [] = (.error (.parse 1 (.invalidUtf8 .invalidStart)), start) ∧
      (Chunk.bytes helpAndInvalid).FirstFault 2 ∧ ¬(Chunk.bytes helpAndInvalid).FirstFault 1 := by
  have hsecond : (Chunk.bytes helpAndInvalid).FirstFault 2 :=
    ⟨1, rfl, false, ⟨none, [], 1, ⟨.awaitingType "a", []⟩⟩, rfl, _, _, rfl⟩
  exact ⟨rfl, hsecond, fun hfirst => absurd (hfirst.unique hsecond) (by decide)⟩

end Decoder

end BpfExporter.Exposition
