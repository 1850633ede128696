import Mathlib.Algebra.GroupWithZero.Nat
import BpfExporter.Proofs.Refusals
import BpfExporter.Proofs.WholeText

/-! Texts cut behind their lines. A newline is a byte of its own, and no byte of a longer character is one. So
bytes are cut behind a line where their characters are, and have as many lines. -/
namespace BpfExporter.Exposition

open Decoder (cutLines)

section

variable {α : Type} [DecidableEq α] {mark : α}

/-- Cuts a list behind the `n`-th mark, or at its end when there are fewer. -/
def cutAfter (mark : α) : Nat → List α → List α × List α
  | 0, xs => ([], xs)
  | _ + 1, [] => ([], [])
  | n + 1, x :: xs =>
    let (first, rest) := cutAfter mark (if x = mark then n else n + 1) xs
    (x :: first, rest)

@[simp] theorem cutAfter_zero (xs : List α) : cutAfter mark 0 xs = ([], xs) := by
  cases xs <;> rfl

@[simp] theorem cutAfter_nil (n : Nat) : cutAfter mark n [] = ([], []) := by
  cases n <;> rfl

theorem cutAfter_mark (n : Nat) (xs : List α) : cutAfter mark (n + 1) (mark :: xs) =
    (mark :: (cutAfter mark n xs).1, (cutAfter mark n xs).2) := by
  rw [cutAfter, if_pos rfl]

theorem cutAfter_of_ne {x : α} (h : x ≠ mark) (n : Nat) (xs : List α) : cutAfter mark (n + 1) (x :: xs) =
    (x :: (cutAfter mark (n + 1) xs).1, (cutAfter mark (n + 1) xs).2) := by
  rw [cutAfter, if_neg h]

theorem cutAfter_succ (n : Nat) (xs : List α) : (cutAfter mark (n + 1) xs).1 =
    (cutAfter mark n xs).1 ++ (cutAfter mark 1 (cutAfter mark n xs).2).1 := by
  induction xs generalizing n with
  | nil => simp
  | cons x xs ih =>
    cases n with
    | zero => simp
    | succ n =>
      by_cases hx : x = mark
      · subst hx
        simp only [cutAfter_mark, ih n, List.cons_append]
      · simp only [cutAfter_of_ne hx, ih (n + 1), List.cons_append]

theorem cutAfter_of_le_count {n : Nat} {xs : List α} (h : n ≤ xs.count mark) (ys : List α) :
    (cutAfter mark n (xs ++ ys)).1 = (cutAfter mark n xs).1 := by
  induction xs generalizing n with
  | nil =>
    obtain rfl := Nat.le_zero.1 h
    simp
  | cons x xs ih =>
    cases n with
    | zero => simp
    | succ n =>
      by_cases hx : x = mark
      · subst hx
        rw [List.count_cons_self] at h
        simp only [List.cons_append, cutAfter_mark, ih (Nat.le_of_succ_le_succ h)]
      · rw [List.count_cons_of_ne hx] at h
        simp only [List.cons_append, cutAfter_of_ne hx, ih h]

theorem cutAfter_of_count_lt {n : Nat} {xs : List α} (h : xs.count mark < n) : cutAfter mark n xs = (xs, []) := by
  induction xs generalizing n with
  | nil => simp
  | cons x xs ih =>
    obtain ⟨n, rfl⟩ := Nat.exists_eq_succ_of_ne_zero (Nat.ne_of_gt (Nat.zero_lt_of_lt h))
    by_cases hx : x = mark
    · subst hx
      rw [List.count_cons_self] at h
      rw [Nat.succ_eq_add_one, cutAfter_mark, ih (Nat.lt_of_succ_lt_succ h)]
    · rw [List.count_cons_of_ne hx] at h
      rw [Nat.succ_eq_add_one, cutAfter_of_ne hx, ih h]

theorem exists_cutAfter_append (n : Nat) (xs ys : List α) :
    ∃ zs, (cutAfter mark n (xs ++ ys)).1 = (cutAfter mark n xs).1 ++ zs := by
  induction xs generalizing n with
  | nil => exact ⟨_, by rw [cutAfter_nil]; rfl⟩
  | cons x xs ih =>
    cases n with
    | zero => exact ⟨[], by simp⟩
    | succ n =>
      by_cases hx : x = mark
      · subst hx
        obtain ⟨zs, hzs⟩ := ih n
        exact ⟨zs, by simp only [List.cons_append, cutAfter_mark, hzs]⟩
      · obtain ⟨zs, hzs⟩ := ih (n + 1)
        exact ⟨zs, by simp only [List.cons_append, cutAfter_of_ne hx, hzs]⟩

end

theorem cutAfter_line {line : List Char} (h : '\n' ∉ line) (n : Nat) (cs : List Char) :
    (cutAfter '\n' (n + 1) (line ++ '\n' :: cs)).1 = line ++ '\n' :: (cutAfter '\n' n cs).1 := by
  induction line with
  | nil => simp only [List.nil_append, cutAfter_mark]
  | cons c line ih =>
    have hc : c ≠ '\n' := fun e => h (e ▸ List.mem_cons_self)
    have hline : '\n' ∉ line := fun m => h (List.mem_cons_of_mem _ m)
    simp only [List.cons_append, cutAfter_of_ne hc, ih hline]

theorem cutAfter_unlines {lines : List (List Char)} (h : ∀ line ∈ lines, '\n' ∉ line) (cs : List Char) :
    (cutAfter '\n' lines.length (unlines lines ++ cs)).1 = unlines lines := by
  induction lines with
  | nil => simp
  | cons line lines ih =>
    obtain ⟨hline, hlines⟩ := List.forall_mem_cons.1 h
    rw [unlines_cons, List.append_assoc, List.cons_append, List.length_cons, cutAfter_line hline, ih hlines]

theorem count_unlines {lines : List (List Char)} (h : ∀ line ∈ lines, '\n' ∉ line) :
    (unlines lines).count '\n' = lines.length := by
  induction lines with
  | nil => rfl
  | cons line lines ih =>
    obtain ⟨hline, hlines⟩ := List.forall_mem_cons.1 h
    rw [unlines_cons, List.count_append, List.count_cons_self, ih hlines, List.count_eq_zero_of_not_mem hline,
      List.length_cons, Nat.zero_add]

theorem count_newline (cs : List Char) : cs.count '\n' = (cutLines cs).1.length := by
  obtain ⟨hlines, hrest⟩ := not_mem_cutLines cs
  conv => lhs; rw [← unlines_cutLines cs]
  rw [List.count_append, count_unlines hlines, List.count_eq_zero_of_not_mem hrest, Nat.add_zero]

end BpfExporter.Exposition

/-! ### Newlines among bytes -/

namespace BpfExporter.Utf8

/-- What holds of a sequence that has begun: no byte goes on with it, or only one that is no newline, and then the
character is none either. -/
def Partial.IsHeld (p : Partial) : Prop :=
  p.high < p.low ∨ 0x80 ≤ p.low ∧ 2 ≤ p.bits * 64 + (p.low - 0x80) ∧ (p.more = 0 → 2 ≤ p.bits)

theorem eq_newline_iff {b : UInt8} : b = 10 ↔ b.toNat = 10 := by
  rw [← UInt8.toNat_inj]
  rfl

theorem ofNat_eq_newline {n : Nat} (h : Char.ofNat n = '\n') : n = 10 := by
  by_cases hn : n.isValidChar
  · rw [Char.ofNat, dif_pos hn] at h
    exact congrArg Char.toNat h
  · rw [Char.ofNat, dif_neg hn] at h
    cases h

theorem newline_of_begin? {b : UInt8} {c : Char} (h : begin? b = some (.char c)) : c = '\n' ↔ b = 10 := by
  unfold begin? at h
  simp only at h
  split at h
  · obtain rfl := Progress.char.inj (Option.some.inj h)
    refine ⟨fun hc => eq_newline_iff.2 (ofNat_eq_newline hc), fun hb => ?_⟩
    rw [hb]
    rfl
  · repeat' split at h
    all_goals cases h

theorem isHeld_of_begin? {b : UInt8} {p : Partial} (h : begin? b = some (.wait p)) : b ≠ 10 ∧ p.IsHeld := by
  rw [Ne, eq_newline_iff]
  unfold begin? at h
  simp only at h
  split at h
  · cases h
  split at h
  · cases h
  split at h
  · obtain rfl := Progress.wait.inj (Option.some.inj h)
    exact ⟨by omega, .inr ⟨Nat.le_refl _, by simp only; omega, by simp only; omega⟩⟩
  split at h
  · obtain rfl := Progress.wait.inj (Option.some.inj h)
    refine ⟨by omega, .inr ⟨?_, ?_, nofun⟩⟩ <;> simp only <;> split <;> omega
  split at h
  · obtain rfl := Progress.wait.inj (Option.some.inj h)
    refine ⟨by omega, .inr ⟨?_, ?_, nofun⟩⟩ <;> simp only <;> split <;> omega
  · cases h

theorem newline_of_continue? {p : Partial} {b : UInt8} {c : Char} (hp : p.IsHeld)
    (h : continue? p b = some (.char c)) : c ≠ '\n' ∧ b ≠ 10 := by
  rw [Ne, Ne, eq_newline_iff]
  unfold continue? at h
  simp only at h
  split at h
  · next hb =>
    rcases hp with hempty | ⟨hlow, hbits, hmore⟩
    · omega
    split at h
    · next hlast =>
      obtain rfl := Progress.char.inj (Option.some.inj h)
      have htwo := hmore hlast
      refine ⟨fun hc => ?_, by omega⟩
      have := ofNat_eq_newline hc
      omega
    · cases h
  · split at h <;> cases h

theorem isHeld_of_continue? {p q : Partial} {b : UInt8} (hp : p.IsHeld)
    (h : continue? p b = some (.wait q)) : b ≠ 10 ∧ q.IsHeld := by
  rw [Ne, eq_newline_iff]
  unfold continue? at h
  simp only at h
  split at h
  · next hb =>
    rcases hp with hempty | ⟨hlow, hbits, hmore⟩
    · omega
    split at h
    · cases h
    · obtain rfl := Progress.wait.inj (Option.some.inj h)
      refine ⟨by omega, .inr ⟨Nat.le_refl _, ?_, fun _ => ?_⟩⟩ <;> simp only <;> omega
  · split at h
    · obtain rfl := Progress.wait.inj (Option.some.inj h)
      exact ⟨by omega, .inl Nat.zero_lt_one⟩
    · cases h

variable {pending last : Option Partial} {b : UInt8} {pos : Nat} {bs : List UInt8} {cs : List Char}

theorem isHeld_none : ∀ p ∈ (none : Option Partial), p.IsHeld := fun _ hp => absurd hp (Option.not_mem_none _)

theorem newline_of_next? (hp : ∀ p ∈ pending, p.IsHeld) {c : Char} (h : next? pending b = some (.char c)) :
    c = '\n' ↔ b = 10 := by
  cases pending with
  | none => exact newline_of_begin? h
  | some p =>
    obtain ⟨hc, hb⟩ := newline_of_continue? (hp p rfl) h
    exact iff_of_false hc hb

theorem isHeld_of_next? (hp : ∀ p ∈ pending, p.IsHeld) {q : Partial} (h : next? pending b = some (.wait q)) :
    b ≠ 10 ∧ q.IsHeld := by
  cases pending with
  | none => exact isHeld_of_begin? h
  | some p => exact isHeld_of_continue? (hp p rfl) h

/-- Bytes that are taken begin with one that gives a character, or with one that is waited behind. -/
theorem decode_cons_cases (h : decode pos pending (b :: bs) = .ok (cs, last)) :
    (∃ c cs', next? pending b = some (.char c) ∧ cs = c :: cs' ∧ decode (pos + 1) none bs = .ok (cs', last)) ∨
      ∃ p, next? pending b = some (.wait p) ∧ decode (pos + 1) (some p) bs = .ok (cs, last) := by
  rw [decode_cons] at h
  split at h
  · next c hnext =>
    cases hd : decode (pos + 1) none bs with
    | error e =>
      rw [hd] at h
      cases h
    | ok r =>
      rw [hd] at h
      obtain ⟨hcs, hlast⟩ := Prod.mk.inj (Except.ok.inj h)
      exact .inl ⟨c, r.1, hnext, hcs.symm, by rw [← hlast]⟩
  · next p hnext => exact .inr ⟨p, hnext, h⟩
  · cases h

theorem count_newline_decode (hp : ∀ p ∈ pending, p.IsHeld) (h : decode pos pending bs = .ok (cs, last)) :
    bs.count 10 = cs.count '\n' := by
  induction bs generalizing pos pending cs with
  | nil =>
    obtain ⟨rfl, -⟩ := Prod.mk.inj (Except.ok.inj h)
    rfl
  | cons b bs ih =>
    rcases decode_cons_cases h with ⟨c, cs', hnext, rfl, hrest⟩ | ⟨p, hnext, hrest⟩
    · have hboth := newline_of_next? hp hnext
      rw [List.count_cons, List.count_cons, ih isHeld_none hrest]
      simp only [beq_iff_eq, hboth]
    · obtain ⟨hb, hheld⟩ := isHeld_of_next? hp hnext
      rw [List.count_cons_of_ne hb]
      exact ih (fun q hq => Option.some.inj hq ▸ hheld) hrest

/-- Bytes are cut behind the newlines that their characters are cut behind. -/
theorem decode_cutAfter (hp : ∀ p ∈ pending, p.IsHeld) (h : decode pos pending bs = .ok (cs, last)) (n : Nat) :
    ∃ mid, decode pos pending (Exposition.cutAfter 10 n bs).1 = .ok ((Exposition.cutAfter '\n' n cs).1, mid) := by
  induction bs generalizing pos pending cs n with
  | nil =>
    obtain ⟨rfl, -⟩ := Prod.mk.inj (Except.ok.inj h)
    exact ⟨pending, by simp [decode]⟩
  | cons b bs ih =>
    cases n with
    | zero => exact ⟨pending, by simp [decode]⟩
    | succ n =>
      rcases decode_cons_cases h with ⟨c, cs', hnext, rfl, hrest⟩ | ⟨p, hnext, hrest⟩
      · have hboth := newline_of_next? hp hnext
        by_cases hb : b = 10
        · obtain ⟨mid, hmid⟩ := ih isHeld_none hrest n
          obtain rfl := hboth.2 hb
          subst hb
          refine ⟨mid, ?_⟩
          rw [Exposition.cutAfter_mark, Exposition.cutAfter_mark, decode_of_char hnext, hmid]
          rfl
        · obtain ⟨mid, hmid⟩ := ih isHeld_none hrest (n + 1)
          refine ⟨mid, ?_⟩
          rw [Exposition.cutAfter_of_ne hb, Exposition.cutAfter_of_ne (mt hboth.1 hb), decode_of_char hnext, hmid]
          rfl
      · obtain ⟨hb, hheld⟩ := isHeld_of_next? hp hnext
        obtain ⟨mid, hmid⟩ := ih (fun q hq => Option.some.inj hq ▸ hheld) hrest (n + 1)
        refine ⟨mid, ?_⟩
        rw [Exposition.cutAfter_of_ne hb, decode_of_wait hnext, hmid]

end BpfExporter.Utf8

namespace BpfExporter.Exposition

/-! ### The lines of a chunk -/

namespace Chunk

/-- The first `n` lines of a chunk, or all of it when there are fewer. -/
def firstLines (n : Nat) : Chunk → Chunk
  | .text s => .text (String.ofList (cutAfter '\n' n s.toList).1)
  | .bytes bs => .bytes (cutAfter 10 n bs).1

/-- The line that follows the first `n`. -/
def lineAfter (n : Nat) : Chunk → Chunk
  | .text s => .text (String.ofList (cutAfter '\n' 1 (cutAfter '\n' n s.toList).2).1)
  | .bytes bs => .bytes (cutAfter 10 1 (cutAfter 10 n bs).2).1

/-- The count of newlines. -/
def newlines : Chunk → Nat
  | .text s => s.toList.count '\n'
  | .bytes bs => bs.count 10

variable {u v w : Chunk} {cs : List Char} {pending : Option Utf8.Partial}

theorem append_ofList (xs ys : List Char) :
    Append (.text (String.ofList xs)) (.text (String.ofList ys)) (.text (String.ofList (xs ++ ys))) := by
  rw [String.ofList_append]
  exact .text _ _

theorem firstLines_succ (n : Nat) (c : Chunk) :
    Append (c.firstLines n) (c.lineAfter n) (c.firstLines (n + 1)) := by
  cases c with
  | text s =>
    rw [firstLines, firstLines, cutAfter_succ]
    exact append_ofList _ _
  | bytes bs =>
    rw [firstLines, firstLines, cutAfter_succ]
    exact .bytes _ _

theorem newlines_append (h : Append u v w) : w.newlines = u.newlines + v.newlines := by
  cases h with
  | text s t => rw [newlines, newlines, newlines, String.toList_append, List.count_append]
  | bytes xs ys => exact List.count_append

theorem newlines_concat {chunks : List Chunk} (h : Concat chunks w) : w.newlines = (chunks.map newlines).sum := by
  induction h with
  | noText => rfl
  | noBytes => rfl
  | cons hwhole _ ih => rw [newlines_append hwhole, ih, List.map_cons, List.sum_cons]

theorem firstLines_append (h : Append u v w) {n : Nat} (hn : n ≤ u.newlines) :
    w.firstLines n = u.firstLines n := by
  cases h with
  | text s t => rw [firstLines, firstLines, String.toList_append, cutAfter_of_le_count hn]
  | bytes xs ys => rw [firstLines, firstLines, cutAfter_of_le_count hn]

theorem exists_firstLines_append (h : Append u v w) (n : Nat) :
    ∃ x, Append (u.firstLines n) x (w.firstLines n) := by
  cases h with
  | text s t =>
    obtain ⟨zs, hzs⟩ := @exists_cutAfter_append _ _ '\n' n s.toList t.toList
    rw [firstLines, firstLines, String.toList_append, hzs]
    exact ⟨_, append_ofList _ _⟩
  | bytes xs ys =>
    obtain ⟨zs, hzs⟩ := @exists_cutAfter_append _ _ 10 n xs ys
    rw [firstLines, firstLines, hzs]
    exact ⟨_, .bytes _ _⟩

theorem firstLines_of_newlines_lt {n : Nat} (h : u.newlines < n) : u.firstLines n = u := by
  cases u with
  | text s => rw [firstLines, cutAfter_of_count_lt h, String.ofList_toList]
  | bytes bs => rw [firstLines, cutAfter_of_count_lt h]

theorem Gives.firstLines (h : u.Gives cs pending) (n : Nat) :
    ∃ mid, (u.firstLines n).Gives (cutAfter '\n' n cs).1 mid := by
  cases u with
  | text s =>
    obtain ⟨rfl, -⟩ := h
    exact ⟨none, String.toList_ofList, rfl⟩
  | bytes bs => exact Utf8.decode_cutAfter Utf8.isHeld_none h n

theorem Gives.newlines (h : u.Gives cs pending) : u.newlines = cs.count '\n' := by
  cases u with
  | text s =>
    obtain ⟨rfl, -⟩ := h
    rfl
  | bytes bs => exact Utf8.count_newline_decode Utf8.isHeld_none h

end Chunk

end BpfExporter.Exposition
