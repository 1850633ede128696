import BpfExporter.Utf8

/-! UTF-8 read in parts. A sequence of bytes may be cut anywhere, since what is pending carries all that a
reader knows, and the bytes of a text give its characters back. -/
namespace BpfExporter.Utf8

open String (utf8EncodeChar)

def next? : Option Partial → UInt8 → Option Progress
  | none, b => begin? b
  | some p, b => continue? p b

def faultAt (pos : Nat) : Option Partial → UInt8 → Fault
  | none, b => ⟨.invalidStart, pos, b, 1⟩
  | some p, _ => ⟨.invalidContinuation, pos - p.read, p.first, p.faultCount⟩

theorem decode_cons (pos : Nat) (pending : Option Partial) (b : UInt8) (bs : List UInt8) :
    decode pos pending (b :: bs) = match next? pending b with
      | some (.char c) => (decode (pos + 1) none bs).map fun r => (c :: r.1, r.2)
      | some (.wait p) => decode (pos + 1) (some p) bs
      | none => .error (faultAt pos pending b) := by
  cases pending <;> rfl

theorem decode_append (pos : Nat) (pending : Option Partial) (xs ys : List UInt8) :
    decode pos pending (xs ++ ys) = match decode pos pending xs with
      | .error e => .error e
      | .ok (cs, p) => (decode (pos + xs.length) p ys).map fun r => (cs ++ r.1, r.2) := by
  induction xs generalizing pos pending with
  | nil => cases h : decode pos pending ys <;> simp [decode, h, Except.map]
  | cons b xs ih =>
    have hpos : pos + (b :: xs).length = pos + 1 + xs.length := by simp; omega
    rw [hpos, List.cons_append, decode_cons, decode_cons]
    cases next? pending b with
    | none => rfl
    | some next =>
      cases next with
      | wait p => exact ih (pos + 1) (some p)
      | char c =>
        simp only [ih]
        cases hx : decode (pos + 1) none xs with
        | error e => simp [Except.map]
        | ok r => cases hy : decode (pos + 1 + xs.length) r.2 ys <;> simp [Except.map, hy]

/-- Where a chunk starts is told by its faults alone. -/
theorem decode_ok_of_ok {pos : Nat} {pending : Option Partial} {bs : List UInt8}
    {r : List Char × Option Partial} (h : decode pos pending bs = .ok r) (pos' : Nat) :
    decode pos' pending bs = .ok r := by
  induction bs generalizing pos pos' pending r with
  | nil => simpa [decode] using h
  | cons b bs ih =>
    rw [decode_cons] at h ⊢
    cases hn : next? pending b with
    | none => simp [hn] at h
    | some next =>
      rw [hn] at h
      cases next with
      | wait p => exact ih h (pos' + 1)
      | char c =>
        cases hd : decode (pos + 1) none bs with
        | error e => simp [hd, Except.map] at h
        | ok q => simpa [ih hd (pos' + 1), hd, Except.map] using h

/-- Bytes after others that are taken are taken or refused as they are by themselves. -/
theorem decode_append_cases {pending pending' : Option Partial} {xs : List UInt8} {cs : List Char}
    (h : decode 0 pending xs = .ok (cs, pending')) (ys : List UInt8) :
    (∃ e e', decode 0 pending' ys = .error e ∧ decode 0 pending (xs ++ ys) = .error e') ∨
      ∃ cs' last, decode 0 pending' ys = .ok (cs', last) ∧
        decode 0 pending (xs ++ ys) = .ok (cs ++ cs', last) := by
  rw [decode_append, h]
  cases hy : decode 0 pending' ys with
  | ok r => exact .inr ⟨r.1, r.2, rfl, by simp only [decode_ok_of_ok hy (0 + xs.length), Except.map]⟩
  | error e =>
    cases hy' : decode (0 + xs.length) pending' ys with
    | error e' => exact .inl ⟨e, e', rfl, by simp only [hy', Except.map]⟩
    | ok r =>
      rw [decode_ok_of_ok hy' 0] at hy
      cases hy

theorem decode_of_char {pending : Option Partial} {b : UInt8} {c : Char}
    (h : next? pending b = some (.char c)) (pos : Nat) (bs : List UInt8) :
    decode pos pending (b :: bs) = (decode (pos + 1) none bs).map fun r => (c :: r.1, r.2) := by
  rw [decode_cons, h]

theorem decode_of_wait {pending : Option Partial} {b : UInt8} {p : Partial}
    (h : next? pending b = some (.wait p)) (pos : Nat) (bs : List UInt8) :
    decode pos pending (b :: bs) = decode (pos + 1) (some p) bs := by
  rw [decode_cons, h]

theorem next?_ascii {b : UInt8} (h : b.toNat < 0x80) :
    next? none b = some (.char (Char.ofNat b.toNat)) := by
  simp [next?, begin?, h]

theorem next?_two {b : UInt8} (h : 0xc2 ≤ b.toNat) (h' : b.toNat < 0xe0) :
    next? none b = some (.wait ⟨b.toNat - 0xc0, 0x80, 0xbf, 0, b, 1⟩) := by
  simp only [next?, begin?]
  rw [if_neg (by omega), if_neg (by omega), if_pos h']

theorem next?_three {b : UInt8} (h : 0xe0 ≤ b.toNat) (h' : b.toNat < 0xf0) :
    next? none b = some (.wait ⟨b.toNat - 0xe0, if b.toNat = 0xe0 then 0xa0 else 0x80,
      if b.toNat = 0xed then 0x9f else 0xbf, 1, b, 1⟩) := by
  simp only [next?, begin?]
  rw [if_neg (by omega), if_neg (by omega), if_neg (by omega), if_pos h']

theorem next?_four {b : UInt8} (h : 0xf0 ≤ b.toNat) (h' : b.toNat < 0xf5) :
    next? none b = some (.wait ⟨b.toNat - 0xf0, if b.toNat = 0xf0 then 0x90 else 0x80,
      if b.toNat = 0xf4 then 0x8f else 0xbf, 2, b, 1⟩) := by
  simp only [next?, begin?]
  rw [if_neg (by omega), if_neg (by omega), if_neg (by omega), if_neg (by omega), if_pos h']

theorem next?_last {p : Partial} {b : UInt8} (hl : p.low ≤ b.toNat) (hh : b.toNat ≤ p.high)
    (hm : p.more = 0) :
    next? (some p) b = some (.char (Char.ofNat (p.bits * 64 + (b.toNat - 0x80)))) := by
  simp [next?, continue?, hl, hh, hm]

theorem next?_more {p : Partial} {b : UInt8} {m : Nat} (hl : p.low ≤ b.toNat)
    (hh : b.toNat ≤ p.high) (hm : p.more = m + 1) :
    next? (some p) b =
      some (.wait ⟨p.bits * 64 + (b.toNat - 0x80), 0x80, 0xbf, m, p.first, p.read + 1⟩) := by
  simp [next?, continue?, hl, hh, hm]

theorem toNat_ofNat_of_lt {n : Nat} (h : n < 256) : (UInt8.ofNat n).toNat = n := by
  simp; omega

theorem decode_utf8EncodeChar (c : Char) (pos : Nat) (bs : List UInt8) :
    decode pos none (utf8EncodeChar c ++ bs) =
      (decode (pos + (utf8EncodeChar c).length) none bs).map fun r => (c :: r.1, r.2) := by
  have hv : c.toNat < 0xd800 ∨ 0xdfff < c.toNat ∧ c.toNat < 0x110000 := c.valid
  have hc : Char.ofNat c.toNat = c := Char.ofNat_toNat c
  unfold utf8EncodeChar
  simp only [show c.val.toNat = c.toNat from rfl]
  generalize c.toNat = v at hv hc
  split
  · next h1 =>
    have hb := toNat_ofNat_of_lt (n := v) (by omega)
    have h := next?_ascii (b := UInt8.ofNat v) (by omega)
    rw [hb, hc] at h
    exact decode_of_char h pos bs
  split
  · next h1 h2 =>
    have hb := toNat_ofNat_of_lt (n := v / 64 % 32 + 192) (by omega)
    have hd := toNat_ofNat_of_lt (n := v % 64 + 128) (by omega)
    simp only [List.cons_append, List.nil_append]
    rw [decode_of_wait (next?_two (by omega) (by omega)),
      decode_of_char (next?_last (by simp only; omega) (by simp only; omega) rfl)]
    have hbits : (v / 64 % 32 + 192 - 0xc0) * 64 + (v % 64 + 128 - 0x80) = v := by omega
    simp only [hb, hd, hbits, hc, List.length_cons, List.length_nil, Nat.add_assoc]
  split
  · next h1 h2 h3 =>
    have hb := toNat_ofNat_of_lt (n := v / 4096 % 16 + 224) (by omega)
    have hd := toNat_ofNat_of_lt (n := v / 64 % 64 + 128) (by omega)
    have he := toNat_ofNat_of_lt (n := v % 64 + 128) (by omega)
    simp only [List.cons_append, List.nil_append]
    rw [decode_of_wait (next?_three (by omega) (by omega)),
      decode_of_wait (next?_more (by simp only; split <;> omega) (by simp only; split <;> omega) rfl),
      decode_of_char (next?_last (by simp only; omega) (by simp only; omega) rfl)]
    have hbits : ((v / 4096 % 16 + 224 - 0xe0) * 64 + (v / 64 % 64 + 128 - 0x80)) * 64 +
        (v % 64 + 128 - 0x80) = v := by omega
    simp only [hb, hd, he, hbits, hc, List.length_cons, List.length_nil, Nat.add_assoc]
  · next h1 h2 h3 =>
    have hb := toNat_ofNat_of_lt (n := v / 262144 % 8 + 240) (by omega)
    have hd := toNat_ofNat_of_lt (n := v / 4096 % 64 + 128) (by omega)
    have he := toNat_ofNat_of_lt (n := v / 64 % 64 + 128) (by omega)
    have hf := toNat_ofNat_of_lt (n := v % 64 + 128) (by omega)
    simp only [List.cons_append, List.nil_append]
    rw [decode_of_wait (next?_four (by omega) (by omega)),
      decode_of_wait (next?_more (by simp only; split <;> omega) (by simp only; split <;> omega) rfl),
      decode_of_wait (next?_more (by simp only; omega) (by simp only; omega) rfl),
      decode_of_char (next?_last (by simp only; omega) (by simp only; omega) rfl)]
    have hbits : (((v / 262144 % 8 + 240 - 0xf0) * 64 + (v / 4096 % 64 + 128 - 0x80)) * 64 +
        (v / 64 % 64 + 128 - 0x80)) * 64 + (v % 64 + 128 - 0x80) = v := by omega
    simp only [hb, hd, he, hf, hbits, hc, List.length_cons, List.length_nil, Nat.add_assoc]

theorem decode_flatMap (cs : List Char) (pos : Nat) :
    decode pos none (cs.flatMap utf8EncodeChar) = .ok (cs, none) := by
  induction cs generalizing pos with
  | nil => rfl
  | cons c cs ih =>
    rw [List.flatMap_cons, decode_utf8EncodeChar, ih]
    rfl

def encode (s : String) : List UInt8 := s.toUTF8.data.toList

theorem encode_eq_flatMap (s : String) : encode s = s.toList.flatMap utf8EncodeChar := by
  have h : s.toByteArray = s.toList.utf8Encode := by
    rw [← String.toByteArray_ofList, String.ofList_toList]
  simp [encode, String.toUTF8, h, List.utf8Encode]

theorem decode_encode (s : String) (pos : Nat) : decode pos none (encode s) = .ok (s.toList, none) := by
  rw [encode_eq_flatMap, decode_flatMap]

end BpfExporter.Utf8
