import Mathlib.Data.Nat.Digits.Lemmas
import BpfExporter.Bpftool
import BpfExporter.Proofs.Assoc

/-! Objects of a listing as snapshots. An object with a number of 32 bits, texts, a tag in hexadecimal digits, a
second of the calendar and numbers in their bounds is never refused: its record is the snapshot that it describes,
and nothing else that it has counts. -/
namespace BpfExporter

namespace Numeral

/-! ### Hexadecimal digits -/

def hexDigits : List Char := "0123456789abcdefABCDEF".toList

def hexValue (cs : List Char) : Nat :=
  Nat.ofDigits 16 (cs.reverse.map fun c => "0123456789abcdef".toList.idxOf c.toLower)

/-- The last hexadecimal digits of a number, so many of them. -/
def hexText : Nat → Nat → List Char
  | 0, _ => []
  | width + 1, n => hexText width (n / 16) ++ [Nat.digitChar (n % 16)]

theorem plain_hexDigits : ∀ c ∈ hexDigits, Text.isWhiteSpace c = false ∧ Text.asciiDigit c = c := by
  have hall : hexDigits.all (fun c => !Text.isWhiteSpace c && Text.asciiDigit c == c) = true := by decide +kernel
  simpa using hall

theorem value_hexDigits : ∀ c ∈ hexDigits, isHexDigit c = true ∧
    hexDigitValue c = "0123456789abcdef".toList.idxOf c.toLower ∧ hexDigitValue c < 16 := by
  have hall : hexDigits.all (fun c => isHexDigit c &&
      (hexDigitValue c == "0123456789abcdef".toList.idxOf c.toLower && decide (hexDigitValue c < 16))) = true := by
    decide +kernel
  simpa only [List.all_eq_true, Bool.and_eq_true, beq_iff_eq, decide_eq_true_eq] using hall

theorem mark_not_mem_hexDigits : ∀ c ∈ hexDigits, c ≠ '_' ∧ c ≠ '-' ∧ c ≠ '+' ∧ c ≠ 'x' ∧ c ≠ 'X' := by
  have hall : hexDigits.all (fun c => c != '_' && (c != '-' && (c != '+' && (c != 'x' && c != 'X')))) = true := by
    decide
  simpa only [List.all_eq_true, Bool.and_eq_true, bne_iff_ne] using hall

variable {cs : List Char}

theorem value_append (base : Nat) (digit : Char → Nat) (cs : List Char) (c : Char) :
    value base digit (cs ++ [c]) = base * value base digit cs + digit c := by
  rw [value, value, List.foldl_append]
  rfl

theorem value_hexDigitValue (h : ∀ c ∈ cs, c ∈ hexDigits) : value 16 hexDigitValue cs = hexValue cs := by
  induction cs using List.reverseRecOn with
  | nil => rfl
  | append_singleton cs c ih =>
    obtain ⟨hcs, hc⟩ := List.forall_mem_append.1 h
    obtain ⟨-, hdigit, -⟩ := value_hexDigits c (hc c List.mem_cons_self)
    rw [value_append, ih hcs, hdigit, hexValue, hexValue, List.reverse_append, List.reverse_singleton,
      List.singleton_append, List.map_cons, Nat.ofDigits_cons, Nat.add_comm]

theorem hexValue_lt (h : ∀ c ∈ cs, c ∈ hexDigits) : hexValue cs < 16 ^ cs.length := by
  have hlt := Nat.ofDigits_lt_base_pow_length (b := 16)
    (l := cs.reverse.map fun c => "0123456789abcdef".toList.idxOf c.toLower) (by decide) (by
      intro d hd
      obtain ⟨c, hc, rfl⟩ := List.mem_map.1 hd
      obtain ⟨-, hdigit, hlt⟩ := value_hexDigits c (h c (List.mem_reverse.1 hc))
      rwa [← hdigit])
  rwa [List.length_map, List.length_reverse] at hlt

theorem plainDigits_of_hexDigits {t : String} (h : ∀ c ∈ t.toList, c ∈ hexDigits) : plainDigits t = t.toList := by
  have hkept : ∀ cs : List Char, (∀ c ∈ cs, c ∈ hexDigits) → cs.dropWhile Text.isWhiteSpace = cs := by
    intro cs hcs
    cases cs with
    | nil => rfl
    | cons c cs => rw [List.dropWhile_cons_of_neg (by simp [(plain_hexDigits c (hcs c List.mem_cons_self)).1])]
  have hreverse : ∀ c ∈ t.toList.reverse, c ∈ hexDigits := fun c hc => h c (List.mem_reverse.1 hc)
  rw [plainDigits, Text.trimBoth, hkept _ h, hkept _ hreverse, List.reverse_reverse]
  exact (List.map_congr_left fun c hc => (plain_hexDigits c (h c hc)).2).trans (List.map_id' _)

theorem splitSign_of_hexDigits (h : ∀ c ∈ cs, c ∈ hexDigits) : splitSign cs = (false, cs) := by
  unfold splitSign
  split
  · exact absurd rfl (mark_not_mem_hexDigits _ (h _ List.mem_cons_self)).2.1
  · exact absurd rfl (mark_not_mem_hexDigits _ (h _ List.mem_cons_self)).2.2.1
  · rfl

theorem dropHexMark_of_hexDigits (h : ∀ c ∈ cs, c ∈ hexDigits) : dropHexMark cs = cs := by
  unfold dropHexMark
  split
  · next x cs' =>
    obtain ⟨-, -, -, hsmall, hgreat⟩ := mark_not_mem_hexDigits x (h x (by simp))
    simp [hsmall, hgreat]
  · rfl

theorem ungroup_of_hexDigits (h : ∀ c ∈ cs, c ∈ hexDigits) (hne : cs ≠ []) : ungroup isHexDigit cs = some cs := by
  induction cs with
  | nil => exact absurd rfl hne
  | cons c cs ih =>
    obtain ⟨hc, hcs⟩ := List.forall_mem_cons.1 h
    have hdigit := (value_hexDigits c hc).1
    cases cs with
    | nil => rw [ungroup, if_pos hdigit]
    | cons d ds =>
      have hd : d ≠ '_' := (mark_not_mem_hexDigits d (hcs d List.mem_cons_self)).1
      rw [ungroup, if_pos hdigit, ih hcs (by simp)]
      · rfl
      all_goals simp [hd]

theorem readHex?_of_hexDigits {t : String} (h : ∀ c ∈ t.toList, c ∈ hexDigits) (hne : t ≠ "") :
    readHex? t = some (hexValue t.toList : Int) := by
  have hchars : t.toList ≠ [] := by simpa using hne
  rw [readHex?, plainDigits_of_hexDigits h, splitSign_of_hexDigits h]
  simp only [dropHexMark_of_hexDigits h, ungroup_of_hexDigits h hchars, Option.map_some, value_hexDigitValue h]
  rfl

theorem length_hexText (width n : Nat) : (hexText width n).length = width := by
  induction width generalizing n with
  | zero => rfl
  | succ width ih => rw [hexText, List.length_append, ih, List.length_singleton]

theorem digitChar_mem_hexDigits : ∀ d < 16, Nat.digitChar d ∈ hexDigits ∧ hexDigitValue (Nat.digitChar d) = d := by
  decide

theorem mem_hexDigits_of_mem_hexText (width n : Nat) : ∀ c ∈ hexText width n, c ∈ hexDigits := by
  induction width generalizing n with
  | zero => exact nofun
  | succ width ih =>
    rw [hexText, List.forall_mem_append]
    refine ⟨ih _, fun c hc => ?_⟩
    rw [List.mem_singleton.1 hc]
    exact (digitChar_mem_hexDigits _ (Nat.mod_lt n (by decide))).1

theorem hexValue_hexText (width n : Nat) : hexValue (hexText width n) = n % 16 ^ width := by
  rw [← value_hexDigitValue (mem_hexDigits_of_mem_hexText width n)]
  induction width generalizing n with
  | zero => rw [Nat.pow_zero, Nat.mod_one]; rfl
  | succ width ih =>
    rw [hexText, value_append, ih, (digitChar_mem_hexDigits _ (Nat.mod_lt n (by decide))).2, Nat.pow_succ,
      Nat.mul_comm (16 ^ width), Nat.mod_mul]
    omega

end Numeral

/-! ### The parts of a record -/

namespace Instant

def startOfYear (year : Nat) : Int := daysFromEpoch year 1 1 * 86400

theorem ofSeconds_of_years {n : Int} (hfirst : startOfYear 1 ≤ n) (hlast : n < startOfYear 10000) :
    ofSeconds n = .ok ⟨n * 1000000⟩ := by
  have hone : startOfYear 1 = firstSecond := by decide
  have hend : startOfYear 10000 = lastSecond + 1 := by decide
  rw [hone] at hfirst
  rw [hend] at hlast
  have hsecond : Int.fdiv (n * 1000000) 1000000 = n := Int.mul_fdiv_cancel n (by decide)
  simp only [ofSeconds, ofMicros, hsecond]
  unfold firstSecond at *
  unfold lastSecond at *
  unfold firstYearSecond lastYearSecond
  rw [if_neg (by omega), if_neg (by omega), if_neg (by omega)]

end Instant

theorem Validation.intBetween_int {low high n : Int} (hlow : low ≤ n) (hhigh : n ≤ high) :
    intBetween low high (.int n) = .ok ⟨n, hlow, hhigh⟩ := by
  rw [intBetween, int]
  simp only [dif_neg (Int.not_lt.2 hlow), dif_neg (Int.not_lt.2 hhigh)]

namespace Bpftool

open Snapshot (check)

/-- The object is one of the listing of a subject: what is kept of it has its type and is in its bounds. -/
structure IsListed (s : Subject) (o : Json) : Prop where
  id : ∃ n : Nat, o.field? "id" = some (.int n) ∧ n < 2 ^ 32
  typeName : o.field? "type" = none ∨ ∃ t, o.field? "type" = some (.str t)
  name : o.field? "name" = none ∨ ∃ t, o.field? "name" = some (.str t)
  tag : o.field? "tag" = none ∨ o.field? "tag" = some .null ∨
    ∃ t, o.field? "tag" = some (.str t) ∧ t ≠ "" ∧ t.length ≤ 16 ∧ ∀ c ∈ t.toList, c ∈ Numeral.hexDigits
  loadedAt : o.field? "loaded_at" = none ∨ o.field? "loaded_at" = some .null ∨
    ∃ n, o.field? "loaded_at" = some (.int n) ∧ Instant.startOfYear 1 ≤ n ∧ n < Instant.startOfYear 10000
  numbers : ∀ key ∈ numberKeys s, ∀ n, o.field? key = some (.int n) → -2 ^ 63 ≤ n ∧ n < 2 ^ 64

/-- The snapshot says what the object says. -/
structure Describes (s : Subject) (o : Json) (snapshot : Snapshot) : Prop where
  id : o.field? "id" = some (.int snapshot.id)
  typeName : o.field? "type" = some (.str snapshot.typeName) ∨ o.field? "type" = none ∧ snapshot.typeName = ""
  name : o.field? "name" = some (.str snapshot.name) ∨ o.field? "name" = none ∧ snapshot.name = ""
  tag : (∃ t, o.field? "tag" = some (.str t) ∧ snapshot.tag = some (Numeral.hexValue t.toList)) ∨
    o.fieldD "tag" = .null ∧ snapshot.tag = none
  loadedAt : (∃ n, o.field? "loaded_at" = some (.int n) ∧ snapshot.loadedAt = some ⟨n * 1000000⟩) ∨
    o.fieldD "loaded_at" = .null ∧ snapshot.loadedAt = none
  keys : (snapshot.fields.map Prod.fst).Sublist (numberKeys s)
  valueOf? : ∀ key n, snapshot.valueOf? key = some n ↔ key ∈ numberKeys s ∧ o.field? key = some (.int n)

/-- Two objects have the same in all that is kept of them. -/
structure Agree (s : Subject) (o o' : Json) : Prop where
  kept : ∀ key ∈ ["id", "type", "name", "tag", "loaded_at"], o.field? key = o'.field? key
  numbers : ∀ key ∈ numberKeys s, ∀ n, o.field? key = some (.int n) ↔ o'.field? key = some (.int n)

variable {s : Subject} {o o' : Json}

def number? (o : Json) (key : String) : Option Int :=
  match o.field? key with
  | some (.int n) => some n
  | _ => none

theorem number?_eq_some_iff {key : String} {n : Int} : number? o key = some n ↔ o.field? key = some (.int n) := by
  unfold number?
  split <;> simp_all

def fields (s : Subject) (o : Json) : List (String × Int) :=
  (numberKeys s).filterMap fun key => (number? o key).map fun n => (key, n)

theorem mem_fields {p : String × Int} : p ∈ fields s o ↔ p.1 ∈ numberKeys s ∧ o.field? p.1 = some (.int p.2) := by
  simp only [fields, List.mem_filterMap, Option.map_eq_some_iff, number?_eq_some_iff]
  constructor
  · rintro ⟨key, hkey, n, hn, rfl⟩
    exact ⟨hkey, hn⟩
  · rintro ⟨hkey, hn⟩
    exact ⟨p.1, hkey, p.2, hn, rfl⟩

theorem keys_fields (s : Subject) (o : Json) : ((fields s o).map Prod.fst).Sublist (numberKeys s) := by
  rw [fields]
  induction numberKeys s with
  | nil => exact .slnil
  | cons key keys ih =>
    rw [List.filterMap_cons]
    cases number? o key with
    | none => exact ih.cons key
    | some n => exact ih.cons_cons key

theorem get?_fields {key : String} {n : Int} :
    Assoc.get? key (fields s o) = some n ↔ key ∈ numberKeys s ∧ o.field? key = some (.int n) := by
  have hnodup : (numberKeys s).Nodup := by cases s <;> decide
  rw [← Assoc.mem_iff_get? (p := (key, n)) ((keys_fields s o).nodup hnodup), mem_fields]

theorem numbers_eq (s : Subject) (o : Json) : numbers s o = (fields s o).map fun p => (p.1, .int p.2) := by
  rw [numbers, fields, List.map_filterMap]
  congr 1
  funext key
  unfold number?
  split <;> simp_all

theorem Agree.normalize_eq (h : Agree s o o') : normalize s o = normalize s o' := by
  have hnumber : ∀ key ∈ numberKeys s, number? o key = number? o' key := fun key hkey =>
    Option.ext fun n => by rw [number?_eq_some_iff, number?_eq_some_iff, h.numbers key hkey]
  have hfields : fields s o = fields s o' := List.filterMap_congr fun key hkey => by rw [hnumber key hkey]
  have hkept := h.kept
  simp only [List.forall_mem_cons, List.not_mem_nil, false_implies, implies_true, and_true] at hkept
  obtain ⟨hid, htype, hname, htag, hloadedAt⟩ := hkept
  simp only [normalize, numbers_eq, textOf, Json.fieldD, hid, htype, hname, htag, hloadedAt, hfields]

/-! ### The checks of the parts -/

theorem checkId_normalize (h : IsListed s o) :
    ∃ id, Snapshot.checkId (normalize s o) = .ok id ∧ o.field? "id" = some (.int id.1) := by
  obtain ⟨n, hn, hlt⟩ := h.id
  have hfield : (normalize s o).field? "id" = some (.int n) := by
    show some (o.fieldD "id") = _
    rw [Json.fieldD, hn]
    rfl
  have hmax : (n : Int) ≤ Snapshot.maxId := by
    unfold Snapshot.maxId
    omega
  refine ⟨⟨n, Int.ofNat_le.1 hmax⟩, ?_, hn⟩
  rw [Snapshot.checkId, hfield]
  simp only [Validation.intBetween_int (Int.natCast_nonneg n) hmax]
  rfl

theorem textOf_cases {key : String} (h : o.field? key = none ∨ ∃ t, o.field? key = some (.str t)) :
    o.field? key = some (.str (textOf key o)) ∨ o.field? key = none ∧ textOf key o = "" := by
  rw [textOf]
  rcases h with hnone | ⟨t, ht⟩
  · exact .inr ⟨hnone, by rw [hnone]; rfl⟩
  · exact .inl (by rw [ht]; rfl)

theorem checkTag_normalize (h : IsListed s o) : ∃ tag, Snapshot.checkTag (normalize s o) = .ok tag ∧
    ((∃ t, o.field? "tag" = some (.str t) ∧ tag.1 = some (Numeral.hexValue t.toList)) ∨
      o.fieldD "tag" = .null ∧ tag.1 = none) := by
  have hfield : (normalize s o).fieldD "tag" = o.fieldD "tag" := rfl
  rw [Snapshot.checkTag, hfield, Json.fieldD]
  rcases h.tag with hnone | hnull | ⟨t, ht, hne, hlength, hdigits⟩
  · rw [hnone]
    exact ⟨⟨none, Snapshot.le_maxTag_of_mem_none⟩, rfl, .inr ⟨rfl, rfl⟩⟩
  · rw [hnull]
    exact ⟨⟨none, Snapshot.le_maxTag_of_mem_none⟩, rfl, .inr ⟨rfl, rfl⟩⟩
  · have hlt : Numeral.hexValue t.toList < 16 ^ 16 :=
      (Numeral.hexValue_lt hdigits).trans_le (Nat.pow_le_pow_right (by decide) hlength)
    have hmax : (Numeral.hexValue t.toList : Int) ≤ Snapshot.maxTag := by
      unfold Snapshot.maxTag
      omega
    have hbetween := Validation.intBetween_int (Int.natCast_nonneg _) hmax
    refine ⟨⟨some (Numeral.hexValue t.toList), fun _ hn => Option.some.inj hn ▸ Int.ofNat_le.1 hmax⟩, ?_,
      .inl ⟨t, ht, rfl⟩⟩
    rw [ht, Option.getD_some]
    simp only [Snapshot.tagNumber, Numeral.readHex?_of_hexDigits hdigits hne, hbetween]
    rfl

theorem checkLoadedAt_normalize (h : IsListed s o) : ∃ loadedAt,
    Snapshot.checkLoadedAt (normalize s o) = .ok (.ok loadedAt) ∧
    ((∃ n, o.field? "loaded_at" = some (.int n) ∧ loadedAt = some ⟨n * 1000000⟩) ∨
      o.fieldD "loaded_at" = .null ∧ loadedAt = none) := by
  have hfield : (normalize s o).fieldD "loaded_at" = o.fieldD "loaded_at" := rfl
  rw [Snapshot.checkLoadedAt, hfield, Json.fieldD]
  rcases h.loadedAt with hnone | hnull | ⟨n, hn, hfirst, hlast⟩
  · rw [hnone]
    exact ⟨none, rfl, .inr ⟨rfl, rfl⟩⟩
  · rw [hnull]
    exact ⟨none, rfl, .inr ⟨rfl, rfl⟩⟩
  · refine ⟨some ⟨n * 1000000⟩, ?_, .inl ⟨n, hn, rfl⟩⟩
    rw [hn, Option.getD_some]
    simp only [Instant.ofSeconds_of_years hfirst hlast]
    rfl

def boundedFields (h : IsListed s o) : List Snapshot.BoundedField :=
  (fields s o).pmap Subtype.mk fun p hp => by
    obtain ⟨hkey, hn⟩ := mem_fields.1 hp
    obtain ⟨hlow, hhigh⟩ := h.numbers p.1 hkey p.2 hn
    exact ⟨hlow, Int.le_of_lt_add_one hhigh⟩

theorem map_val_boundedFields (h : IsListed s o) : (boundedFields h).map Subtype.val = fields s o := by
  rw [boundedFields, List.map_pmap]
  exact (List.pmap_eq_map _).trans (List.map_id' _)

theorem checkFields_normalize (h : IsListed s o) : Snapshot.checkFields (normalize s o) = .ok (boundedFields h) := by
  have hfield : (normalize s o).field? "numeric_fields" = some (.obj (numbers s o)) := rfl
  have hchecked : ∀ f : Snapshot.BoundedField, Snapshot.checkField (f.1.1, .int f.1.2) = .ok f := by
    rintro ⟨f, hlow, hhigh⟩
    rw [Snapshot.checkField, Validation.intBetween_int hlow hhigh]
    rfl
  rw [Snapshot.checkFields, hfield, numbers_eq, ← map_val_boundedFields h, List.map_map]
  refine Validation.Checked.all_eq_ok.2 ?_
  rw [List.map_map]
  exact List.map_congr_left fun f _ => hchecked f

theorem exists_check_normalize (h : IsListed s o) :
    ∃ snapshot, check (normalize s o) = .ok snapshot ∧ Describes s o snapshot := by
  obtain ⟨id, hid, hid'⟩ := checkId_normalize h
  obtain ⟨tag, htag, htag'⟩ := checkTag_normalize h
  obtain ⟨loadedAt, hloadedAt, hloadedAt'⟩ := checkLoadedAt_normalize h
  have htype : Snapshot.checkText "type_name" (normalize s o) = .ok (textOf "type" o) := rfl
  have hname : Snapshot.checkText "name" (normalize s o) = .ok (textOf "name" o) := rfl
  have hfields := checkFields_normalize h
  refine ⟨Snapshot.ofParts id (textOf "type" o) (textOf "name" o) tag (boundedFields h) loadedAt, ?_, ?_⟩
  · rw [normalize] at *
    simp only [check, hloadedAt, hid, htype, hname, htag, hfields]
    rfl
  · have hkept : (Snapshot.ofParts id (textOf "type" o) (textOf "name" o) tag (boundedFields h) loadedAt).fields =
        fields s o := map_val_boundedFields h
    refine ⟨hid', textOf_cases h.typeName, textOf_cases h.name, htag', hloadedAt', ?_, fun key n => ?_⟩
    · rw [hkept]
      exact keys_fields s o
    · rw [Snapshot.valueOf?, hkept]
      exact get?_fields

/-- An object of a listing is the snapshot that it describes, whatever else it has. A tag is the number of its
hexadecimal digits, so a number of 64 bits that is written in sixteen of them is read back. -/
theorem check_normalize_of_isListed (h : IsListed s o) :
    (∃ snapshot, check (normalize s o) = .ok snapshot ∧ Describes s o snapshot ∧
        ∀ o', Agree s o o' → check (normalize s o') = .ok snapshot) ∧
      ∀ n < 2 ^ 64, (∀ c ∈ Numeral.hexText 16 n, c ∈ Numeral.hexDigits) ∧
        (Numeral.hexText 16 n).length = 16 ∧ Numeral.hexValue (Numeral.hexText 16 n) = n := by
  constructor
  · obtain ⟨snapshot, hcheck, hsnapshot⟩ := exists_check_normalize h
    refine ⟨snapshot, hcheck, hsnapshot, fun o' ho' => ?_⟩
    rw [← ho'.normalize_eq, hcheck]
  · intro n hn
    refine ⟨Numeral.mem_hexDigits_of_mem_hexText 16 n, Numeral.length_hexText 16 n, ?_⟩
    rw [Numeral.hexValue_hexText]
    exact Nat.mod_eq_of_lt hn

/-- A program with a tag in letters of both cases, a count at its bound and much that is passed over. -/
def mixedProgram : Json := .obj [("uid", .float .nan), ("id", .int 4294967295), ("type", .str "kprobe"),
  ("tag", .str "DEADbeef"), ("run_cnt", .int 18446744073709551615), ("run_time_ns", .bool true),
  ("loaded_at", .int (-62135596800)), ("pids", .arr [.null])]

theorem check_mixedProgram : IsListed .prog mixedProgram ∧ ∃ snapshot,
    check (normalize .prog mixedProgram) = .ok snapshot ∧ snapshot.id = 4294967295 ∧ snapshot.name = "" ∧
    snapshot.tag = some 0xdeadbeef ∧ snapshot.loadedAt = some ⟨-62135596800000000⟩ ∧
    snapshot.valueOf? "run_cnt" = some 18446744073709551615 ∧ snapshot.valueOf? "run_time_ns" = none := by
  have hdigits : ∀ c ∈ "DEADbeef".toList, c ∈ Numeral.hexDigits := by
    have hall : "DEADbeef".toList.all (Numeral.hexDigits.contains ·) = true := by decide
    simpa only [List.all_eq_true, List.contains_iff_mem] using hall
  have hlisted : IsListed .prog mixedProgram := by
    refine ⟨⟨4294967295, rfl, by decide⟩, .inr ⟨"kprobe", rfl⟩, .inl rfl,
      .inr (.inr ⟨"DEADbeef", rfl, by decide, by decide, hdigits⟩),
      .inr (.inr ⟨-62135596800, rfl, by decide, by decide⟩), fun key hkey n hn => ?_⟩
    simp only [numberKeys, List.mem_cons, List.not_mem_nil, or_false] at hkey
    rcases hkey with rfl | rfl | rfl | rfl | rfl | rfl <;> cases hn
    decide
  obtain ⟨⟨snapshot, hcheck, hsnapshot, -⟩, -⟩ := check_normalize_of_isListed hlisted
  refine ⟨hlisted, snapshot, hcheck, ?_, ?_, ?_, ?_, (hsnapshot.valueOf? _ _).2 ⟨by decide, rfl⟩, ?_⟩
  · have hid : some (Json.int 4294967295) = some (.int snapshot.id) := hsnapshot.id
    simp only [Option.some.injEq, Json.int.injEq] at hid
    omega
  · rcases hsnapshot.name with hname | ⟨-, hname⟩
    · cases hname
    · exact hname
  · rcases hsnapshot.tag with ⟨t, ht, htag⟩ | ⟨hnull, -⟩
    · cases ht
      exact htag
    · cases hnull
  · rcases hsnapshot.loadedAt with ⟨n, hn, hloadedAt⟩ | ⟨hnull, -⟩
    · cases hn
      exact hloadedAt
    · cases hnull
  · refine Option.eq_none_iff_forall_ne_some.2 fun n hn => ?_
    cases ((hsnapshot.valueOf? _ _).1 hn).2

/-- A listing of such objects is loaded whole, a snapshot for each in its place. -/
theorem loadAll_normalize {os : List Json} (h : ∀ o ∈ os, IsListed s o) : ∃ snapshots,
    Record.loadAll (os.map fun o => .raw (normalize s o)) = .ok snapshots ∧
      List.Forall₂ (Describes s) os snapshots := by
  induction os with
  | nil => exact ⟨[], rfl, .nil⟩
  | cons o os ih =>
    obtain ⟨ho, hos⟩ := List.forall_mem_cons.1 h
    obtain ⟨snapshot, hcheck, hsnapshot⟩ := exists_check_normalize ho
    obtain ⟨snapshots, hload, hsnapshots⟩ := ih hos
    refine ⟨snapshot :: snapshots, ?_, .cons hsnapshot hsnapshots⟩
    simp only [List.map_cons, Record.loadAll, Record.load?, hcheck, hload]
    rfl

/-- What the command prints of such objects reaches the registry, none of them dropped. -/
theorem load_source_of_isListed (b : Bpftool) {outcome : Subject → Outcome} {output errors : String} {os : List Json}
    (houtcome : outcome s = .finished 0 output errors) (hobjects : objects s output = .ok os)
    (h : ∀ o ∈ os, IsListed s o) :
    ∃ snapshots, (b.source outcome s).load s = .ok snapshots ∧ List.Forall₂ (Describes s) os snapshots := by
  obtain ⟨snapshots, hload, hsnapshots⟩ := loadAll_normalize h
  have hsource : b.source outcome s = .ok (os.map fun o => .raw (normalize s o)) := by
    simp [source, list, houtcome, hobjects, Except.map, Function.comp_def]
  refine ⟨snapshots, ?_, hsnapshots⟩
  rw [hsource, Listing.load]
  simp only [hload]

end Bpftool

end BpfExporter
