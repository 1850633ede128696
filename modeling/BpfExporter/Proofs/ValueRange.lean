import BpfExporter.Proofs.Assoc
import BpfExporter.Proofs.FamilyText
import BpfExporter.Proofs.Operations
import BpfExporter.Proofs.Writing

/-! Which values collections bring into the families of the fixed table. A number of a snapshot is stored
only where its family has a place for it, and so is the one of a link. An uptime is stored as it is, and
those of more than 64 bits are all that can keep a text from being written. -/
namespace BpfExporter

open Exposition (inRange)

/-- A value that a kind of the table may hold: one with a place in its type, or an uptime with the
property. -/
def Kind.Takes (P : Int → Prop) (k : Kind) (v : Json) : Prop :=
  ∃ n, v = .int n ∧ (inRange k.spec.type n = true ∨ k = .prog .uptime ∧ P n)

theorem LabelSet.isWritable_ofSnapshot (s : Snapshot) (subject : Subject) :
    (ofSnapshot s subject).isWritable = true := by
  have hid : s.id ≤ 2 ^ 64 := Nat.le_trans s.id_le (by decide)
  have htag : s.tag.getD 0 ≤ 2 ^ 64 := by
    cases htag : s.tag with
    | none => exact Nat.zero_le _
    | some t => exact Nat.le_trans (s.tag_le t htag) (by decide)
  have hprog : ((s.valueOf? "prog_id").getD 0).natAbs ≤ 2 ^ 64 := by
    cases hfield : s.valueOf? "prog_id" with
    | none => exact Nat.zero_le _
    | some n =>
      have hbounds := s.fields_bounds _ (Assoc.mem_of_get? hfield)
      simp only [Snapshot.minField, Snapshot.maxField, Option.getD_some] at hbounds ⊢
      omega
  have hbits : 64 ≤ 1000 := by decide
  rw [isWritable_iff]
  cases subject <;> simp only [ofSnapshot, numbers, List.forall_mem_cons, List.not_mem_nil, false_imp_iff, forall_const,
    and_true, Int.natAbs_natCast]
  · exact ⟨Numeral.lt_pow_maxDigits hbits hid, Numeral.lt_pow_maxDigits hbits htag⟩
  · exact Numeral.lt_pow_maxDigits hbits hid
  · exact ⟨Numeral.lt_pow_maxDigits hbits hid, Numeral.lt_pow_maxDigits hbits hprog⟩

/-- A family as the fixed table has it, of labels that can be shown and values that its kind may hold. -/
structure Family.Tabled (P : Int → Prop) (f : Family Kind) : Prop where
  spec : f.spec = f.kind.spec
  writable : ∀ p ∈ f.entries, p.1.isWritable = true
  takes : ∀ p ∈ f.entries, f.kind.Takes P p.2

namespace Family

variable {P : Int → Prop} {f : Family Kind}

theorem tabled_make (path : String) (k : Kind) : (make path k k.spec).Tabled P :=
  ⟨rfl, fun _ hp => absurd hp List.not_mem_nil, fun _ hp => absurd hp List.not_mem_nil⟩

theorem Tabled.clear (h : f.Tabled P) : f.clear.Tabled P :=
  ⟨h.spec, fun _ hp => absurd hp List.not_mem_nil, fun _ hp => absurd hp List.not_mem_nil⟩

theorem Tabled.set (h : f.Tabled P) {v : Json} (hv : f.kind.Takes P v) {l : LabelSet} (hl : l.isWritable = true) :
    (f.set l v).Tabled P := by
  refine ⟨h.spec, fun p hp => ?_, fun p hp => ?_⟩
  · rcases Assoc.mem_of_mem_set hp with rfl | hp
    · exact hl
    · exact h.writable p hp
  · rcases Assoc.mem_of_mem_set hp with rfl | hp
    · exact hv
    · exact h.takes p hp

/-- What keeps a family of the table from being written is an uptime. -/
theorem Tabled.fits_iff (h : f.Tabled P) :
    f.Fits ↔ ∀ p ∈ f.entries, ∀ n, p.2 = .int n → f.kind = .prog .uptime → inRange .counter n = true := by
  constructor
  · intro hfits p hp n hn hk
    obtain ⟨-, m, hm, hrange⟩ := hfits p hp
    obtain rfl : n = m := Json.int.inj (hn.symm.trans hm)
    rw [h.spec, hk] at hrange
    exact hrange
  · intro huptime p hp
    obtain ⟨n, hn, hrange | ⟨hk, -⟩⟩ := h.takes p hp
    · exact ⟨h.writable p hp, n, hn, by rw [h.spec]; exact hrange⟩
    · refine ⟨h.writable p hp, n, hn, ?_⟩
      rw [h.spec, hk]
      exact huptime p hp n hn hk

theorem Tabled.fits (h : f.Tabled fun n => inRange .counter n = true) : f.Fits := by
  intro p hp
  obtain ⟨n, hn, hrange | ⟨hk, hrange⟩⟩ := h.takes p hp
  · exact ⟨h.writable p hp, n, hn, by rw [h.spec]; exact hrange⟩
  · exact ⟨h.writable p hp, n, hn, by rw [h.spec, hk]; exact hrange⟩

end Family

/-- What is known of a reading before it is observed: it is guarded, or its kind may hold it. -/
def Reading.IsSound (P : Int → Prop) (x : Reading) : Prop :=
  x.guarded = true ∨ x.kind.Takes P (.int x.value)

theorem Snapshot.isSound_readings {P : Int → Prop} {s : Snapshot} {now : Instant} {subject : Subject}
    (h : subject = .prog → ∀ n, s.uptimeNanos? now = some n → P n) :
    ∀ x ∈ s.readings now subject, x.IsSound P := by
  have hnumbers : ∀ ks, ∀ x ∈ s.numberReadings ks, x.IsSound P := by
    intro ks x hx
    obtain ⟨k, -, hk⟩ := List.mem_filterMap.1 hx
    obtain ⟨v, -, rfl⟩ := Option.map_eq_some_iff.1 hk
    exact .inl rfl
  intro x hx
  cases subject with
  | prog =>
    rcases List.mem_append.1 hx with hx | hx
    · obtain ⟨n, hn, rfl⟩ := Option.map_eq_some_iff.1 (Option.mem_toList.1 hx)
      exact .inr ⟨n, rfl, .inr ⟨rfl, h rfl n hn⟩⟩
    · exact hnumbers _ x hx
  | map => exact hnumbers _ x hx
  | link =>
    obtain rfl := List.mem_singleton.1 hx
    exact .inr ⟨1, rfl, .inl rfl⟩

namespace Families

variable {P : Int → Prop} {fs : Families Kind}

theorem tabled_store {k : Kind} {v : Json} (h : ∀ f ∈ fs, f.Tabled P) (hv : k.Takes P v) {l : LabelSet}
    (hl : l.isWritable = true) : ∀ f ∈ fs.store k l v, f.Tabled P := by
  intro f hf
  obtain ⟨f', hf', rfl⟩ := List.mem_map.1 hf
  split
  · next hk =>
    have hkind : f'.kind = k := eq_of_beq hk
    exact (h f' hf').set (by rw [hkind]; exact hv) hl
  · exact h f' hf'

theorem tabled_observe {x : Reading} (h : ∀ f ∈ fs, f.Tabled P) (hx : x.IsSound P) {l : LabelSet}
    (hl : l.isWritable = true) : ∀ f ∈ fs.observe l x, f.Tabled P := by
  unfold observe
  split
  · exact h
  · next f hf =>
    have hkind : f.kind = x.kind := eq_of_beq (List.find?_some hf :)
    split
    · exact h
    · next hroom =>
      refine tabled_store h ?_ hl
      rcases hx with hguarded | htakes
      · have hrange : inRange f.spec.type x.value = true := by simpa [hguarded] using hroom
        rw [(h f (List.mem_of_find?_eq_some hf)).spec, hkind] at hrange
        exact ⟨x.value, rfl, .inl hrange⟩
      · exact htakes

end Families

/-- The named programs that the source lists have uptimes with the property. -/
def Source.Uptimes (P : Int → Prop) (source : Source) (now : Instant) : Prop :=
  ∀ snapshots, (source .prog).load .prog = .ok snapshots → ∀ s ∈ snapshots, s.isNamed .prog = true →
    ∀ n, s.uptimeNanos? now = some n → P n

/-- The operation consults no source, or one of programs whose uptimes have the property. -/
def Operation.Uptimes (P : Int → Prop) (op : Operation) : Prop :=
  ∀ source now, op.pass? = some (source, now) → source.Uptimes P now

namespace Registry

variable {P : Int → Prop} {r : Registry}

/-- The families are those of the table, of values that their kinds may hold. -/
def Tabled (P : Int → Prop) (r : Registry) : Prop := ∀ f ∈ r.families, f.Tabled P

theorem Tabled.clear (h : r.Tabled P) : r.clear.Tabled P := by
  intro f hf
  obtain ⟨f', hf', rfl⟩ := List.mem_map.1 hf
  exact (h f' hf').clear

theorem Tabled.register (h : r.Tabled P) (k : Kind) : (r.register (.kind k) (tableEntry k)).2.Tabled P := by
  rcases r.register_cases (.kind k) (tableEntry k) with
    ⟨_, hsame⟩ | ⟨_, _, -, hsame⟩ | ⟨k', t, hk', ht, -, -, hnew⟩
  · rw [hsame]
    exact h
  · rw [hsame, Tabled, families_withSubject]
    exact h
  · obtain rfl := KindArg.kind.inj hk'
    have htype : k.spec.type = t := by simpa [tableEntry, MetricType.ofJson] using ht
    rw [hnew]
    intro f hf
    rcases List.mem_append.1 hf with hf | hf
    · exact h f hf
    · rw [List.mem_singleton.1 hf, ← htype]
      exact Family.tabled_make _ k

theorem Tabled.collect (h : r.Tabled P) {source : Option Source} {now : Instant}
    (hsource : ∀ s, source = some s → s.Uptimes P now) : (r.collect source now).2.Tabled P := by
  cases source with
  | none => exact h
  | some source =>
    refine collectEach_induction (P := fun fs => ∀ f ∈ fs, f.Tabled P) (fun s _ snapshots hload fs hfs => ?_) h
    refine Families.observeAll_induction (P := fun fs => ∀ f ∈ fs, f.Tabled P)
      (fun snapshot hmem hnamed x hx fs hfs => ?_) hfs
    refine Families.tabled_observe hfs (Snapshot.isSound_readings (fun hs => ?_) x hx)
      (LabelSet.isWritable_ofSnapshot _ _)
    -- only programs have uptimes
    subst hs
    exact hsource source rfl snapshots hload snapshot hmem hnamed

theorem Tabled.scrape (h : r.Tabled P) {source : Option Source} {now : Instant}
    (hsource : ∀ s, source = some s → s.Uptimes P now) : (r.scrape source now).2.Tabled P := by
  cases hc : (r.collect source now).1 with
  | ok errors =>
    rw [scrape_of_collect_ok hc]
    exact h.clear
  | error e =>
    rw [scrape_of_collect_error hc]
    exact h.collect hsource

/-- What is done without registrations and updates of one's own keeps the families those of the table. -/
theorem Tabled.perform (h : r.Tabled P) {op : Operation} (hop : op.IsTabled) (hup : op.Uptimes P) :
    (r.perform op).Tabled P := by
  have hregister : ∀ r : Registry, ∀ k, r.Tabled P → (r.register (.kind k) (tableEntry k)).2.Tabled P :=
    fun _ k h => h.register k
  cases op with
  | register arg entry => exact absurd hop id
  | update arg labels value => exact absurd hop id
  | registerKind arg => exact registerKind_induction hregister h arg
  | registerAll s args => exact registerAll_induction hregister h s args
  | collect source now =>
    refine h.collect fun s hs => hup s now ?_
    rw [Operation.pass?, hs]
    rfl
  | scrape source now =>
    refine h.scrape fun s hs => hup s now ?_
    rw [Operation.pass?, hs]
    rfl
  | renderText =>
    rw [perform_renderText]
    exact h
  | exportText =>
    rw [perform_exportText]
    exact h.clear
  | clear => exact h.clear

theorem tabled_performAll {path : String} {ops : List Operation} (hops : ∀ op ∈ ops, op.IsTabled)
    (hup : ∀ op ∈ ops, op.Uptimes P) : ((empty path).performAll ops).Tabled P :=
  performAll_induction (P := Tabled P) (fun op hop _ h => h.perform (hops op hop) (hup op hop))
    fun _ hf => absurd hf List.not_mem_nil

/-- A cycle fails at its text exactly when the collection came to its end and left a value without a
place. -/
theorem exists_encodeError_iff {source : Option Source} {now : Instant} :
    (∃ e, (r.scrape source now).1 = .error (.encode e)) ↔
      (∃ errors, (r.collect source now).1 = .ok errors) ∧ ¬∀ f ∈ (r.collect source now).2.families, f.Fits := by
  rw [← exists_render_iff]
  cases hc : r.collect source now with
  | mk result r' =>
    cases result with
    | error e => simp [Registry.scrape, hc]
    | ok errors => cases hr : r'.render <;> simp [Registry.scrape, hc, exportText_eq, hr]

/-- An uptime is held that the counter of nanoseconds has no place for. -/
def HasLongUptime (r : Registry) : Prop :=
  ∃ f ∈ r.families, f.kind = .prog .uptime ∧ ∃ l n, (l, .int n) ∈ f.entries ∧ 0xffffffffffffffff < n

theorem Tabled.fits_iff (h : r.Tabled (0 ≤ ·)) : (∀ f ∈ r.families, f.Fits) ↔ ¬r.HasLongUptime := by
  constructor
  · rintro hfits ⟨f, hf, hk, l, n, hn, hlong⟩
    have hrange := (h f hf).fits_iff.1 (hfits f hf) _ hn n rfl hk
    simp only [inRange, Bool.and_eq_true, decide_eq_true_eq] at hrange
    omega
  · intro hnone f hf
    refine (h f hf).fits_iff.2 fun p hp n hn hk => ?_
    have hle : n ≤ 0xffffffffffffffff := by
      refine Int.not_lt.1 fun hlong => hnone ⟨f, hf, hk, p.1, n, ?_, hlong⟩
      rw [← hn]
      exact hp
    obtain ⟨m, hm, hrange | ⟨-, hpos⟩⟩ := (h f hf).takes p hp
    · rw [hk, ← Json.int.inj (hn.symm.trans hm)] at hrange
      exact hrange
    · rw [← Json.int.inj (hn.symm.trans hm)] at hpos
      simp [inRange, hpos, hle]

end Registry

theorem Operation.uptimes_nonneg (op : Operation) : op.Uptimes (0 ≤ ·) := by
  intro source now _ snapshots _ s _ _ n hn
  obtain ⟨loaded, -, helapsed⟩ := Option.bind_eq_some_iff.1 hn
  exact Instant.elapsedNanos?_nonneg helapsed

/-- The programs have been loaded for no longer than a counter of nanoseconds can tell, which is 584 years. -/
def Operation.IsRecent (op : Operation) : Prop := op.Uptimes fun n => inRange .counter n = true

/-- Whatever sources list, a collection leaves every value with a place in its family but for uptimes of more
than 64 bits, and these alone keep a cycle from being written. Without them there is a text. -/
theorem fits_of_collect {path : String} {ops : List Operation} {r : Registry}
    (hr : r = (Registry.empty path).performAll ops) (hops : ∀ op ∈ ops, op.IsTabled) (source : Source)
    (now : Instant) :
    (∀ f ∈ (r.collect (some source) now).2.families, f.kind ≠ .prog .uptime → f.Fits) ∧
      ((∃ e, (r.scrape (some source) now).1 = .error (.encode e)) ↔
        (∃ errors, (r.collect (some source) now).1 = .ok errors) ∧
          (r.collect (some source) now).2.HasLongUptime) ∧
      ((∀ op ∈ ops ++ [.collect (some source) now], op.IsRecent) →
        (∀ f ∈ (r.collect (some source) now).2.families, f.Fits) ∧
          ∀ e, (r.scrape (some source) now).1 ≠ .error (.encode e)) := by
  have hcollect : (Registry.empty path).performAll (ops ++ [.collect (some source) now]) =
      (r.collect (some source) now).2 := by
    rw [Registry.performAll_append, ← hr]
    rfl
  have hops' : ∀ op ∈ ops ++ [.collect (some source) now], op.IsTabled := by
    simpa [or_imp, forall_and, Operation.IsTabled] using hops
  have htabled : (r.collect (some source) now).2.Tabled (0 ≤ ·) := by
    rw [← hcollect]
    exact Registry.tabled_performAll hops' fun op _ => op.uptimes_nonneg
  refine ⟨fun f hf hk => ?_, ?_, fun hrecent => ?_⟩
  · exact (htabled f hf).fits_iff.2 fun _ _ _ _ huptime => absurd huptime hk
  · rw [Registry.exists_encodeError_iff, htabled.fits_iff, Classical.not_not]
  · have hcounted : (r.collect (some source) now).2.Tabled fun n => inRange .counter n = true := by
      rw [← hcollect]
      exact Registry.tabled_performAll hops' hrecent
    have hfits : ∀ f ∈ (r.collect (some source) now).2.families, f.Fits := fun f hf => (hcounted f hf).fits
    exact ⟨hfits, fun e he => (Registry.exists_encodeError_iff.1 ⟨e, he⟩).2 hfits⟩

def sourceLoadedAt (second : Int) : Source
  | .prog => .ok [.raw (.obj [("id", .int 8), ("name", .str "old"), ("loaded_at", .int second)])]
  | _ => .ok []

/-- A program that was loaded two seconds ago. -/
theorem fits_of_collect_two_seconds :
    ¬∃ e, (((Registry.empty "bpf").performAll [.registerKind (.kind (.prog .uptime))]).scrape
      (some (sourceLoadedAt 1772366398)) ⟨1772366400000000⟩).1 = .error (.encode e) := by
  have hload : ((sourceLoadedAt 1772366398) .prog).load .prog =
      .ok [{
      id := 8, typeName := "", name := "old", tag := none, fields := []
      loadedAt := some ⟨1772366398000000⟩ }] := rfl
  have huptimes : (sourceLoadedAt 1772366398).Uptimes (fun n => inRange .counter n = true)
      ⟨1772366400000000⟩ := by
    intro snapshots hsnapshots s hs _ n hn
    obtain rfl := Except.ok.inj (hload.symm.trans hsnapshots)
    obtain rfl := List.mem_singleton.1 hs
    obtain rfl : 2000000000 = n := Option.some.inj hn
    rfl
  refine not_exists.2 ((fits_of_collect rfl (by simp [Operation.IsTabled]) _ _).2.2 fun op hop => ?_).2
  intro source now hpass
  simp only [List.mem_append, List.mem_singleton] at hop
  rcases hop with rfl | rfl
  · cases hpass
  · obtain ⟨rfl, rfl⟩ := Prod.mk.inj (Option.some.inj hpass)
    exact huptimes

/-- A program that was loaded at the start of the year 1 is a snapshot like any other, and its uptime is
stored and keeps the cycle from being written. -/
theorem not_fits_first_second :
    ((sourceLoadedAt Instant.firstSecond) .prog).load .prog =
        .ok [{
          id := 8, typeName := "", name := "old", tag := none, fields := []
          loadedAt := some ⟨Instant.firstSecond * 1000000⟩ }] ∧
      ∃ e, (((Registry.empty "bpf").performAll [.registerKind (.kind (.prog .uptime))]).scrape
        (some (sourceLoadedAt Instant.firstSecond)) ⟨1772366400000000⟩).1 = .error (.encode e) := by
  have hregister := Registry.registerKind_of_free (r := Registry.empty "bpf") (k := .prog .uptime) rfl
    fun _ _ => List.not_mem_nil
  have hcollect : ((Registry.empty "bpf").performAll [.registerKind (.kind (.prog .uptime))]).collect
      (some (sourceLoadedAt Instant.firstSecond)) ⟨1772366400000000⟩ =
      (.ok [], ⟨"bpf", [.prog], [{ Family.make "bpf_prog" (.prog .uptime) (Kind.prog .uptime).spec with
        entries := [(.prog ⟨8, "", "old", 0⟩, .int 63907963200000000000)] }]⟩) := by
    rw [Registry.performAll, List.foldl_cons, Registry.perform, hregister]
    rfl
  refine ⟨rfl, Registry.exists_encodeError_iff.2 ?_⟩
  rw [hcollect]
  refine ⟨⟨[], rfl⟩, fun hfits => ?_⟩
  obtain ⟨-, n, hn, hrange⟩ := hfits _ List.mem_cons_self _ List.mem_cons_self
  obtain rfl := Json.int.inj hn
  exact absurd hrange (by decide)

end BpfExporter
