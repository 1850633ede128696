import Mathlib.Data.List.Nodup
import BpfExporter.Proofs.Cycles
import BpfExporter.Proofs.Export
import BpfExporter.Proofs.LibraryLists
import BpfExporter.Proofs.Updates

/-! Kinds that settings name. A name stands for the kind that it spells, blanks around it and its case apart. A list
of names is refused where a name stands for no kind or two stand for the same, and else for nothing but what the client
library says of a name: families of the fixed table never clash, whatever the path. The registry of settings has the
kinds of programs, of maps and of links, each in the order of its list, and so has every text of it. -/
namespace BpfExporter

open Exposition (ClientLibrary ofLines)
open Exposition.Grammar (isMetricName)

/-- The names that settings have for kinds of a subject. -/
def Settings.names (s : Settings) : Subject → List String
  | .prog => s.progMetrics
  | .map => s.mapMetrics
  | .link => s.linkMetrics

theorem exists_pair_of_sublist_map {α β : Type} {f : α → β} {l : List α} {x y : β}
    (h : [x, y].Sublist (l.map f)) : ∃ a b, [a, b].Sublist l ∧ f a = x ∧ f b = y := by
  obtain ⟨l', hl', hmap⟩ := List.sublist_map_iff.1 h
  obtain ⟨a, b, rfl⟩ : ∃ a b, l' = [a, b] := List.length_eq_two.1 (by simpa using (congrArg List.length hmap).symm)
  simp only [List.map_cons, List.map_nil, List.cons.injEq, and_true] at hmap
  exact ⟨a, b, hl', hmap.1.symm, hmap.2.symm⟩

namespace Kind

variable {s : Subject} {raw : String} {names : List String} {k : Kind} {ks : List Kind}

/-- The name that a configured name is looked up by. -/
def lookupName (raw : String) : String := Text.upper (Text.strip raw)

/-- The configured name stands for a kind of the subject. -/
def IsNamed (s : Subject) (raw : String) (k : Kind) : Prop := k.subject = s ∧ k.name = lookupName raw

/-- The kinds that a list of configured names stands for, one for each name. -/
structure AreNamed (s : Subject) (names : List String) (ks : List Kind) : Prop where
  subject : ∀ k ∈ ks, k.subject = s
  lookup : ks.map name = names.map lookupName

/-- Why a list of configured names is refused. -/
inductive Refused (s : Subject) (names : List String) : ConfigurationError → Prop
  | unknown {raw : String} (hmem : raw ∈ names) (hnone : ∀ k, ¬IsNamed s raw k) : Refused s names (.unknownName s raw)
  | twice {a b : String} {k : Kind} (htwo : [a, b].Sublist names) (ha : IsNamed s a k) (hb : IsNamed s b k) :
      Refused s names (.alreadyRegistered s k)

/-! ### Names and kinds -/

theorem ofName?_eq_some_iff {name : String} : ofName? s name = some k ↔ k.subject = s ∧ k.name = name := by
  constructor
  · intro h
    exact ⟨mem_all_iff.1 (List.mem_of_find?_eq_some h), eq_of_beq (List.find?_some h :)⟩
  · rintro ⟨rfl, rfl⟩
    exact ofName?_name k

theorem eq_of_name_eq {j : Kind} (hsubject : j.subject = k.subject) (hname : j.name = k.name) : j = k := by
  have hj := ofName?_name j
  rw [hsubject, hname, ofName?_name] at hj
  exact (Option.some.inj hj).symm

theorem parse_cases (s : Subject) (raw : String) :
    (∃ k, IsNamed s raw k ∧ parse s raw = .ok k) ∨
      (∀ k, ¬IsNamed s raw k) ∧ parse s raw = .error (.unknownName s raw) := by
  cases h : ofName? s (lookupName raw) with
  | some k => exact .inl ⟨k, ofName?_eq_some_iff.1 h, by rw [parse, ← lookupName, h]⟩
  | none =>
    refine .inr ⟨fun k hk => ?_, by rw [parse, ← lookupName, h]⟩
    rw [ofName?_eq_some_iff.2 hk] at h
    cases h

/-- A list of names is refused for a name that stands for no kind, or for two that stand for the same. -/
theorem exists_refused_iff : (∃ e, Refused s names e) ↔ (∃ raw ∈ names, ∀ k, ¬IsNamed s raw k) ∨
    ∃ a b k, [a, b].Sublist names ∧ IsNamed s a k ∧ IsNamed s b k := by
  constructor
  · rintro ⟨e, ⟨hmem, hnone⟩ | ⟨htwo, ha, hb⟩⟩
    · exact .inl ⟨_, hmem, hnone⟩
    · exact .inr ⟨_, _, _, htwo, ha, hb⟩
  · rintro (⟨raw, hmem, hnone⟩ | ⟨a, b, k, htwo, ha, hb⟩)
    · exact ⟨_, .unknown hmem hnone⟩
    · exact ⟨_, .twice htwo ha hb⟩

theorem Refused.cons {e : ConfigurationError} (h : Refused s names e) (raw : String) : Refused s (raw :: names) e := by
  cases h with
  | unknown hmem hnone => exact .unknown (List.mem_cons_of_mem raw hmem) hnone
  | twice htwo ha hb => exact .twice (htwo.cons raw) ha hb

/-- The names of a list stand for a kind each, or the list is refused for one that stands for none. -/
theorem parseAll_cases (s : Subject) (names : List String) :
    (∃ ks, AreNamed s names ks ∧ parseAll s names = .ok ks) ∨
      ∃ e, Refused s names e ∧ parseAll s names = .error e := by
  induction names with
  | nil => exact .inl ⟨[], ⟨nofun, rfl⟩, rfl⟩
  | cons raw names ih =>
    rw [parseAll]
    rcases parse_cases s raw with ⟨k, hk, hparse⟩ | ⟨hnone, hparse⟩
    · rw [hparse]
      rcases ih with ⟨ks, hks, hall⟩ | ⟨e, he, hall⟩
      · refine .inl ⟨k :: ks, ⟨List.forall_mem_cons.2 ⟨hk.1, hks.subject⟩, ?_⟩, by rw [hall]; rfl⟩
        rw [List.map_cons, List.map_cons, hk.2, hks.lookup]
      · exact .inr ⟨e, he.cons raw, by rw [hall]; rfl⟩
    · exact .inr ⟨_, .unknown List.mem_cons_self hnone, by rw [hparse]⟩

namespace AreNamed

theorem exists_mem (h : AreNamed s names ks) (hraw : raw ∈ names) : ∃ k ∈ ks, IsNamed s raw k := by
  have hmem : lookupName raw ∈ ks.map name := by
    rw [h.lookup]
    exact List.mem_map_of_mem hraw
  obtain ⟨k, hk, hname⟩ := List.mem_map.1 hmem
  exact ⟨k, hk, h.subject k hk, hname⟩

theorem mem_iff (h : AreNamed s names ks) : k ∈ ks ↔ ∃ raw ∈ names, IsNamed s raw k := by
  constructor
  · intro hk
    have hmem : k.name ∈ names.map lookupName := by
      rw [← h.lookup]
      exact List.mem_map_of_mem hk
    obtain ⟨raw, hraw, hname⟩ := List.mem_map.1 hmem
    exact ⟨raw, hraw, h.subject k hk, hname.symm⟩
  · rintro ⟨raw, hraw, hk⟩
    obtain ⟨j, hj, hj'⟩ := h.exists_mem hraw
    rwa [eq_of_name_eq (hk.1.trans hj'.1.symm) (hk.2.trans hj'.2.symm)]

/-- A kind comes twice exactly when two names of the list stand for it. -/
theorem twice_iff (h : AreNamed s names ks) (hk : k.subject = s) :
    [k, k].Sublist ks ↔ ∃ a b, [a, b].Sublist names ∧ IsNamed s a k ∧ IsNamed s b k := by
  constructor
  · intro htwo
    have hlookup := htwo.map name
    rw [h.lookup] at hlookup
    obtain ⟨a, b, hab, ha, hb⟩ := exists_pair_of_sublist_map hlookup
    exact ⟨a, b, hab, ⟨hk, ha.symm⟩, ⟨hk, hb.symm⟩⟩
  · rintro ⟨a, b, htwo, ha, hb⟩
    have hlookup := htwo.map lookupName
    rw [← h.lookup] at hlookup
    obtain ⟨i, j, hij, hi, hj⟩ := exists_pair_of_sublist_map hlookup
    have heq : ∀ m ∈ [i, j], m.name = k.name → m = k := fun m hmem =>
      eq_of_name_eq ((h.subject m (hij.subset hmem)).trans hk.symm)
    rwa [heq i (by simp) (hi.trans ha.2.symm), heq j (by simp) (hj.trans hb.2.symm)] at hij

theorem eq_filterMap (h : AreNamed s names ks) : ks = (names.map lookupName).filterMap (ofName? s) := by
  have hks : ∀ k ∈ ks, (ofName? s ∘ name) k = some k := fun k hk => by
    rw [Function.comp_apply, ← h.subject k hk, ofName?_name]
  rw [← h.lookup, List.filterMap_map, List.filterMap_congr hks, List.filterMap_some]

theorem not_refused (h : AreNamed s names ks) (hnodup : ks.Nodup) (e : ConfigurationError) : ¬Refused s names e := by
  intro he
  cases he with
  | unknown hmem hnone =>
    obtain ⟨k, -, hk⟩ := h.exists_mem hmem
    exact hnone k hk
  | twice htwo ha hb => exact List.nodup_iff_sublist.1 hnodup _ ((h.twice_iff ha.1).2 ⟨_, _, htwo, ha, hb⟩)

end AreNamed

end Kind

/-! ### Kinds of all subjects -/

namespace Kind

def inOrder (ks : Subject → List Kind) : List Kind := ks .prog ++ ks .map ++ ks .link

variable {ks : Subject → List Kind} {k : Kind}

theorem mem_inOrder_iff (h : ∀ s, ∀ k ∈ ks s, k.subject = s) : k ∈ inOrder ks ↔ k ∈ ks k.subject := by
  have hsubject : ∀ s, k ∈ ks s → k ∈ ks k.subject := fun s hk => (h s k hk).symm ▸ hk
  rw [inOrder, List.mem_append, List.mem_append]
  constructor
  · rintro ((hk | hk) | hk) <;> exact hsubject _ hk
  · intro hk
    cases hs : k.subject <;> rw [hs] at hk <;> simp [hk]

theorem nodup_inOrder (h : ∀ s, ∀ k ∈ ks s, k.subject = s) (hnodup : ∀ s, (ks s).Nodup) : (inOrder ks).Nodup := by
  have hne : ∀ s t, s ≠ t → ∀ j ∈ ks s, ∀ k ∈ ks t, j ≠ k := by
    rintro s t hst j hj k hk rfl
    exact hst ((h s j hj).symm.trans (h t j hk))
  rw [inOrder, List.append_assoc, List.nodup_append, List.nodup_append]
  refine ⟨hnodup .prog, ⟨hnodup .map, hnodup .link, hne .map .link (by decide)⟩, fun j hj k hk => ?_⟩
  rcases List.mem_append.1 hk with hk | hk
  · exact hne .prog .map (by decide) j hj k hk
  · exact hne .prog .link (by decide) j hj k hk

end Kind

theorem Exposition.nodup_claimedNames (name : String) (t : MetricType) : (claimedNames name t).Nodup := by
  cases t with
  | gauge => exact List.nodup_singleton _
  | counter =>
    have hne : ∀ tail : String, 0 < tail.length → name ≠ name ++ tail := by
      intro tail htail heq
      have hlength := congrArg String.length heq
      rw [String.length_append] at hlength
      omega
    have htotal := hne "_total" (by decide)
    have hcreated := hne "_created" (by decide)
    simp [claimedNames, htotal, hcreated]

namespace Registry

variable {r : Registry} {s : Subject} {js ks : List Kind}

/-! ### Lists of names -/

/-- Beside kinds of other subjects, a list of names is refused, or bound to the distinct kinds that it stands for. -/
theorem registerNames_cases (hr : r.families = js.map (Kind.family r.path)) (hjs : ∀ j ∈ js, j.subject ≠ s)
    (names : List String) :
    (∃ ks, Kind.AreNamed s names ks ∧ ks.Nodup ∧ r.registerNames s names = .ok (r.bindAll s ks)) ∨
      ∃ e, Kind.Refused s names e ∧ r.registerNames s names = .error (.configuration e) := by
  rcases Kind.parseAll_cases s names with ⟨ks, hks, hparse⟩ | ⟨e, he, hparse⟩
  · rcases r.registerAll_cases s (ks.map .kind) with
      ⟨ks', heq, hbinds, hall⟩ | ⟨arg, harg, -⟩ | ⟨bound, k, rest, e, heq, hrest, -, he, hall⟩
    · obtain rfl := (List.map_inj_right fun _ _ => KindArg.kind.inj).1 heq
      refine .inl ⟨ks, hks, hbinds.nodup, ?_⟩
      simp only [registerNames_eq, hparse, hall]
    · rw [firstNotOf?_eq_none_iff.2 ⟨ks, rfl, hks.subject⟩] at harg
      cases harg
    · obtain rfl := (List.map_inj_right fun _ _ => KindArg.kind.inj).1 heq
      have hk : k.subject = s := hrest k List.mem_cons_self
      have hnew : k ∉ js := fun hj => hjs k hj hk
      have hcontains : r.families.contains k = false := by
        rw [hr, Families.contains_map fun _ => rfl]
        exact decide_eq_false hnew
      -- The names of the kind are free, so it has been bound already.
      have hbound : k ∈ bound := by
        by_contra hnot
        rw [obstacle?_eq_none_iff.2 ⟨hnot, hcontains, not_mem_claimedNames hr hnew⟩] at he
        cases he
      rw [obstacle?, if_pos (.inl hbound), Option.some.injEq] at he
      have htwice : [k, k].Sublist (bound ++ k :: rest) :=
        (List.singleton_sublist.2 hbound).append (List.singleton_sublist.2 List.mem_cons_self)
      obtain ⟨a, b, htwo, ha, hb⟩ := (hks.twice_iff hk).1 htwice
      refine .inr ⟨.alreadyRegistered s k, .twice htwo ha hb, ?_⟩
      simp only [registerNames_eq, hparse, hall, ← he, hk]
  · exact .inr ⟨e, he, by simp only [registerNames_eq, hparse]⟩

def ofKinds (path : String) (ks : Subject → List Kind) : Registry :=
  (((empty path).bindAll .prog (ks .prog)).bindAll .map (ks .map)).bindAll .link (ks .link)

theorem ofSettings_eq_bind (s : Settings) : ofSettings s =
    ((empty s.registryPrefix).registerNames .prog (s.names .prog)).bind fun r =>
      (r.registerNames .map (s.names .map)).bind fun r => r.registerNames .link (s.names .link) := by
  simp only [ofSettings_eq, Settings.names]
  cases (empty s.registryPrefix).registerNames .prog s.progMetrics with
  | error e => rfl
  | ok r =>
    simp only [Except.bind]
    cases r.registerNames .map s.mapMetrics <;> rfl

theorem families_ofKinds (path : String) (ks : Subject → List Kind) :
    (ofKinds path ks).families = (Kind.inOrder ks).map (Kind.family path) := by
  simp only [ofKinds, Kind.inOrder, families_bindAll, path_bindAll, List.map_append]
  rfl

theorem families_bindAll_of_kinds (hr : r.families = js.map (Kind.family r.path)) (s : Subject) (ks : List Kind) :
    (r.bindAll s ks).families = (js ++ ks).map (Kind.family (r.bindAll s ks).path) := by
  rw [families_bindAll, path_bindAll, hr, List.map_append]

/-- Settings are refused for one of their lists, or bound to the distinct kinds that their lists stand for. -/
theorem ofSettings_cases (s : Settings) :
    (∃ ks : Subject → List Kind, (∀ subject, Kind.AreNamed subject (s.names subject) (ks subject)) ∧
        (∀ subject, (ks subject).Nodup) ∧ ofSettings s = .ok (ofKinds s.registryPrefix ks)) ∨
      ∃ subject e, Kind.Refused subject (s.names subject) e ∧ ofSettings s = .error (.configuration e) := by
  have hnone : (empty s.registryPrefix).families = ([] : List Kind).map (Kind.family s.registryPrefix) := rfl
  rw [ofSettings_eq_bind]
  rcases registerNames_cases (s := .prog) hnone nofun (s.names .prog) with ⟨ps, hps, hpsnodup, hprog⟩ | ⟨e, he, hprog⟩
  · have hfamilies := families_bindAll_of_kinds hnone .prog ps
    have hprogs : ∀ k ∈ ps, k.subject ≠ .map := fun k hk => by rw [hps.subject k hk]; decide
    rw [hprog, Except.bind]
    rcases registerNames_cases hfamilies hprogs (s.names .map) with ⟨ms, hms, hmsnodup, hmap⟩ | ⟨e, he, hmap⟩
    · have hfamilies' := families_bindAll_of_kinds hfamilies .map ms
      have hboth : ∀ k ∈ ps ++ ms, k.subject ≠ .link := List.forall_mem_append.2
        ⟨fun k hk => by rw [hps.subject k hk]; decide, fun k hk => by rw [hms.subject k hk]; decide⟩
      rw [hmap, Except.bind]
      rcases registerNames_cases hfamilies' hboth (s.names .link) with ⟨ls, hls, hlsnodup, hlink⟩ | ⟨e, he, hlink⟩
      · refine .inl ⟨fun | .prog => ps | .map => ms | .link => ls, ?_, ?_, hlink⟩
        · rintro (_ | _ | _) <;> assumption
        · rintro (_ | _ | _) <;> assumption
      · exact .inr ⟨.link, e, he, hlink⟩
    · exact .inr ⟨.map, e, he, by rw [hmap]; rfl⟩
  · exact .inr ⟨.prog, e, he, by rw [hprog]; rfl⟩

end Registry

def Family.withEntries {κ : Type} (f : Family κ) (entries : List (LabelSet × Json)) : Family κ :=
  { f with entries := entries }

theorem Family.lines_withEntries (path : String) (k : Kind) (entries : List (LabelSet × Json)) :
    ((k.family path).withEntries entries).lines =
      familyLines (path ++ k.tail) k.spec ((k.family path).withEntries entries).ints := by
  rw [← Kind.exposedName_family]
  rfl

/-- The families of kinds under a path, with the items of each, and the end. -/
def textOfKinds (path : String) (ks : List Kind) (items : Kind → List (LabelSet × Int)) : String :=
  ofLines (ks.flatMap (fun k => familyLines (path ++ k.tail) k.spec (items k)) ++ ["# EOF"])

namespace Registry

variable {r : Registry} {path : String} {ks : List Kind}

theorem nodup_claimedNames (hr : r.families = ks.map (Kind.family path)) (hks : ks.Nodup) : r.claimedNames.Nodup := by
  rw [claimedNames, hr, List.flatMap_map, List.nodup_flatMap]
  refine ⟨fun k _ => Exposition.nodup_claimedNames _ _, hks.imp fun hne => ?_⟩
  exact fun n hn hn' => Kind.claimedNames_family_disjoint path hne hn hn'

theorem exists_entries {fs : Families Kind} (hfs : fs.clear = ks.map (Kind.family path)) (hks : ks.Nodup) :
    ∃ m : Kind → List (LabelSet × Json), fs = ks.map fun k => (k.family path).withEntries (m k) := by
  induction ks generalizing fs with
  | nil => exact ⟨fun _ => [], List.map_eq_nil_iff.1 hfs⟩
  | cons k ks ih =>
    obtain ⟨hk, hks⟩ := List.nodup_cons.1 hks
    obtain ⟨f, fs, rfl, hf, hfs⟩ := List.map_eq_cons_iff.1 hfs
    obtain ⟨m, rfl⟩ := ih hfs hks
    refine ⟨Function.update m k f.entries, ?_⟩
    rw [List.map_cons, Function.update_self, ← hf]
    refine congrArg (f :: ·) (List.map_congr_left fun j hj => ?_)
    have hne : j ≠ k := fun e => hk (e ▸ hj)
    rw [Function.update_of_ne hne]

/-- The text of a registry of kinds has their families in order, whatever their values. -/
theorem exists_items_of_render (hfamilies : r.clear.families = ks.map (Kind.family path)) (hks : ks.Nodup)
    {text : String} (htext : r.render = .ok text) : ∃ items, text = textOfKinds path ks items := by
  obtain ⟨m, hm⟩ := exists_entries hfamilies hks
  rw [render_of_fits (exists_render_iff.1 ⟨text, htext⟩), hm] at htext
  refine ⟨fun k => ((k.family path).withEntries (m k)).ints, ?_⟩
  simp only [← Except.ok.inj htext, List.flatMap_map, textOfKinds, Family.lines_withEntries]

/-- The text of a cycle is that of what its collection leaves, the registry but for entries. -/
theorem exists_render_of_scrape {source : Option Source} {now : Instant} {scrape : Scrape}
    (h : (r.scrape source now).1 = .ok scrape) : ∃ r' : Registry, r'.clear = r.clear ∧ r'.render = .ok scrape.text := by
  have hclear := r.clear_collect source now
  rw [Registry.scrape] at h
  split at h
  · cases h
  · next errors r' hc =>
    rw [hc] at hclear
    refine ⟨r', hclear, ?_⟩
    simp only [exportText_eq] at h
    cases hrender : r'.render with
    | error e => simp [hrender] at h
    | ok text =>
      simp only [hrender, Except.ok.injEq] at h
      rw [← h]

theorem isRegistered_iff (hr : r.families = ks.map (Kind.family path)) {k : Kind} :
    r.isRegistered (.kind k) = .ok true ↔ k ∈ ks := by
  rw [isRegistered, KindArg.check, Except.map, hr, Families.contains_map fun _ => rfl, Except.ok.injEq,
    decide_eq_true_iff]

theorem clear_families (hr : r.families = ks.map (Kind.family path)) : r.clear.families = r.families := by
  rw [clear, hr]
  exact List.map_map

theorem render_of_families (hr : r.families = ks.map (Kind.family path)) :
    r.render = .ok (textOfKinds path ks fun _ => []) := by
  have hsame : r.clear.render = r.render :=
    congrArg (fun fs : Families Kind => Exposition.encode (fs.map Family.collect)) (clear_families hr)
  rw [← hsame, render_clear, textOfKinds, hr, List.flatMap_map]
  simp only [Kind.exposedName_family]
  rfl

variable {c : ClientLibrary} {ops : List Operation}

theorem performAllWith_of_not_isRegistration (hops : ∀ op ∈ ops, ¬op.IsRegistration) (r : Registry) :
    r.performAllWith c ops = r.performAll ops := by
  induction ops generalizing r with
  | nil => rfl
  | cons op ops ih =>
    have hop := performWith_of_not_isRegistration (c := c) (hops op List.mem_cons_self) r
    show (r.performWith c op).performAllWith c ops = (r.perform op).performAll ops
    rw [hop, ih fun op hop => hops op (List.mem_cons_of_mem _ hop)]

theorem clear_performAll_of_not_isRegistration (hops : ∀ op ∈ ops, ¬op.IsRegistration) (r : Registry) :
    (r.performAll ops).clear = r.clear := by
  have hnone : ops.filter Operation.IsRegistration = [] := by
    rw [List.filter_eq_nil_iff]
    exact fun op hop => by simpa using hops op hop
  rw [clear_performAll, hnone]
  rfl

/-- A text of a registry: rendered, exported, or of a cycle. -/
def IsTextOf (c : ClientLibrary) (r : Registry) (text : String) : Prop :=
  r.renderWith c = .ok text ∨ ((exporting c).perform r).1 = .ok text ∨
    ∃ source now errors, (r.scrape source now).1 = .ok ⟨text, errors⟩

theorem IsTextOf.exists_render {text : String} (h : r.IsTextOf c text) (htaken : r.IsTaken c) :
    ∃ r' : Registry, r'.clear = r.clear ∧ r'.render = .ok text := by
  rcases h with h | h | ⟨source, now, errors, h⟩
  · exact ⟨r, rfl, htaken.renderWith_eq ▸ h⟩
  · rw [perform_exporting, htaken.renderWith_eq] at h
    exact ⟨r, rfl, h⟩
  · exact exists_render_of_scrape h

/-- Whatever is done with a registry of kinds but to register more, its texts have their families in order. -/
theorem exists_items_of_isTextOf (hr : r.families = ks.map (Kind.family path)) (hks : ks.Nodup) (htaken : r.IsTaken c)
    (hops : ∀ op ∈ ops, ¬op.IsRegistration) {text : String} (h : (r.performAllWith c ops).IsTextOf c text) :
    ∃ items, text = textOfKinds path ks items := by
  rw [performAllWith_of_not_isRegistration hops] at h
  have hclear := clear_performAll_of_not_isRegistration hops r
  have htaken' : (r.performAll ops).IsTaken c := by rwa [← isTaken_clear_iff, hclear, isTaken_clear_iff]
  obtain ⟨r', hr', htext⟩ := h.exists_render htaken'
  have hfamilies : r'.clear.families = ks.map (Kind.family path) := by
    rw [hr', hclear, ← hr]
    exact clear_families hr
  exact exists_items_of_render hfamilies hks htext

theorem collect_nothing (r : Registry) (now : Instant) : r.collect (some fun _ => .ok []) now = (.ok [], r) := by
  have heach : ∀ ss, collectEach (fun _ => .ok []) now r.families ss = (.ok [], r.families) := by
    intro ss
    induction ss with
    | nil => rfl
    | cons s ss ih =>
      rw [collectEach_cons]
      exact ih
  rw [collect, heach]
  rfl

end Registry

/-! ### Settings where a client library has a say in names -/

namespace Settings

variable {s : Settings} {c : ClientLibrary}

/-- A name of the settings stands for the kind. -/
def Lists (s : Settings) (k : Kind) : Prop := ∃ raw ∈ s.names k.subject, Kind.IsNamed k.subject raw k

/-- The library takes the names of all kinds that the settings list, under their prefix. -/
def AreTaken (c : ClientLibrary) (s : Settings) : Prop := ∀ k, s.Lists k → (k.family s.registryPrefix).IsTaken c

/-- Without a prefix, or under one that is a name of the format, every library takes them. -/
theorem areTaken_of_isMetricName (hc : c.IsDocumented)
    (h : s.registryPrefix = "" ∨ isMetricName s.registryPrefix.toList = true) : s.AreTaken c := by
  intro k _
  refine hc.takes ?_
  rcases h with h | h
  · rw [h]
    exact Kind.isMetricName_tail k
  · exact Kind.isMetricName_exposedName h k

theorem areTaken_of_refusesNone (hc : c.IsDocumented) (h : c.RefusesNone) : s.AreTaken c :=
  fun _ _ => (Family.isTaken_or_refused hc _).resolve_right fun ⟨_, hrefused⟩ => h _ _ _ _ hrefused

end Settings

namespace Registry

variable {s : Settings} {c : ClientLibrary}

theorem ofSettingsWith_eq_bind (c : ClientLibrary) (s : Settings) : ofSettingsWith c s =
    ((empty s.registryPrefix).registerNamesWith c .prog (s.names .prog)).bind fun r =>
      (r.registerNamesWith c .map (s.names .map)).bind fun r => r.registerNamesWith c .link (s.names .link) := by
  simp only [ofSettingsWith, Settings.names]
  cases (empty s.registryPrefix).registerNamesWith c .prog s.progMetrics with
  | error e => rfl
  | ok r =>
    simp only [Except.bind]
    cases r.registerNamesWith c .map s.mapMetrics <;> rfl

/-- A listed kind has a name that the library refuses, and that is what the settings are refused for. -/
def IsNameRefused (c : ClientLibrary) (s : Settings) : Prop :=
  ∃ k text, s.Lists k ∧ k.IsRefused c s.registryPrefix text ∧
    ofSettingsWith c s = .error (.configuration (.nameRefused text))

theorem lists_of_parseAll {subject : Subject} {ks : List Kind}
    (h : Kind.parseAll subject (s.names subject) = .ok ks) {k : Kind} (hk : k ∈ ks) : s.Lists k := by
  rcases Kind.parseAll_cases subject (s.names subject) with ⟨ks', hks, hparse⟩ | ⟨e, -, hparse⟩
  · rw [hparse, Except.ok.injEq] at h
    subst h
    have hsubject := hks.subject k hk
    subst hsubject
    exact hks.mem_iff.1 hk
  · rw [hparse] at h
    cases h

/-- Settings are refused for a name of a listed kind, or what comes of them is what comes of them where every name is
taken. -/
theorem ofSettingsWith_cases (hc : c.IsDocumented) (s : Settings) :
    IsNameRefused c s ∨
      ofSettingsWith c s = ofSettings s ∧ ∀ r, ofSettings s = .ok r → r.IsTaken c := by
  have hempty : (empty s.registryPrefix).IsTaken c := fun _ hf => absurd hf List.not_mem_nil
  rw [IsNameRefused, ofSettingsWith_eq_bind, ofSettings_eq_bind]
  rcases registerNamesWith_cases hc hempty .prog (s.names .prog) with
    ⟨ks, hparse, k, hk, text, hrefused, herror⟩ | ⟨hsame, htaken⟩
  · exact .inl ⟨k, text, lists_of_parseAll hparse hk, hrefused, by rw [herror]; rfl⟩
  rw [hsame]
  cases hprog : (empty s.registryPrefix).registerNames .prog (s.names .prog) with
  | error e => exact .inr ⟨rfl, nofun⟩
  | ok r =>
    obtain ⟨hr, hpath⟩ := htaken r hprog
    replace hpath : r.path = s.registryPrefix := hpath
    simp only [Except.bind]
    rcases registerNamesWith_cases hc hr .map (s.names .map) with
      ⟨ks, hparse, k, hk, text, hrefused, herror⟩ | ⟨hsame, htaken⟩
    · exact .inl ⟨k, text, lists_of_parseAll hparse hk, hpath ▸ hrefused, by rw [herror]⟩
    rw [hsame]
    cases hmap : r.registerNames .map (s.names .map) with
    | error e => exact .inr ⟨rfl, nofun⟩
    | ok r' =>
      obtain ⟨hr', hpath'⟩ := htaken r' hmap
      rcases registerNamesWith_cases hc hr' .link (s.names .link) with
        ⟨ks, hparse, k, hk, text, hrefused, herror⟩ | ⟨hsame, htaken⟩
      · exact .inl ⟨k, text, lists_of_parseAll hparse hk, hpath'.trans hpath ▸ hrefused, herror⟩
      · exact .inr ⟨hsame, fun r'' hr'' => (htaken r'' hr'').1⟩

theorem IsNameRefused.not_areTaken (h : IsNameRefused c s) : ¬s.AreTaken c := by
  obtain ⟨k, text, hk, hrefused, -⟩ := h
  intro htaken
  have hok : (k.family s.registryPrefix).nameIn c = .ok (k.family s.registryPrefix).exposedName := htaken k hk
  rw [hrefused] at hok
  cases hok

/-- With the kinds of the settings bound, or the settings refused for a list, or for a name. -/
theorem ofSettingsWith_ok_or_error (hc : c.IsDocumented) (s : Settings) :
    (∃ ks : Subject → List Kind, (∀ subject, Kind.AreNamed subject (s.names subject) (ks subject)) ∧
        (∀ subject, (ks subject).Nodup) ∧ ofSettingsWith c s = .ok (ofKinds s.registryPrefix ks) ∧
        (ofKinds s.registryPrefix ks).IsTaken c) ∨
      (∃ subject e, Kind.Refused subject (s.names subject) e ∧ ofSettingsWith c s = .error (.configuration e)) ∨
      IsNameRefused c s := by
  rcases ofSettingsWith_cases hc s with hrefused | ⟨hsame, htaken⟩
  · exact .inr (.inr hrefused)
  · rcases ofSettings_cases s with ⟨ks, hks, hnodup, hok⟩ | ⟨subject, e, he, herror⟩
    · exact .inl ⟨ks, hks, hnodup, hsame.trans hok, htaken _ hok⟩
    · exact .inr (.inl ⟨subject, e, he, hsame.trans herror⟩)

variable {ks : Subject → List Kind}

theorem mem_inOrder_iff_lists (hks : ∀ subject, Kind.AreNamed subject (s.names subject) (ks subject)) {k : Kind} :
    k ∈ Kind.inOrder ks ↔ s.Lists k := by
  rw [Kind.mem_inOrder_iff fun subject => (hks subject).subject]
  exact (hks k.subject).mem_iff

theorem areTaken_of_isTaken (hks : ∀ subject, Kind.AreNamed subject (s.names subject) (ks subject))
    (htaken : (ofKinds s.registryPrefix ks).IsTaken c) : s.AreTaken c := by
  intro k hk
  refine htaken _ ?_
  rw [families_ofKinds]
  exact List.mem_map_of_mem ((mem_inOrder_iff_lists hks).2 hk)

end Registry

/-- Where the client library takes the names of the kinds that settings list, as one that refuses no name does for every
prefix and any for a prefix that is a name of the format, the settings are refused exactly when one of their lists has a
name that stands for no kind or two that stand for the same; where it refuses one, they are refused. Else each kind that
is named has a family and no other has, no name of the text is claimed twice, and every text has the families of
programs, of maps and of links, each in the order of its list: at first without values, and later with those that have
been read. -/
theorem ofSettings_iff_refused {c : ClientLibrary} (hc : c.IsDocumented) (s : Settings) :
    (s.AreTaken c → ((∃ e, Registry.ofSettingsWith c s = .error (.configuration e)) ↔ ∃ subject,
        (∃ raw ∈ s.names subject, ∀ k, ¬Kind.IsNamed subject raw k) ∨
          ∃ a b k, [a, b].Sublist (s.names subject) ∧ Kind.IsNamed subject a k ∧ Kind.IsNamed subject b k)) ∧
      (c.RefusesNone ∨ s.registryPrefix = "" ∨ isMetricName s.registryPrefix.toList = true → s.AreTaken c) ∧
      (¬s.AreTaken c → ∃ e, Registry.ofSettingsWith c s = .error (.configuration e)) ∧
      (∀ e, Registry.ofSettingsWith c s = .error e → ∃ e', e = .configuration e' ∧
        ((∃ subject, Kind.Refused subject (s.names subject) e') ∨
          ∃ k text, s.Lists k ∧ k.IsRefused c s.registryPrefix text ∧ e' = .nameRefused text)) ∧
      ((∃ e, Registry.ofSettingsWith c s = .error (.configuration e)) ∨
        ∃ (r : Registry) (ks : Subject → List Kind), Registry.ofSettingsWith c s = .ok r ∧
          (∀ subject, Kind.AreNamed subject (s.names subject) (ks subject)) ∧
          (∀ k, r.isRegistered (.kind k) = .ok true ↔ s.Lists k) ∧
          r.IsTaken c ∧ (r.claimedIn c).Nodup ∧
          r.renderWith c = .ok (textOfKinds s.registryPrefix (Kind.inOrder ks) fun _ => []) ∧
          ∀ ops text, (∀ op ∈ ops, ¬Operation.IsRegistration op) → (r.performAllWith c ops).IsTextOf c text →
            ∃ items, text = textOfKinds s.registryPrefix (Kind.inOrder ks) items) := by
  simp only [← Kind.exists_refused_iff]
  have hprefix : c.RefusesNone ∨ s.registryPrefix = "" ∨ isMetricName s.registryPrefix.toList = true → s.AreTaken c :=
    Or.rec (Settings.areTaken_of_refusesNone hc) (Settings.areTaken_of_isMetricName hc)
  rcases Registry.ofSettingsWith_ok_or_error hc s with
    ⟨ks, hks, hnodup, hok, htaken⟩ | ⟨subject, e, he, herror⟩ | hrefused
  · have hfamilies := Registry.families_ofKinds s.registryPrefix ks
    have hdistinct := Kind.nodup_inOrder (fun subject => (hks subject).subject) hnodup
    have hnone : ∀ e, Registry.ofSettingsWith c s ≠ .error e := fun e he => by
      rw [hok] at he
      cases he
    refine ⟨fun _ => iff_of_false (fun ⟨e, he⟩ => hnone _ he) ?_, hprefix,
      fun hnot => absurd (Registry.areTaken_of_isTaken hks htaken) hnot, fun e he => absurd he (hnone e),
      .inr ⟨_, ks, hok, hks, fun k => ?_, htaken, ?_, ?_, ?_⟩⟩
    · rintro ⟨subject, e, he⟩
      exact (hks subject).not_refused (hnodup subject) e he
    · rw [Registry.isRegistered_iff hfamilies, Registry.mem_inOrder_iff_lists hks]
    · rw [htaken.claimedIn_eq hc]
      exact Registry.nodup_claimedNames hfamilies hdistinct
    · rw [htaken.renderWith_eq]
      exact Registry.render_of_families hfamilies
    · exact fun ops text hops => Registry.exists_items_of_isTextOf hfamilies hdistinct htaken hops
  · refine ⟨fun _ => iff_of_true ⟨e, herror⟩ ⟨subject, e, he⟩, hprefix,
      fun _ => ⟨e, herror⟩, fun e' he' => ?_, .inl ⟨e, herror⟩⟩
    rw [herror] at he'
    cases he'
    exact ⟨e, rfl, .inl ⟨subject, he⟩⟩
  · have hnot := hrefused.not_areTaken
    obtain ⟨k, text, hk, htext, herror⟩ := hrefused
    refine ⟨fun htaken => absurd htaken hnot, hprefix, fun _ => ⟨_, herror⟩,
      fun e he => ?_, .inl ⟨_, herror⟩⟩
    rw [herror] at he
    cases he
    exact ⟨_, rfl, .inr ⟨k, text, hk, htext, rfl⟩⟩

def mixedNames : Settings := { progMetrics := [" run_time", "Uptime\n"], mapMetrics := ["max_entries"] }

/-- A library that takes the names of the format alone takes those of the kinds. -/
theorem ofSettings_mixedNames : ∃ r now text, Registry.ofSettingsWith .strict mixedNames = .ok r ∧
    (r.claimedIn .strict).Nodup ∧ r.isRegistered (.kind (.map .maxEntries)) = .ok true ∧
    r.renderWith .strict =
      .ok (textOfKinds "bpf" [.prog .runTime, .prog .uptime, .map .maxEntries] fun _ => []) ∧
    (r.scrape (some fun _ => .ok []) now).1 = .ok ⟨text, []⟩ ∧
    ∃ items, text = textOfKinds "bpf" [.prog .runTime, .prog .uptime, .map .maxEntries] items := by
  obtain ⟨hiff, htaken, -, -, herror | ⟨r, ks, hok, hks, hregistered, hnames, hnodup, hrender, htexts⟩⟩ :=
    ofSettings_iff_refused ClientLibrary.isDocumented_strict mixedNames
  · exfalso
    have hprog : Kind.AreNamed .prog mixedNames.progMetrics [.prog .runTime, .prog .uptime] := ⟨by decide, by decide⟩
    have hmap : Kind.AreNamed .map mixedNames.mapMetrics [.map .maxEntries] := ⟨by decide, by decide⟩
    have hlink : Kind.AreNamed .link mixedNames.linkMetrics [] := ⟨nofun, rfl⟩
    have hnot : ∀ subject e, ¬Kind.Refused subject (mixedNames.names subject) e
      | .prog => hprog.not_refused (by decide)
      | .map => hmap.not_refused (by decide)
      | .link => hlink.not_refused (by decide)
    obtain ⟨subject, ⟨raw, hraw, hnone⟩ | ⟨a, b, k, htwo, ha, hb⟩⟩ := (hiff (htaken (.inr (.inr (by decide))))).1 herror
    · exact hnot subject _ (.unknown hraw hnone)
    · exact hnot subject _ (.twice htwo ha hb)
  · have hkinds : Kind.inOrder ks = [.prog .runTime, .prog .uptime, .map .maxEntries] := by
      rw [Kind.inOrder, (hks .prog).eq_filterMap, (hks .map).eq_filterMap, (hks .link).eq_filterMap]
      decide
    rw [hkinds] at hrender htexts
    have hfits := Registry.exists_render_iff.1 ⟨_, hnames.renderWith_eq ▸ hrender⟩
    have hempty := Registry.scrape_of_fits (r.collect_nothing ⟨0⟩) hfits
    refine ⟨r, ⟨0⟩, _, hok, hnodup, (hregistered _).2 ⟨"max_entries", ?_, ?_⟩, hrender, hempty, ?_⟩
    · exact List.mem_cons_self
    · exact ⟨rfl, by decide⟩
    · exact htexts [] _ nofun (.inr (.inr ⟨_, _, _, hempty⟩))

end BpfExporter
