import Mathlib.Logic.Function.Basic
import BpfExporter.Proofs.SubjectPasses

/-! The families of a subject as a collection of its own. What a registry does with a kind is what the collection of
the kind's subject does, and the collections of other subjects have no part in it; only whether names are free is asked
of all families. So whatever is done with a registry, each of its collections comes of registrations, updates and
clearings of itself alone. -/
namespace BpfExporter

def Family.handed (f : Family Kind) : Family KindArg := ⟨.kind f.kind, f.spec, f.baseName, f.entries⟩

namespace Families

variable {fs : Families Kind} {k : Kind}

def handed (fs : Families Kind) : Families KindArg := fs.map Family.handed

theorem contains_handed (fs : Families Kind) (k : Kind) : fs.handed.contains (.kind k) = fs.contains k := by
  rw [contains, find?, handed, List.find?_map, Option.isSome_map]
  rfl

theorem store_handed (fs : Families Kind) (k : Kind) (l : LabelSet) (v : Json) :
    fs.handed.store (.kind k) l v = (fs.store k l v).handed := by
  simp only [store, handed, List.map_map]
  refine List.map_congr_left fun f _ => ?_
  by_cases hf : f.kind = k <;> simp [Family.handed, Family.set, hf]

theorem clear_handed (fs : Families Kind) : fs.handed.clear = fs.clear.handed := by
  simp only [clear, handed, List.map_map]
  rfl

theorem contains_ofSubject (fs : Families Kind) (k : Kind) : (fs.ofSubject k.subject).contains k = fs.contains k := by
  rw [contains, find?_ofSubject, contains]

end Families

namespace Collection

/-- What registrations, updates and clearings can make of a collection. -/
inductive Reaches (c : Collection) : Collection → Prop
  | refl : Reaches c c
  | register {c' c'' : Collection} {kind : KindArg} {entry : Registration} {f : Family KindArg} (h : Reaches c c')
      (hnext : c'.register kind entry = .ok (f, c'')) : Reaches c c''
  | update {c' c'' : Collection} {kind : KindArg} {labels : LabelSet} {value : Json} {stored : Bool} (h : Reaches c c')
      (hnext : c'.update kind labels value = .ok (stored, c'')) : Reaches c c''
  | clear {c' : Collection} (h : Reaches c c') : Reaches c c'.clear

theorem contains_kind (c : Collection) (k : Kind) : c.contains (.kind k) = .ok (c.families.contains (.kind k)) := rfl

theorem register_kind (c : Collection) (k : Kind) (entry : Registration) : c.register (.kind k) entry =
    if c.families.contains (.kind k) then
      .error (.register (.configuration (.alreadyRegistered c.subject k)))
    else match MetricType.ofJson entry.type with
      | .error e => .error (.register e)
      | .ok t =>
        let f := Family.make c.path (.kind k) ⟨entry.name, entry.help, entry.unit, t⟩
        .ok (f, { c with families := c.families ++ [f] }) := by
  rw [register, contains_kind]
  cases c.families.contains (.kind k) with
  | true => rfl
  | false => cases MetricType.ofJson entry.type <;> rfl

theorem update_kind (c : Collection) (k : Kind) (labels : LabelSet) (value : Json) : c.update (.kind k) labels value =
    if c.families.contains (.kind k) then
      if labels.subject ≠ c.subject then
        .error (.register (.configuration (.wrongLabels c.subject labels.subject)))
      else .ok (true, { c with families := c.families.store (.kind k) labels value })
    else .ok (false, c) := by
  rw [update, contains_kind]
  cases c.families.contains (.kind k) <;> rfl

end Collection

namespace Registry

/-- The collection of a subject. -/
def collection (r : Registry) (s : Subject) : Collection :=
  ⟨s, r.subjectPath s, (r.families.ofSubject s).handed⟩

theorem contains_collection (r : Registry) (k : Kind) :
    (r.collection k.subject).families.contains (.kind k) = r.families.contains k := by
  rw [collection, Families.contains_handed, Families.contains_ofSubject]

theorem collection_withSubject (r : Registry) (s : Subject) : (r.withSubject s).collection = r.collection := by
  funext t
  rw [collection, subjectPath, path_withSubject, families_withSubject]
  rfl

theorem collection_append {r r' : Registry} {f : Family Kind} (hpath : r'.path = r.path)
    (hfamilies : r'.families = r.families ++ [f]) : r'.collection =
      Function.update r.collection f.kind.subject { r.collection f.kind.subject with
        families := (r.collection f.kind.subject).families ++ [f.handed] } := by
  funext s
  by_cases hs : s = f.kind.subject
  · subst hs
    simp [collection, subjectPath, hpath, hfamilies, Families.ofSubject, Families.handed]
  · rw [Function.update_of_ne hs]
    simp [collection, subjectPath, hpath, hfamilies, Families.ofSubject, Ne.symm hs]

theorem collection_store (r : Registry) (k : Kind) (l : LabelSet) (v : Json) :
    collection { r with families := r.families.store k l v } =
      Function.update r.collection k.subject { r.collection k.subject with
        families := (r.collection k.subject).families.store (.kind k) l v } := by
  funext s
  by_cases hs : s = k.subject
  · subst hs
    rw [Function.update_self]
    simp only [collection, Families.ofSubject_store, Families.store_handed]
    rfl
  · rw [Function.update_of_ne hs, collection, Families.ofSubject_store, Families.store_ofSubject_of_ne (Ne.symm hs)]
    rfl

/-- A registration is refused as the collection of the subject refuses it, or the collection has the new family, and so
has the registry if the names are free. The collections of other subjects stay as they are. -/
theorem register_collection (r : Registry) (k : Kind) (entry : Registration) :
    (∃ e, (r.collection k.subject).register (.kind k) entry = .error (.register e) ∧
        (r.register (.kind k) entry).1 = .error e ∧ (r.register (.kind k) entry).2.collection = r.collection) ∨
      ∃ f c, (r.collection k.subject).register (.kind k) entry = .ok (f, c) ∧
        ((∃ n ∈ f.claimedNames, n ∈ r.claimedNames) ∧
            (∃ names, r.register (.kind k) entry = (.error (.configuration (.namesTaken names)), r)) ∨
          (∀ n ∈ f.claimedNames, n ∉ r.claimedNames) ∧ (r.register (.kind k) entry).1 = .ok () ∧
            (r.register (.kind k) entry).2.collection = Function.update r.collection k.subject c) := by
  rw [Collection.register_kind, contains_collection, register_eq]
  simp only [KindArg.check]
  cases hk : r.families.contains k with
  | true => exact .inl ⟨_, rfl, rfl, rfl⟩
  | false =>
    cases ht : MetricType.ofJson entry.type with
    | error e => exact .inl ⟨e, rfl, rfl, r.collection_withSubject k.subject⟩
    | ok t =>
      let f := Family.make (r.subjectPath k.subject) k ⟨entry.name, entry.help, entry.unit, t⟩
      have hiff : r.taken f = [] ↔ ∀ n ∈ f.claimedNames, n ∉ r.claimedNames := taken_eq_nil_iff
      refine .inr ⟨f.handed, _, rfl, ?_⟩
      simp only [Bool.false_eq_true, if_false]
      cases hn : r.taken f with
      | nil =>
        have hpath := r.path_withSubject k.subject
        exact .inr ⟨hiff.1 hn, rfl, collection_append (f := f) hpath rfl⟩
      | cons n ns =>
        refine .inl ⟨?_, n :: ns, rfl⟩
        by_contra hnone
        simp only [not_exists, not_and] at hnone
        rw [hiff.2 hnone] at hn
        cases hn

/-- An update is refused as the collection of the subject refuses it, or it makes of the collection what the
collection's own update makes of it. -/
theorem update_collection (r : Registry) (k : Kind) (labels : LabelSet) (value : Json) :
    (∃ e, (r.collection k.subject).update (.kind k) labels value = .error (.register (.configuration e)) ∧
        r.update (.kind k) labels value = .error e) ∨
      ∃ stored c r', (r.collection k.subject).update (.kind k) labels value = .ok (stored, c) ∧
        r.update (.kind k) labels value = .ok r' ∧ r'.collection = Function.update r.collection k.subject c := by
  rw [Collection.update_kind, contains_collection, update]
  simp only [KindArg.check]
  cases hk : r.families.contains k with
  | false => exact .inr ⟨_, _, r, rfl, rfl, (Function.update_eq_self _ _).symm⟩
  | true =>
    by_cases hl : labels.subject = k.subject
    · refine .inr ⟨true, _, _, if_neg (not_not_intro hl), if_neg (not_not_intro hl), ?_⟩
      exact r.collection_store k labels value
    · exact .inl ⟨.wrongLabels k.subject labels.subject, if_pos hl, if_pos hl⟩

theorem clear_collection (r : Registry) (s : Subject) : r.clear.collection s = (r.collection s).clear := by
  have hkinds : r.families.clear.ofSubject s = (r.families.ofSubject s).clear := List.filter_map
  rw [Collection.clear, collection, collection, clear, hkinds, ← Families.clear_handed]
  rfl

end Registry

/-! ### Collections of a registry -/

namespace Collection.Reaches

open Registry

variable {c : Collection} {s : Subject} {path : String} {fs : Families Kind}

/-- A reading that is observed is an update of the collection of its subject, and of no other. -/
theorem observe {l : LabelSet} {x : Reading} (hl : l.subject = x.kind.subject)
    (h : c.Reaches ⟨s, path, (fs.ofSubject s).handed⟩) :
    c.Reaches ⟨s, path, ((fs.observe l x).ofSubject s).handed⟩ := by
  rw [Families.ofSubject_observe]
  split
  · next hs =>
    subst hs
    rw [Families.observe]
    split
    · exact h
    · next f hf =>
      split
      · exact h
      · have hcontains : ((fs.ofSubject x.kind.subject).handed).contains (.kind x.kind) = true := by
          rw [Families.contains_handed, Families.contains, hf]
          rfl
        have hupdate : Collection.update ⟨x.kind.subject, path, (fs.ofSubject x.kind.subject).handed⟩
            (.kind x.kind) l (.int x.value) = .ok (true, ⟨x.kind.subject, path,
              ((fs.ofSubject x.kind.subject).store x.kind l (.int x.value)).handed⟩) := by
          rw [update_kind, hcontains, if_pos rfl, if_neg (not_not_intro hl), Families.store_handed]
        exact h.update hupdate
  · exact h

theorem collectEach (source : Source) (now : Instant) (ss : List Subject)
    (h : c.Reaches ⟨s, path, (fs.ofSubject s).handed⟩) :
    c.Reaches ⟨s, path, ((Registry.collectEach source now fs ss).2.ofSubject s).handed⟩ := by
  refine collectEach_induction (P := fun fs => c.Reaches ⟨s, path, (fs.ofSubject s).handed⟩)
    (fun t _ snapshots _ fs hfs => ?_) h
  refine Families.observeAll_induction (P := fun fs => c.Reaches ⟨s, path, (fs.ofSubject s).handed⟩)
    (fun snapshot _ _ x hx fs hfs => hfs.observe ?_) hfs
  rw [LabelSet.subject_ofSnapshot, Snapshot.subject_of_mem_readings hx]

variable {r : Registry}

/-- One of several collections is exchanged for what it leads to. -/
theorem of_exchanged {collections : Subject → Collection} {t : Subject} {c' : Collection}
    (hnext : c.Reaches (collections t) → c.Reaches c') (h : c.Reaches (collections s)) :
    c.Reaches (Function.update collections t c' s) := by
  by_cases hs : s = t
  · subst hs
    rw [Function.update_self]
    exact hnext h
  · rwa [Function.update_of_ne hs]

theorem of_register (h : c.Reaches (r.collection s)) (k : Kind) (entry : Registration) :
    c.Reaches ((r.register (.kind k) entry).2.collection s) := by
  rcases r.register_collection k entry with ⟨e, -, -, hsame⟩ | ⟨f, c', hc, ⟨-, names, hr⟩ | ⟨-, -, hr⟩⟩
  · rwa [hsame]
  · rwa [hr]
  · rw [hr]
    exact of_exchanged (fun h => h.register hc) h

theorem of_update (h : c.Reaches (r.collection s)) {arg : KindArg} {labels : LabelSet} {value : Json} {r' : Registry}
    (hr : r.update arg labels value = .ok r') : c.Reaches (r'.collection s) := by
  cases arg with
  | foreign v => cases hr
  | kind k =>
    rcases r.update_collection k labels value with ⟨e, -, herror⟩ | ⟨stored, c', r'', hc, hok, hcollection⟩
    · rw [hr] at herror
      cases herror
    · obtain rfl := Except.ok.inj (hr.symm.trans hok)
      rw [hcollection]
      exact of_exchanged (fun h => h.update hc) h

theorem of_clear (h : c.Reaches (r.collection s)) : c.Reaches (r.clear.collection s) := by
  rw [clear_collection]
  exact h.clear

theorem of_collect (h : c.Reaches (r.collection s)) (source : Option Source) (now : Instant) :
    c.Reaches ((r.collect source now).2.collection s) := by
  cases source with
  | none => exact h
  | some source => exact collectEach source now r.subjects h

theorem of_scrape (h : c.Reaches (r.collection s)) (source : Option Source) (now : Instant) :
    c.Reaches ((r.scrape source now).2.collection s) := by
  cases hc : (r.collect source now).1 with
  | ok errors =>
    rw [scrape_of_collect_ok hc]
    exact h.of_clear
  | error e =>
    rw [scrape_of_collect_error hc]
    exact h.of_collect source now

/-- Whatever is done with a registry is done with each of its collections as the collection itself would do it. -/
theorem perform (h : c.Reaches (r.collection s)) (op : Operation) : c.Reaches ((r.perform op).collection s) := by
  have hkind : ∀ (r : Registry) k, c.Reaches (r.collection s) →
      c.Reaches ((r.register (.kind k) (tableEntry k)).2.collection s) := fun r k h => h.of_register k _
  cases op with
  | register arg entry =>
    cases arg with
    | foreign v => exact h
    | kind k => exact h.of_register k entry
  | registerKind arg => exact registerKind_induction hkind h arg
  | registerAll t args => exact registerAll_induction hkind h t args
  | update arg labels value =>
    rw [Registry.perform]
    split
    · next r' hr' => exact h.of_update hr'
    · exact h
  | collect source now => exact h.of_collect source now
  | scrape source now => exact h.of_scrape source now
  | renderText => rwa [perform_renderText]
  | exportText =>
    rw [perform_exportText]
    exact h.of_clear
  | clear => exact h.of_clear

end Collection.Reaches

theorem Registry.reaches_collection (path : String) (ops : List Operation) (s : Subject) :
    (Collection.empty s (path ++ "_" ++ s.name)).Reaches (((Registry.empty path).performAll ops).collection s) :=
  performAll_induction (P := fun r => Collection.Reaches _ (r.collection s)) (fun op _ _ h => h.perform op) .refl

end BpfExporter
