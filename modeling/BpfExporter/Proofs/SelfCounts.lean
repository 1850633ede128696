import BpfExporter.Service
import BpfExporter.Proofs.SubjectPasses

/-! What the service counts of itself, over requests one after another. A cycle is counted when it has a text, and
so are the failures of its listings; a cycle that ends without a text leaves no trace in the counters, whatever
failed in it. -/
namespace BpfExporter

namespace Counters

def errors (c : Counters) : Subject → Nat
  | .prog => c.progErrors
  | .map => c.mapErrors
  | .link => c.linkErrors

theorem scrapes_countError (c : Counters) (e : AdapterError) : (c.countError e).scrapes = c.scrapes := by
  rw [countError]
  split
  · rfl
  split
  · rfl
  split <;> rfl

theorem errors_countError (c : Counters) (e : AdapterError) (s : Subject) :
    (c.countError e).errors s = c.errors s + if e.subject = s.name then 1 else 0 := by
  obtain ⟨subject, reason⟩ := e
  rw [countError]
  by_cases hprog : subject = "prog"
  · subst hprog
    cases s <;> simp [errors, Subject.name]
  by_cases hmap : subject = "map"
  · subst hmap
    cases s <;> simp [errors, Subject.name]
  by_cases hlink : subject = "link"
  · subst hlink
    cases s <;> simp [errors, Subject.name]
  · cases s <;> simp [errors, Subject.name, hprog, hmap, hlink]

theorem scrapes_countScrape (c : Counters) (es : List AdapterError) :
    (c.countScrape es).scrapes = c.scrapes + 1 := by
  have hfold : ∀ c : Counters, (es.foldl countError c).scrapes = c.scrapes := by
    intro c
    induction es generalizing c with
    | nil => rfl
    | cons e es ih => exact (ih _).trans (c.scrapes_countError e)
  exact hfold _

theorem errors_countScrape (c : Counters) (es : List AdapterError) (s : Subject) :
    (c.countScrape es).errors s = c.errors s + es.countP fun e => e.subject = s.name := by
  have hfold : ∀ c : Counters, (es.foldl countError c).errors s =
      c.errors s + es.countP fun e => e.subject = s.name := by
    intro c
    induction es generalizing c with
    | nil => rfl
    | cons e es ih =>
      rw [List.foldl_cons, ih, errors_countError, List.countP_cons, Nat.add_assoc]
      simp only [decide_eq_true_eq]
      rw [Nat.add_comm (ite _ _ _)]
  exact (hfold _).trans (by cases s <;> rfl)

end Counters

/-! ### One cycle -/

namespace Service

def metricsRequest : Request := ⟨"GET", "/metrics"⟩

theorem respond_metricsRequest (s : Service) (now : Instant) : s.respond now metricsRequest = s.metrics now := by
  have hoption : (RequestTarget.path metricsRequest.target).toOption =
      some ['/', 'm', 'e', 't', 'r', 'i', 'c', 's'] := by
    decide +kernel
  have hpath : RequestTarget.path metricsRequest.target = .ok ['/', 'm', 'e', 't', 'r', 'i', 'c', 's'] := by
    cases hread : RequestTarget.path metricsRequest.target with
    | error e => simp [hread, Except.toOption] at hoption
    | ok path => rw [hread] at hoption; exact congrArg Except.ok (Option.some.inj hoption)
  have hmethod : metricsRequest.method.toUpper = "GET" := by
    decide +kernel
  have hroute : route? ['/', 'm', 'e', 't', 'r', 'i', 'c', 's'] = some .metrics := rfl
  simp [respond, hpath, hmethod, hroute]

/-- The failures of listings that a cycle comes upon, in the order of the subjects. -/
def failures (s : Service) : List AdapterError :=
  match s.exporter with
  | .ok ⟨r, some source⟩ => r.subjects.filterMap (Registry.adapterError? source)
  | _ => []

/-- A subject is consulted, and its listing fails. -/
def fails (s : Service) (subject : Subject) : Bool :=
  match s.exporter with
  | .ok ⟨r, some source⟩ => decide (subject ∈ r.subjects) && (Registry.adapterError? source subject).isSome
  | _ => false

end Service

/-- The answer to a request, if there is one. -/
abbrev Answer := Except ServiceError Response

namespace Answer

/-- The request is answered with the text of its cycle. -/
def isServed : Answer → Bool
  | .ok response => response.status == 200
  | .error _ => false

/-- The cycle had a text, but one without bytes. -/
def isUnwritable : Answer → Bool
  | .error (.text _) => true
  | _ => false

/-- The cycle had a text, whether it could be sent or not. -/
def hasText (a : Answer) : Bool := a.isServed || a.isUnwritable

theorem countP_hasText (as : List Answer) : as.countP hasText = as.countP isServed + as.countP isUnwritable := by
  induction as with
  | nil => rfl
  | cons a as ih =>
    have hone : (if hasText a then 1 else 0) =
        (if isServed a then 1 else 0) + if isUnwritable a then 1 else 0 := by
      cases a with
      | ok response => simp [hasText, isUnwritable]
      | error e => simp [hasText, isServed]
    rw [List.countP_cons, List.countP_cons, List.countP_cons, ih, hone]
    omega

end Answer

theorem Registry.errors_of_scrape {r : Registry} {source : Source} {now : Instant} {result : Scrape}
    (h : (r.scrape (some source) now).1 = .ok result) :
    result.errors = r.subjects.filterMap (adapterError? source) := by
  cases hc : r.collect (some source) now with
  | mk collected r' =>
    cases collected with
    | error e =>
      simp only [scrape, hc] at h
      cases h
    | ok errors =>
      have htimely : source.IsTimely r.subjects := exists_collect_iff.1 ⟨errors, congrArg Prod.fst hc⟩
      have hcollect := collect_eq_passes htimely now
      rw [hc] at hcollect
      have herrors : errors = r.subjects.filterMap (adapterError? source) :=
        Except.ok.inj (congrArg Prod.fst hcollect)
      simp only [scrape, hc, exportText_eq] at h
      cases hrender : r'.render with
      | error e =>
        simp only [hrender] at h
        cases h
      | ok text =>
        simp only [hrender] at h
        rw [← Except.ok.inj h]
        exact herrors

theorem Exporter.errors_of_scrape {x : Exporter} {now : Instant} {result : Scrape} {c : Counters}
    (h : (x.scrape now).1 = .ok result) : result.errors = Service.failures ⟨.ok x, c⟩ := by
  obtain ⟨r, source⟩ := x
  cases source with
  | none => cases h
  | some source => exact Registry.errors_of_scrape h

theorem Service.counters_metrics (s : Service) (now : Instant) : (s.metrics now).2.counters =
    if Answer.hasText (s.metrics now).1 then s.counters.countScrape s.failures else s.counters := by
  obtain ⟨exporter, counters⟩ := s
  cases exporter with
  | error e => rfl
  | ok x =>
    cases hscrape : x.scrape now with
    | mk result x' =>
      cases result with
      | error e =>
        cases e <;> simp [metrics, hscrape, Answer.hasText, Answer.isServed, Answer.isUnwritable, detail, json]
      | ok result =>
        have herrors := Exporter.errors_of_scrape (c := counters) (congrArg Prod.fst hscrape)
        simp only [metrics, hscrape, herrors]
        cases Utf8.unwritable? result.text <;> rfl

/-! ### Cycles of a service -/

/-- What is done before a request: operations on the registry, and the source and the time that the request
finds. -/
structure Visit where
  ops : List Operation
  source : Option Source
  now : Instant

/-- A request for the metrics: the service as it found it, and the answer. -/
structure Cycle where
  found : Service
  answer : Answer

namespace Service

/-- The service as a request finds it. -/
def prepare (s : Service) (v : Visit) : Service :=
  { s with exporter := s.exporter.map fun x => ⟨x.registry.performAll v.ops, v.source⟩ }

/-- Requests one after another, and the service after them. -/
def cycles (s : Service) : List Visit → List Cycle × Service
  | [] => ([], s)
  | v :: vs =>
    let (answer, s') := (s.prepare v).respond v.now metricsRequest
    let (rest, last) := cycles s' vs
    (⟨s.prepare v, answer⟩ :: rest, last)

theorem cycles_cons (s : Service) (v : Visit) (vs : List Visit) : s.cycles (v :: vs) =
    (⟨s.prepare v, ((s.prepare v).metrics v.now).1⟩ :: (((s.prepare v).metrics v.now).2.cycles vs).1,
      (((s.prepare v).metrics v.now).2.cycles vs).2) := by
  rw [cycles, respond_metricsRequest]

theorem scrapes_cycles (s : Service) (vs : List Visit) :
    (s.cycles vs).2.counters.scrapes = s.counters.scrapes + (s.cycles vs).1.countP (·.answer.hasText) := by
  induction vs generalizing s with
  | nil => rfl
  | cons v vs ih =>
    have hcount := (s.prepare v).counters_metrics v.now
    rw [cycles_cons, ih, List.countP_cons, hcount]
    split
    · rw [Counters.scrapes_countScrape]
      simp only [prepare]
      omega
    · rfl

theorem errors_cycles (s : Service) (vs : List Visit) (t : Subject) : (s.cycles vs).2.counters.errors t =
    s.counters.errors t + (((s.cycles vs).1.filter (·.answer.hasText)).flatMap (·.found.failures)).countP
      fun e => e.subject = t.name := by
  induction vs generalizing s with
  | nil => rfl
  | cons v vs ih =>
    have hcount := (s.prepare v).counters_metrics v.now
    rw [cycles_cons, ih, List.filter_cons, hcount]
    split
    · rw [Counters.errors_countScrape, List.flatMap_cons, List.countP_append, Nat.add_assoc]
      rfl
    · rfl

end Service

/-! ### Failures under their own names -/

/-- A failure of a subject's listing names the subject. -/
def Source.NamesOwn (source : Source) : Prop :=
  ∀ s e, Registry.adapterError? source s = some e → e.subject = s.name

theorem Subject.name_injective {s t : Subject} (h : s.name = t.name) : s = t := by
  revert h
  cases s <;> cases t <;> decide

theorem Registry.countP_adapterErrors {source : Source} (hown : source.NamesOwn) {ss : List Subject}
    (hss : ss.Nodup) (t : Subject) :
    (ss.filterMap (adapterError? source)).countP (fun e => e.subject = t.name) =
      if t ∈ ss ∧ (adapterError? source t).isSome then 1 else 0 := by
  induction ss with
  | nil => simp
  | cons s ss ih =>
    obtain ⟨hs, hss⟩ := List.nodup_cons.1 hss
    rw [List.filterMap_cons]
    by_cases hst : s = t
    · subst hst
      have hrest := ih hss
      rw [if_neg fun h => hs h.1] at hrest
      cases herror : adapterError? source s with
      | none => simp [hrest]
      | some e => simp [hrest, hown s e herror]
    · have hts : ¬t = s := fun e => hst e.symm
      cases herror : adapterError? source s with
      | none => simp [ih hss, hts]
      | some e =>
        have hname : ¬e.subject = t.name := fun h => hst (Subject.name_injective ((hown s e herror).symm.trans h))
        simp [ih hss, hts, hname]

namespace Service

/-- The registry of the service is one that operations lead to. -/
def IsReached (path : String) (s : Service) : Prop :=
  ∃ x ops, s.exporter = .ok x ∧ x.registry = (Registry.empty path).performAll ops

variable {path : String} {s : Service}

theorem IsReached.prepare (h : s.IsReached path) (v : Visit) : (s.prepare v).IsReached path := by
  obtain ⟨x, ops, hx, hr⟩ := h
  refine ⟨⟨x.registry.performAll v.ops, v.source⟩, ops ++ v.ops, ?_, ?_⟩
  · rw [Service.prepare, hx]
    rfl
  · rw [Registry.performAll_append, ← hr]

theorem exporter_metrics (x : Exporter) (c : Counters) (now : Instant) :
    (metrics ⟨.ok x, c⟩ now).2.exporter = .ok (x.scrape now).2 := by
  simp only [metrics]
  cases hscrape : x.scrape now with
  | mk result x' =>
    cases result with
    | ok result => rfl
    | error e => cases e <;> rfl

theorem IsReached.metrics (h : s.IsReached path) (now : Instant) : (s.metrics now).2.IsReached path := by
  obtain ⟨exporter, c⟩ := s
  obtain ⟨x, ops, hx, hr⟩ := h
  obtain rfl : exporter = .ok x := hx
  refine ⟨_, ops ++ [.scrape x.source now], exporter_metrics x c now, ?_⟩
  rw [Registry.performAll_append, ← hr]
  rfl

theorem countP_failures (h : s.IsReached path)
    (hown : ∀ x source, s.exporter = .ok x → x.source = some source → source.NamesOwn) (t : Subject) :
    s.failures.countP (fun e => e.subject = t.name) = if s.fails t then 1 else 0 := by
  obtain ⟨⟨r, source⟩, ops, hx, hr⟩ := h
  cases source with
  | none => simp [failures, fails, hx]
  | some source =>
    obtain rfl : r = (Registry.empty path).performAll ops := hr
    have hnodup := (Registry.consults_performAll path ops).nodup
    simp only [failures, fails, hx, Registry.countP_adapterErrors (hown _ source hx rfl) hnodup]
    simp

theorem IsReached.errors_cycles (h : s.IsReached path) (vs : List Visit)
    (hown : ∀ v ∈ vs, ∀ source, v.source = some source → source.NamesOwn) (t : Subject) :
    (s.cycles vs).2.counters.errors t =
      s.counters.errors t + (s.cycles vs).1.countP fun c => c.answer.hasText && c.found.fails t := by
  induction vs generalizing s with
  | nil => rfl
  | cons v vs ih =>
    obtain ⟨hv, hvs⟩ := List.forall_mem_cons.1 hown
    have hfound := h.prepare v
    have hcount := (s.prepare v).counters_metrics v.now
    have hsource : ∀ x source, (s.prepare v).exporter = .ok x → x.source = some source → source.NamesOwn := by
      intro x source hx hs
      obtain ⟨x₀, -, hx₀, -⟩ := h
      rw [Service.prepare, hx₀] at hx
      rw [← Except.ok.inj hx] at hs
      exact hv source hs
    have hfailures := countP_failures hfound hsource t
    have hfirst : ((s.prepare v).metrics v.now).2.counters.errors t = s.counters.errors t +
        if Answer.hasText ((s.prepare v).metrics v.now).1 && (s.prepare v).fails t then 1 else 0 := by
      rw [hcount]
      cases Answer.hasText ((s.prepare v).metrics v.now).1 with
      | true =>
        rw [if_pos rfl, Counters.errors_countScrape, hfailures, Bool.true_and]
        rfl
      | false => rfl
    rw [cycles_cons, ih (hfound.metrics v.now) hvs, List.countP_cons, hfirst, Nat.add_assoc]
    exact congrArg _ (Nat.add_comm _ _)

end Service

/-- The counters of a service tell what happened in the cycles that had a text. Over any requests for the metrics,
with whatever is done to the registry and whatever source there is before each, the cycles counted are those that
were answered with their text and those whose text has no bytes; and the failures counted under a subject's name
are those that name it among the failures of the listings that these cycles consulted. Where failures name their
own subjects, they are counted for a subject as often as its listing failed in such a cycle. -/
theorem counts_of_cycles {path : String} {ops : List Operation} {r : Registry}
    (hr : r = (Registry.empty path).performAll ops) (source : Option Source) (c : Counters) {visits : List Visit}
    {cycles : List Cycle} {last : Service} (hrun : Service.cycles ⟨.ok ⟨r, source⟩, c⟩ visits = (cycles, last)) :
    last.counters.scrapes = c.scrapes + (cycles.countP (·.answer.isServed) +
        cycles.countP (·.answer.isUnwritable)) ∧
      (∀ s, last.counters.errors s = c.errors s +
        ((cycles.filter (·.answer.hasText)).flatMap (·.found.failures)).countP fun e => e.subject = s.name) ∧
      ((∀ v ∈ visits, ∀ source, v.source = some source → source.NamesOwn) →
        ∀ s, last.counters.errors s = c.errors s + cycles.countP fun c => c.answer.hasText && c.found.fails s) := by
  have hreached : Service.IsReached path ⟨.ok ⟨r, source⟩, c⟩ := ⟨_, ops, rfl, hr⟩
  have hscrapes := Service.scrapes_cycles ⟨.ok ⟨r, source⟩, c⟩ visits
  have herrors := Service.errors_cycles ⟨.ok ⟨r, source⟩, c⟩ visits
  have hown := hreached.errors_cycles visits
  rw [hrun] at hscrapes
  simp only [hrun] at herrors hown
  refine ⟨?_, herrors, hown⟩
  have hsplit := Answer.countP_hasText (cycles.map Cycle.answer)
  simp only [List.countP_map] at hsplit
  exact hscrapes.trans (congrArg _ hsplit)

def deniedMaps : Source
  | .map => .error (.adapter ⟨"map", "permission denied"⟩)
  | _ => .ok []

theorem namesOwn_deniedMaps : deniedMaps.NamesOwn := by
  intro s e he
  cases s with
  | map => rw [← Option.some.inj he]; rfl
  | prog => cases he
  | link => cases he

/-- The registry of the runs of programs and the key sizes of maps, with values for the runs. -/
def runsHeld (entries : List (LabelSet × Json)) : Registry := ⟨"bpf", [.prog, .map],
  [⟨.prog .runCount, (Kind.prog .runCount).spec, "bpf_prog_execution", entries⟩,
    Family.make "bpf_map" (.map .keySize) (Kind.map .keySize).spec]⟩

theorem collect_runsHeld (entries : List (LabelSet × Json)) (now : Instant) :
    (runsHeld entries).collect (some deniedMaps) now =
      (.ok [⟨"map", "permission denied"⟩], runsHeld entries) := rfl

/-- A request that finds the registry without values, where maps cannot be listed. -/
def deniedVisit : Visit := ⟨[], some deniedMaps, ⟨1772366400000000⟩⟩

/-- The failure of the maps is counted. -/
theorem counts_of_cycles_denied : ∃ cycles last,
    Service.cycles ⟨.ok ⟨runsAndKeys, none⟩, {}⟩ [deniedVisit] = (cycles, last) ∧ last.counters = ⟨1, 0, 1, 0⟩ ∧
      cycles.countP (fun c => c.answer.hasText && c.found.fails .map) = 1 := by
  have hfits : ∀ f ∈ (runsHeld []).families, f.Fits := by
    intro f hf p hp
    simp only [runsHeld, List.mem_cons, List.not_mem_nil, or_false] at hf
    rcases hf with rfl | rfl <;> exact absurd hp List.not_mem_nil
  obtain ⟨text, htext⟩ : ∃ text, (runsHeld []).render = .ok text := ⟨_, Registry.render_of_fits hfits⟩
  have hfound : Service.prepare ⟨.ok ⟨runsAndKeys, none⟩, {}⟩ deniedVisit =
      ⟨.ok ⟨runsHeld [], some deniedMaps⟩, {}⟩ := by
    rw [families_runsAndKeys]
    rfl
  have hcounters : (Service.metrics ⟨.ok ⟨runsHeld [], some deniedMaps⟩, {}⟩ deniedVisit.now).2.counters =
      ⟨1, 0, 1, 0⟩ := by
    simp only [Service.metrics, Exporter.scrape, Registry.scrape, collect_runsHeld, Registry.exportText_eq, htext]
    cases Utf8.unwritable? text <;> rfl
  have hrun := Service.cycles_cons ⟨.ok ⟨runsAndKeys, none⟩, {}⟩ deniedVisit []
  have hown : ∀ v ∈ [deniedVisit], ∀ source, v.source = some source → source.NamesOwn := by
    intro v hv source hsource
    rw [List.mem_singleton.1 hv] at hsource
    rw [← Option.some.inj hsource]
    exact namesOwn_deniedMaps
  have hmap := (counts_of_cycles (r := runsAndKeys) rfl none {} hrun).2.2 hown .map
  rw [hfound] at hrun hmap
  rw [Service.cycles] at hrun hmap
  rw [hcounters] at hmap
  -- for any number, as the kernel would else work out the whole cycle for this one
  have hone : ∀ n, Counters.errors ⟨1, 0, 1, 0⟩ .map = Counters.errors {} .map + n → n = 1 :=
    fun n h => (h.trans (Nat.zero_add n)).symm
  exact ⟨_, _, hrun, hcounters, hone _ hmap⟩

/-- A count of runs that is none. -/
def negativeRun : LabelSet × Json := (.prog ⟨9, "xdp", "bad", 0⟩, .int (-1))

theorem render_negativeRun : (runsHeld [negativeRun]).render = .error (.outOfRange .counter (-1)) := by
  have hwritable : ∀ f ∈ (runsHeld [negativeRun]).families, ∀ p ∈ f.entries, p.1.isWritable = true := by
    decide +kernel
  rw [Registry.render_eq_encode hwritable]
  simp only [Registry.metrics, runsHeld, List.map_cons, Family.metric, Family.items, List.mergeSort_singleton]
  rfl

/-- A request that comes after the count was handed in, where maps cannot be listed. -/
def negativeVisit : Visit :=
  ⟨[.update (.kind (.prog .runCount)) negativeRun.1 negativeRun.2], some deniedMaps, ⟨1772366400000000⟩⟩

/-- The count has no place in the text, so the answer is an error, and the failure of the maps is not counted. -/
theorem not_counts_of_cycles_negative : ∃ cycle last,
    Service.cycles ⟨.ok ⟨runsAndKeys, none⟩, {}⟩ [negativeVisit] = ([cycle], last) ∧
      (∃ response, cycle.answer = .ok response ∧ response.status = 500) ∧ cycle.found.fails .map = true ∧
      last.counters = ⟨0, 0, 0, 0⟩ := by
  have hfound : Service.prepare ⟨.ok ⟨runsAndKeys, none⟩, {}⟩ negativeVisit =
      ⟨.ok ⟨runsHeld [negativeRun], some deniedMaps⟩, {}⟩ := by
    rw [families_runsAndKeys]
    rfl
  have hmetrics : Service.metrics ⟨.ok ⟨runsHeld [negativeRun], some deniedMaps⟩, {}⟩ negativeVisit.now =
      (.ok (Service.detail 500 (Exposition.EncodeError.outOfRange .counter (-1)).message),
        ⟨.ok ⟨runsHeld [], some deniedMaps⟩, {}⟩) := by
    simp only [Service.metrics, Exporter.scrape, Registry.scrape, collect_runsHeld, Registry.exportText_eq,
      render_negativeRun]
    rfl
  rw [Service.cycles_cons, hfound, hmetrics]
  exact ⟨_, _, rfl, ⟨_, rfl, rfl⟩, rfl, rfl⟩

end BpfExporter
