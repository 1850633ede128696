import BpfExporter.Collection

/-! The registry: the families of all subjects in the order of registration, and the subjects in the
order in which they were first spoken of. No two families lay claim to one name. -/
namespace BpfExporter

open Exposition (ClientLibrary EncodeError)

/-- The kind, or the refusal of what is none. -/
def KindArg.check : KindArg → Except ConfigurationError Kind
  | .kind k => .ok k
  | .foreign v => .error (.notAKind v)

structure Registry where
  path : String
  /-- The subjects that a collection consults. -/
  subjects : List Subject
  families : Families Kind

namespace Registry

def empty (path : String) : Registry := ⟨path, [], []⟩

def subjectPath (r : Registry) (s : Subject) : String := r.path ++ "_" ++ s.name

def familiesOf (r : Registry) (s : Subject) : Families Kind := r.families.filter fun f => f.kind.subject = s

def claimedIn (c : ClientLibrary) (r : Registry) : List String := r.families.flatMap (Family.claimedIn c)

/-- The names of a family that the library keeps for others, in ascending order. -/
def takenIn (c : ClientLibrary) (r : Registry) (f : Family Kind) : List String :=
  ((f.claimedIn c).filter (r.claimedIn c).contains).eraseDups.mergeSort fun a b => decide (a ≤ b)

def claimedNames (r : Registry) : List String := r.families.flatMap Family.claimedNames

/-- The names of a family that are taken, in ascending order. -/
def taken (r : Registry) (f : Family Kind) : List String :=
  (f.claimedNames.filter r.claimedNames.contains).eraseDups.mergeSort fun a b => decide (a ≤ b)

def withSubject (r : Registry) (s : Subject) : Registry :=
  if r.subjects.contains s then r else { r with subjects := r.subjects ++ [s] }

/-- A subject without families is not consulted any more. -/
def withoutVacant (r : Registry) (s : Subject) : Registry :=
  if (r.familiesOf s).isEmpty then { r with subjects := r.subjects.erase s } else r

def isRegistered (r : Registry) (arg : KindArg) : Except ConfigurationError Bool :=
  arg.check.map r.families.contains

/-- Binds a kind to an empty family. The subject is consulted from then on, also when the family is
refused for its type; a family whose name the library refuses is taken back, and with it a subject that has no
other. Who has taken a name is of the same subject, which stays. -/
def registerWith (c : ClientLibrary) (r : Registry) (arg : KindArg) (entry : Registration) :
    Except RegisterError Unit × Registry :=
  match arg.check with
  | .error e => (.error (.configuration e), r)
  | .ok kind =>
    let s := kind.subject
    if r.families.contains kind then (.error (.configuration (.alreadyRegistered s kind)), r)
    else match MetricType.ofJson entry.type with
      | .error e => (.error e, r.withSubject s)
      | .ok t =>
        let f := Family.make (r.subjectPath s) kind ⟨entry.name, entry.help, entry.unit, t⟩
        match f.nameIn c with
        | .error refusal => (.error (.configuration (.nameRefused refusal)), r.withoutVacant s)
        | .ok _ => match r.takenIn c f with
          | [] => (.ok (), { r.withSubject s with families := r.families ++ [f] })
          | names => (.error (.configuration (.namesTaken names)), r)

def tableEntry (k : Kind) : Registration := ⟨.str k.spec.type.name, k.spec.name, k.spec.help, k.spec.unit⟩

def registerKindWith (c : ClientLibrary) (r : Registry) (arg : KindArg) : Except RegisterError Unit × Registry :=
  match arg with
  | .kind k => r.registerWith c arg (tableEntry k)
  | .foreign v => (.error (.configuration (.notAKind v)), r)

/-- Binds kinds one after another, up to the first that is refused. -/
def registerEachWith (c : ClientLibrary) (r : Registry) : List KindArg → Except RegisterError Unit × Registry
  | [] => (.ok (), r)
  | a :: as => match r.registerKindWith c a with
    | (.ok (), r') => registerEachWith c r' as
    | failed => failed

def firstNotOf? (s : Subject) (args : List KindArg) : Option KindArg :=
  args.find? fun a => match a with
    | .kind k => k.subject != s
    | .foreign _ => true

/-- Binds kinds of one subject; an argument that is none of them keeps all from being bound. -/
def registerAllWith (c : ClientLibrary) (r : Registry) (s : Subject) (args : List KindArg) :
    Except RegisterError Unit × Registry :=
  match firstNotOf? s args with
  | some a => (.error (.configuration (.notOfSubject a.inspect s)), r)
  | none => r.registerEachWith c args

/-! Registrations where the library takes every name. -/

def register (r : Registry) (arg : KindArg) (entry : Registration) : Except RegisterError Unit × Registry :=
  r.registerWith .unrestricted arg entry

def registerKind (r : Registry) (arg : KindArg) : Except RegisterError Unit × Registry :=
  r.registerKindWith .unrestricted arg

def registerEach (r : Registry) (args : List KindArg) : Except RegisterError Unit × Registry :=
  r.registerEachWith .unrestricted args

def registerAll (r : Registry) (s : Subject) (args : List KindArg) : Except RegisterError Unit × Registry :=
  r.registerAllWith .unrestricted s args

theorem register_eq (r : Registry) (arg : KindArg) (entry : Registration) : r.register arg entry =
    match arg.check with
    | .error e => (.error (.configuration e), r)
    | .ok kind =>
      if r.families.contains kind then (.error (.configuration (.alreadyRegistered kind.subject kind)), r)
      else match MetricType.ofJson entry.type with
        | .error e => (.error e, r.withSubject kind.subject)
        | .ok t =>
          let f := Family.make (r.subjectPath kind.subject) kind ⟨entry.name, entry.help, entry.unit, t⟩
          match r.taken f with
          | [] => (.ok (), { r.withSubject kind.subject with families := r.families ++ [f] })
          | names => (.error (.configuration (.namesTaken names)), r) := rfl

theorem registerKind_eq_register (r : Registry) (k : Kind) :
    r.registerKind (.kind k) = r.register (.kind k) (tableEntry k) := rfl

theorem registerEach_cons (r : Registry) (a : KindArg) (as : List KindArg) : r.registerEach (a :: as) =
    match r.registerKind a with
    | (.ok (), r') => r'.registerEach as
    | failed => failed := rfl

theorem registerAll_eq (r : Registry) (s : Subject) (args : List KindArg) : r.registerAll s args =
    match firstNotOf? s args with
    | some a => (.error (.configuration (.notOfSubject a.inspect s)), r)
    | none => r.registerEach args := rfl

/-- Stores a value for a label set; what is not registered is passed over. -/
def update (r : Registry) (arg : KindArg) (labels : LabelSet) (value : Json) :
    Except ConfigurationError Registry :=
  match arg.check with
  | .error e => .error e
  | .ok kind =>
    if !r.families.contains kind then .ok r
    else if labels.subject ≠ kind.subject then .error (.wrongLabels kind.subject labels.subject)
    else .ok { r with families := r.families.store kind labels value }

def clear (r : Registry) : Registry := { r with families := r.families.clear }

def renderWith (c : ClientLibrary) (r : Registry) : Except EncodeError String :=
  Exposition.encode (r.families.map (Family.collectWith c))

def render (r : Registry) : Except EncodeError String := r.renderWith .unrestricted

/-- What is done with a registry and may fail. What it leaves of the registry is left in either case. -/
abbrev Action (α : Type) := ExceptT EncodeError (StateM Registry) α

def Action.perform {α : Type} (x : Action α) (r : Registry) : Except EncodeError α × Registry := x.run.run r

def rendering (c : ClientLibrary) : Action String := do MonadExcept.ofExcept ((← get).renderWith c)

/-- The families are emptied also when there is no text, so a bad value does not reach the next cycle. -/
def exporting (c : ClientLibrary) : Action String := do
  try
    rendering c
  catch e =>
    throw e
  finally
    modify clear

def renderText (r : Registry) : Except EncodeError String × Registry := (rendering .unrestricted).perform r

def exportText (r : Registry) : Except EncodeError String × Registry := (exporting .unrestricted).perform r

theorem perform_rendering (c : ClientLibrary) (r : Registry) : (rendering c).perform r = (r.renderWith c, r) := by
  show (MonadExcept.ofExcept (r.renderWith c) : Action String).perform r = _
  cases r.renderWith c <;> rfl

theorem perform_exporting (c : ClientLibrary) (r : Registry) :
    (exporting c).perform r = (r.renderWith c, r.clear) := by
  have hrendering : rendering c r = (r.renderWith c, r) := perform_rendering c r
  show (tryFinally (tryCatch (fun _ => rendering c r : Action String) fun e => throw e)
    (modify clear) : Action String).perform r = _
  rw [hrendering]
  cases r.renderWith c <;> rfl

theorem renderText_eq (r : Registry) : r.renderText = (r.render, r) := perform_rendering _ r

theorem exportText_eq (r : Registry) : r.exportText = (r.render, r.clear) := perform_exporting _ r

end Registry

end BpfExporter
