import BpfExporter.Collect
import BpfExporter.Bpftool
import BpfExporter.Settings
import BpfExporter.Text.Upper

/-! The exporter that settings describe: a registry with the metric kinds they name. -/
namespace BpfExporter

open Exposition (ClientLibrary)

/-- The kind that a configured name stands for, blanks around it and its case apart. -/
def Kind.parse (s : Subject) (raw : String) : Except ConfigurationError Kind :=
  match Kind.ofName? s (Text.upper (Text.strip raw)) with
  | some k => .ok k
  | none => .error (.unknownName s raw)

/-- The kinds of configured names, up to the first name that is none. -/
def Kind.parseAll (s : Subject) : List String → Except ConfigurationError (List Kind)
  | [] => .ok []
  | raw :: raws => match Kind.parse s raw with
    | .error e => .error e
    | .ok k => (parseAll s raws).map (k :: ·)

namespace Registry

def registerNamesWith (c : ClientLibrary) (r : Registry) (s : Subject) (names : List String) :
    Except RegisterError Registry :=
  match Kind.parseAll s names with
  | .error e => .error (.configuration e)
  | .ok kinds => match r.registerAllWith c s (kinds.map KindArg.kind) with
    | (.ok (), r') => .ok r'
    | (.error e, _) => .error e

/-- The registry of settings: programs, then maps, then links, each in the order of its names. -/
def ofSettingsWith (c : ClientLibrary) (s : Settings) : Except RegisterError Registry :=
  match (empty s.registryPrefix).registerNamesWith c .prog s.progMetrics with
  | .error e => .error e
  | .ok r => match r.registerNamesWith c .map s.mapMetrics with
    | .error e => .error e
    | .ok r => r.registerNamesWith c .link s.linkMetrics

/-! Settings where the library takes every name. -/

def registerNames (r : Registry) (s : Subject) (names : List String) : Except RegisterError Registry :=
  r.registerNamesWith .unrestricted s names

def ofSettings (s : Settings) : Except RegisterError Registry := ofSettingsWith .unrestricted s

theorem registerNames_eq (r : Registry) (s : Subject) (names : List String) : r.registerNames s names =
    match Kind.parseAll s names with
    | .error e => .error (.configuration e)
    | .ok kinds => match r.registerAll s (kinds.map KindArg.kind) with
      | (.ok (), r') => .ok r'
      | (.error e, _) => .error e := rfl

theorem ofSettings_eq (s : Settings) : ofSettings s =
    match (empty s.registryPrefix).registerNames .prog s.progMetrics with
    | .error e => .error e
    | .ok r => match r.registerNames .map s.mapMetrics with
      | .error e => .error e
      | .ok r => r.registerNames .link s.linkMetrics := rfl

end Registry

def Bpftool.ofSettings (s : Settings) : Bpftool := ⟨s.bpftoolPath, .float s.bpftoolTimeout⟩

/-- Why no exporter comes of an environment. -/
inductive StartError
  | settings (e : Settings.LoadError)
  | register (e : RegisterError)

def StartError.message : StartError → String
  | .settings e => e.message
  | .register e => e.message

/-- A registry with its source. -/
structure Exporter where
  registry : Registry
  source : Option Source

namespace Exporter

/-- The exporter of settings, with `bpftool` as its source. -/
def ofSettings (s : Settings) (outcome : Subject → Bpftool.Outcome) : Except StartError Exporter :=
  match Registry.ofSettings s with
  | .ok r => .ok ⟨r, some ((Bpftool.ofSettings s).source outcome)⟩
  | .error e => .error (.register e)

def ofEnvironment (env : List (String × String)) (outcome : Subject → Bpftool.Outcome) :
    Except StartError Exporter :=
  match Settings.load env [] with
  | .ok s => ofSettings s outcome
  | .error e => .error (.settings e)

def scrape (x : Exporter) (now : Instant) : Except ScrapeError Scrape × Exporter :=
  let (result, r) := x.registry.scrape x.source now
  (result, { x with registry := r })

end Exporter

end BpfExporter
