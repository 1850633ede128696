import BpfExporter.Validation
import BpfExporter.Json.Reader
import BpfExporter.PosixPath
import BpfExporter.Assoc

/-! Settings from the environment and from given values. A given value wins over the environment, which
wins over the default. In the environment a list is JSON text. Names count in any case. -/
namespace BpfExporter

open Validation (Issue Checked)

structure Settings where
  registryPrefix : String := "bpf"
  /-- Names of metric kinds to register, per subject. -/
  progMetrics : List String := ["UPTIME", "RUN_TIME", "RUN_COUNT"]
  mapMetrics : List String := []
  linkMetrics : List String := []
  bpftoolPath : String := "bpftool"
  /-- Seconds. -/
  bpftoolTimeout : Binary64 := Binary64.ofRatio false 5 1
  enableStats : Bool := false
  statsPath : String := "/proc/sys/kernel/bpf_stats_enabled"
  /-- Seconds. -/
  printInterval : Binary64 := Binary64.ofRatio false 1 1
  logLevel : String := "INFO"

namespace Settings

def fields : List String := ["registry_prefix", "prog_metrics", "map_metrics", "link_metrics",
  "bpftool_path", "bpftool_timeout_seconds", "enable_stats", "stats_procfs_path",
  "print_interval_seconds", "log_level"]

/-- What stands before the name of a setting in the environment, in lower case. -/
def variablePrefix : String := "bpf_metrics_"

inductive LoadError
  /-- The environment has no JSON text for a list. -/
  | unreadable (field : String)
  /-- In the JSON text for a list, lists and objects stand too deep in one another. -/
  | nesting (e : Json.TooDeep)
  | invalid (issues : List Issue)

def LoadError.message : LoadError → String
  | .unreadable field => s!"error parsing value for field \"{field}\" from source \"EnvSettingsSource\""
  | .nesting e => e.message
  | .invalid issues => String.intercalate "\n" (issues.map Issue.message)

/-- Lower case, as far as it can lead to a name of ASCII letters: beside ASCII this is the Kelvin sign
alone. -/
def fold (name : String) : String :=
  String.ofList (name.toList.map fun c => if c = '\u212a' then 'k' else c.toLower)

/-- The text that an environment has for a field; of names that differ in case alone the last counts. -/
def fromEnvironment? (env : List (String × String)) (field : String) : Option String :=
  (env.reverse.find? fun v => fold v.1 = variablePrefix ++ field).map Prod.snd

/-- The value of a list in the environment; JSON `null` is none. -/
def environmentList? (env : List (String × String)) (field : String) : Except LoadError (Option Json) :=
  match fromEnvironment? env field with
  | none => .ok none
  | some text => match Json.read .standard text with
    | .error (.tooDeep e) => .error (.nesting e)
    | .error _ => .error (.unreadable field)
    | .ok .null => .ok none
    | .ok v => .ok (some v)

/-- The given value of a field; of names that differ in case alone the first counts. -/
def fromGiven? (given : List (String × Json)) (field : String) : Option Json :=
  (given.find? fun v => fold v.1 = field).map Prod.snd

def pick (given : List (String × Json)) (field : String) (environment : Option Json) : Option Json :=
  (fromGiven? given field).or environment

def checkOr (default : α) (check : Json → Checked α) : Option Json → Checked α
  | none => .ok default
  | some v => check v

def checkPath : Json → Except Validation.Problem String
  | .str s => .ok (PosixPath.normalize s)
  | _ => .error .pathType

/-- The settings of given values, of lists from the environment, and of its other variables. -/
def check (env : List (String × String)) (lists given : List (String × Json)) : Checked Settings :=
  let base : Settings := {}
  let list := fun (field : String) (default : List String) =>
    checkOr default (Validation.strings field) (pick given field (Assoc.get? field lists))
  let value := fun {α : Type} (field : String) (default : α)
      (read : Json → Except Validation.Problem α) =>
    checkOr default (fun v => Checked.at [field] (read v))
      (pick given field ((fromEnvironment? env field).map Json.str))
  Checked.of Settings.mk
    |>.ap (value "registry_prefix" base.registryPrefix Validation.string)
    |>.ap (list "prog_metrics" base.progMetrics)
    |>.ap (list "map_metrics" base.mapMetrics)
    |>.ap (list "link_metrics" base.linkMetrics)
    |>.ap (value "bpftool_path" base.bpftoolPath Validation.string)
    |>.ap (value "bpftool_timeout_seconds" base.bpftoolTimeout Validation.float)
    |>.ap (value "enable_stats" base.enableStats Validation.bool)
    |>.ap (value "stats_procfs_path" base.statsPath checkPath)
    |>.ap (value "print_interval_seconds" base.printInterval Validation.float)
    |>.ap (value "log_level" base.logLevel Validation.string)

def environmentLists (env : List (String × String)) : List String → Except LoadError (List (String × Json))
  | [] => .ok []
  | field :: fields => match environmentList? env field with
    | .error e => .error e
    | .ok value => (environmentLists env fields).map (value.toList.map (field, ·) ++ ·)

def load (env : List (String × String)) (given : List (String × Json)) : Except LoadError Settings :=
  match environmentLists env ["prog_metrics", "map_metrics", "link_metrics"] with
  | .error e => .error e
  | .ok lists => (check env lists given).mapError .invalid

end Settings

end BpfExporter
