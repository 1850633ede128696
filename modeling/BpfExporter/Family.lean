import BpfExporter.Assoc
import BpfExporter.Labels
import BpfExporter.Exposition.ClientLibrary
import BpfExporter.Exposition.Encode

/-! Families: the values of one metric kind by label set. Values are absolute readings; a later value for
a label set replaces the earlier one, and what a family shows does not depend on the order of writing.
What stands for a kind is a parameter `κ`. -/
namespace BpfExporter

open Exposition (ClientLibrary Metric MetricSample)

structure Family (κ : Type) where
  kind : κ
  spec : Spec
  /-- The name before unit and type have their say. -/
  baseName : String
  entries : List (LabelSet × Json)

namespace Family

variable {κ : Type}

def make (path : String) (kind : κ) (spec : Spec) : Family κ := ⟨kind, spec, path ++ "_" ++ spec.name, []⟩

def name (f : Family κ) : String := Exposition.withUnit f.baseName f.spec.unit

def exposedName (f : Family κ) : String := Exposition.exposedName f.baseName f.spec.unit f.spec.type

def set (f : Family κ) (labels : LabelSet) (value : Json) : Family κ :=
  { f with entries := Assoc.set labels value f.entries }

def get? (f : Family κ) (labels : LabelSet) : Option Json := Assoc.get? labels f.entries

def clear (f : Family κ) : Family κ := { f with entries := [] }

def size (f : Family κ) : Nat := f.entries.length

def items (f : Family κ) : List (LabelSet × Json) :=
  f.entries.mergeSort fun a b => (a.1.compare b.1).isLE

def sample (f : Family κ) (item : LabelSet × Json) : MetricSample where
  name := Exposition.sampleName f.exposedName f.spec.type
  labels := item.1.pairs.map fun p => (p.1, .str p.2.display)
  value := item.2

def describe (f : Family κ) : Metric := ⟨f.exposedName, f.spec.help, f.spec.type.name, f.spec.unit, []⟩

def metric (f : Family κ) : Metric := { f.describe with samples := f.items.map f.sample }

def nameIn (c : ClientLibrary) (f : Family κ) : Except String String :=
  c.metricName f.spec.type f.baseName f.spec.unit

def metricUnder (f : Family κ) (name : String) : Metric :=
  { f.describe with
    name
    samples := f.items.map fun item => { f.sample item with name := Exposition.sampleName name f.spec.type } }

/-- Produces the metric of the family as it stands. There is none where the library refuses the name, or where a
label has too many digits to be shown. -/
def collectWith (c : ClientLibrary) (f : Family κ) : Except String Metric :=
  match f.nameIn c with
  | .error refusal => .error refusal
  | .ok name =>
    if f.items.all fun item => item.1.isWritable then .ok (f.metricUnder name)
    else .error (Numeral.limitMessage "")

def collect (f : Family κ) : Except String Metric := f.collectWith .unrestricted

theorem collect_eq (f : Family κ) : f.collect =
    if f.items.all fun item => item.1.isWritable then .ok f.metric else .error (Numeral.limitMessage "") := rfl

def claimedIn (c : ClientLibrary) (f : Family κ) : List String :=
  match f.nameIn c with
  | .ok name => c.reserved f.spec.type name
  | .error _ => []

/-- The names that no other family may lay claim to. -/
def claimedNames (f : Family κ) : List String := Exposition.claimedNames f.exposedName f.spec.type

@[simp] theorem items_clear (f : Family κ) : f.clear.items = [] := by simp [items, clear]

end Family

abbrev Families (κ : Type) := List (Family κ)

namespace Families

variable {κ : Type} [BEq κ]

def find? (fs : Families κ) (kind : κ) : Option (Family κ) := List.find? (fun f => f.kind == kind) fs

def contains (fs : Families κ) (kind : κ) : Bool := (fs.find? kind).isSome

def store (fs : Families κ) (kind : κ) (labels : LabelSet) (value : Json) : Families κ :=
  fs.map fun f => if f.kind == kind then f.set labels value else f

def clear (fs : Families κ) : Families κ := fs.map Family.clear

def erase (fs : Families κ) (kind : κ) : Families κ := fs.filter fun f => f.kind != kind

end Families

end BpfExporter
