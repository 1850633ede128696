import BpfExporter.Instant
import BpfExporter.Assoc

/-! What is known of one kernel object at one point in time. -/
namespace BpfExporter

namespace Snapshot

def maxId : Nat := 0xffffffff

def maxTag : Nat := 0xffffffffffffffff

def minField : Int := -0x8000000000000000

def maxField : Int := 0xffffffffffffffff

theorem le_maxTag_of_mem_none : ∀ t ∈ (none : Option Nat), t ≤ maxTag := nofun

end Snapshot

/-- One program, map or link. `fields` holds its numbers by the names under which they are listed. -/
structure Snapshot where
  id : Nat
  typeName : String
  name : String
  tag : Option Nat
  fields : List (String × Int)
  loadedAt : Option Instant
  id_le : id ≤ Snapshot.maxId := by decide
  tag_le : ∀ t ∈ tag, t ≤ Snapshot.maxTag := by decide
  fields_bounds : ∀ f ∈ fields, Snapshot.minField ≤ f.2 ∧ f.2 ≤ Snapshot.maxField := by decide

namespace Snapshot

def valueOf? (s : Snapshot) (field : String) : Option Int := Assoc.get? field s.fields

def uptimeNanos? (s : Snapshot) (now : Instant) : Option Int :=
  s.loadedAt.bind fun loaded => Instant.elapsedNanos? loaded now

end Snapshot

end BpfExporter
