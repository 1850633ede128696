/-! Classes of characters given by intervals of code points. -/
namespace BpfExporter.Text

def inRanges (rs : List (Nat × Nat)) (c : Char) : Bool :=
  rs.any fun r => decide (r.1 ≤ c.toNat) && decide (c.toNat ≤ r.2)

end BpfExporter.Text
