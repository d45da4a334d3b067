/-!
Sets of characters given as ranges of code points, both ends included.
-/

namespace StaticHost.Text

/-- A set of characters, as ranges of their code points. -/
structure CodeTable where
  ranges : List (Nat × Nat)

def CodeTable.contains (t : CodeTable) (c : Char) : Bool :=
  t.ranges.any fun (low, high) => low ≤ c.toNat && c.toNat ≤ high

end StaticHost.Text
