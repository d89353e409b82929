namespace RegistryRelay

-- A set of characters as ascending, disjoint ranges of code points, both ends
-- included. Only membership is used; no order beyond that is promised.
structure CharTable where
  ranges : List (Nat × Nat)

namespace CharTable

def inRange (code : Nat) (range : Nat × Nat) : Bool :=
  decide (range.1 ≤ code) && decide (code ≤ range.2)

def contains (table : CharTable) (c : Char) : Bool :=
  table.ranges.any (inRange c.toNat)

theorem contains_iff : contains table c = true ↔
    ∃ range ∈ table.ranges, range.1 ≤ c.toNat ∧ c.toNat ≤ range.2 := by
  simp [contains,inRange]

end CharTable
end RegistryRelay
