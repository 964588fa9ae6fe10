/-!
Sets of characters, given as inclusive ranges of code points. The tables of Unicode properties that
the texts of this library depend on are values of this type.
-/

namespace StreamHost.Text

/-- A set of characters as inclusive ranges of code points. -/
structure CharSet where
  ranges : List (Nat × Nat)

namespace CharSet

/-- Membership: some range holds the code point. -/
def contains (s : CharSet) (c : Char) : Bool :=
  s.ranges.any fun r => decide (r.1 ≤ c.toNat) && decide (c.toNat ≤ r.2)

theorem contains_iff {s : CharSet} {c : Char} :
    s.contains c = true ↔ ∃ r ∈ s.ranges, r.1 ≤ c.toNat ∧ c.toNat ≤ r.2 := by
  simp [contains, List.any_eq_true]

end CharSet

end StreamHost.Text
