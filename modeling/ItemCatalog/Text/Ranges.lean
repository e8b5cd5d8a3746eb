/-! # Ranges of code points: sets of characters

A set of characters is written as a list of closed ranges of code points, and membership is read off
the list. -/

namespace ItemCatalog.Text

/-- A set of characters, as closed ranges of code points. -/
abbrev Ranges := List (Nat × Nat)

/-- Whether some range of the set holds the character. -/
def Ranges.has (ranges : Ranges) (c : Char) : Bool :=
  ranges.any fun r => r.1 ≤ c.toNat && c.toNat ≤ r.2

theorem Ranges.has_iff (ranges : Ranges) (c : Char) :
    ranges.has c = true ↔ ∃ r ∈ ranges, r.1 ≤ c.toNat ∧ c.toNat ≤ r.2 := by
  simp [Ranges.has]

end ItemCatalog.Text
