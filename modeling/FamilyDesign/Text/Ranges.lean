import FamilyDesign.Text.CodePoint

/-!
# Character ranges

A property of characters given as a table of ranges.
-/

namespace FamilyDesign.Text

/-- Ranges of code points, both ends included. -/
abbrev Ranges := List (Nat × Nat)

/-- Whether some range of the table holds the character. -/
def Ranges.covers (table : Ranges) (c : CodePoint) : Bool :=
  table.any fun (first, last) => first ≤ c.toNat && c.toNat ≤ last

theorem Ranges.covers_iff (table : Ranges) (c : CodePoint) :
    table.covers c = true ↔ ∃ r ∈ table, r.1 ≤ c.toNat ∧ c.toNat ≤ r.2 := by
  simp [Ranges.covers]

end FamilyDesign.Text
