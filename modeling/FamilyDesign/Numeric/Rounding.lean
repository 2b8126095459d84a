/-!
# Rounding a quotient

The nearest natural number to a quotient, a half going to the even neighbour. This is the one
rounding of the library: numbers of fixed precision, decimals with a set number of places and whole
microseconds all use it.
-/

namespace FamilyDesign.Numeric

/-- The natural number nearest to `a / b`; a half goes to the even neighbour. -/
def roundDiv (a b : Nat) : Nat :=
  let q := a / b
  let r := a % b
  if 2 * r < b then q
  else if b < 2 * r then q + 1
  else if q % 2 = 0 then q else q + 1

theorem roundDiv_one (a : Nat) : roundDiv a 1 = a := by
  simp [roundDiv, Nat.mod_one]

theorem div_le_roundDiv (a b : Nat) : a / b ≤ roundDiv a b := by
  unfold roundDiv
  dsimp only
  repeat' split
  all_goals omega

theorem roundDiv_le_succ (a b : Nat) : roundDiv a b ≤ a / b + 1 := by
  unfold roundDiv
  dsimp only
  repeat' split
  all_goals omega

end FamilyDesign.Numeric
