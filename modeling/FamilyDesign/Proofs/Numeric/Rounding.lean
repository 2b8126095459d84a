import FamilyDesign.Numeric.Binary64
import Mathlib.Tactic.Linarith
import Mathlib.Tactic.Ring

/-!
# How far rounding goes

The laws of the one rounding of the library, and what they give for the numbers of fixed precision
that it is used for:

* **`roundDiv_mono`**, **`roundDiv_eq_of_near`** — a greater number is not rounded to a smaller one,
  and whatever lies within half a unit of an integer is rounded to it.
* **`units_rankOf`** — a rank that is put together from a shift and a significand stands for just
  that significand times that power of two. This is what makes `nearestRank` a rounding.
* **`nearestRank_mono`** — a greater quotient has no smaller rank, so every operation on numbers of
  one sign keeps their order up to ties.
* **`units_nearestRank`** — the magnitude of the nearest rank, as the rounding of the quotient to a
  multiple of a power of two; `two_mul_units_nearestRank_le` and its sibling bound the error by half
  a unit of the last place.
-/

namespace FamilyDesign.Numeric

/-! ## Rounding a quotient -/

/-- Rounding goes down if the remainder is at most half the divisor, and up if it is at least
that. -/
theorem roundDiv_cases (a b : Nat) :
    (roundDiv a b = a / b ∧ 2 * (a % b) ≤ b) ∨
    (roundDiv a b = a / b + 1 ∧ b ≤ 2 * (a % b)) := by
  unfold roundDiv
  dsimp only
  split_ifs with hbelow habove heven
  · exact Or.inl ⟨rfl, by omega⟩
  · exact Or.inr ⟨rfl, by omega⟩
  · exact Or.inl ⟨rfl, by omega⟩
  · exact Or.inr ⟨rfl, by omega⟩

/-- The rounded quotient is at most half a unit above the quotient. -/
theorem two_mul_roundDiv_le (a b : Nat) : 2 * (roundDiv a b * b) ≤ 2 * a + b := by
  have hsplit : a / b * b + a % b = a := Nat.div_add_mod' a b
  rcases roundDiv_cases a b with ⟨hdown, hhalf⟩ | ⟨hup, hhalf⟩
  · rw [hdown]
    omega
  · rw [hup, Nat.add_one_mul (a / b) b]
    omega

/-- The rounded quotient is at most half a unit below the quotient. -/
theorem two_mul_le_roundDiv {b : Nat} (hb : 0 < b) (a : Nat) :
    2 * a ≤ 2 * (roundDiv a b * b) + b := by
  have hsplit : a / b * b + a % b = a := Nat.div_add_mod' a b
  have hmod : a % b < b := Nat.mod_lt a hb
  rcases roundDiv_cases a b with ⟨hdown, hhalf⟩ | ⟨hup, hhalf⟩
  · rw [hdown]
    omega
  · rw [hup, Nat.add_one_mul (a / b) b]
    omega

/-- A quotient within half a unit of an integer is rounded to it. -/
theorem roundDiv_eq_of_near {a b q : Nat} (hlo : 2 * (q * b) < 2 * a + b)
    (hhi : 2 * a < 2 * (q * b) + b) : roundDiv a b = q := by
  have hb : 0 < b := by omega
  have hle := two_mul_roundDiv_le a b
  have hge := two_mul_le_roundDiv hb a
  -- `q` and the rounded quotient are less than one unit apart, in both directions
  have hlt : roundDiv a b * b < (q + 1) * b := by
    rw [Nat.add_one_mul q b]
    omega
  have hgt : q * b < (roundDiv a b + 1) * b := by
    rw [Nat.add_one_mul (roundDiv a b) b]
    omega
  have hlt' := Nat.lt_of_mul_lt_mul_right hlt
  have hgt' := Nat.lt_of_mul_lt_mul_right hgt
  omega

/-- A greater number is not rounded to a smaller one. -/
theorem roundDiv_mono {a a' : Nat} (b : Nat) (h : a ≤ a') : roundDiv a b ≤ roundDiv a' b := by
  have hdiv : a / b ≤ a' / b := Nat.div_le_div_right h
  rcases Nat.lt_or_ge (a / b) (a' / b) with hlt | hge
  · -- the integer parts differ, so the roundings can at most meet
    have hup := roundDiv_le_succ a b
    have hdown := div_le_roundDiv a' b
    omega
  · have heq : a' / b = a / b := by omega
    have hmod : a % b ≤ a' % b := by
      have hsplit := Nat.div_add_mod a b
      have hsplit' := Nat.div_add_mod a' b
      rw [heq] at hsplit'
      omega
    unfold roundDiv
    dsimp only
    rw [heq]
    split_ifs <;> omega

/-! ## Ranks and magnitudes -/

namespace Binary64

theorem unitsPerOne_pos : 0 < unitsPerOne := by
  unfold unitsPerOne
  positivity

/-- A rank of `shift` binades and a significand `q` stands for `q` times two to the `shift`. The
significand may be a whole binade too large: it then stands at the start of the next one. -/
theorem units_rankOf {shift q : Nat} (hq : q ≤ 2 ^ 53) (hnormal : shift = 0 ∨ 2 ^ 52 ≤ q) :
    units (shift * 2 ^ 52 + q) = q * 2 ^ shift := by
  unfold units
  dsimp only
  rcases Nat.lt_or_ge q (2 ^ 52) with hsmall | hlarge
  · have hzero : shift = 0 := by omega
    subst hzero
    have hbinade : (0 * 2 ^ 52 + q) / 2 ^ 52 = 0 := by omega
    rw [if_pos hbinade]
    omega
  · -- Rounded up to a power of two the significand stands at the start of the next binade.
    rcases Nat.lt_or_ge q (2 ^ 53) with hfit | hcarry
    · have hbinade : (shift * 2 ^ 52 + q) / 2 ^ 52 = shift + 1 := by omega
      have hrest : (shift * 2 ^ 52 + q) % 2 ^ 52 = q - 2 ^ 52 := by omega
      rw [hbinade, hrest, if_neg (by omega), Nat.add_sub_cancel, Nat.add_sub_cancel' hlarge]
    · have hcarry' : q = 2 ^ 53 := by omega
      subst hcarry'
      have hbinade : (shift * 2 ^ 52 + 2 ^ 53) / 2 ^ 52 = shift + 2 := by omega
      have hrest : (shift * 2 ^ 52 + 2 ^ 53) % 2 ^ 52 = 0 := by omega
      rw [hbinade, hrest, if_neg (by omega), show shift + 2 - 1 = shift + 1 from by omega,
        Nat.pow_succ]
      ring

/-- Every rank has the form in which `units_rankOf` reads it, with a significand that leaves room
for one more. -/
theorem exists_shift_significand (rank : Nat) :
    ∃ shift q, q < 2 ^ 53 ∧ (shift = 0 ∨ 2 ^ 52 ≤ q) ∧ rank = shift * 2 ^ 52 + q := by
  rcases Nat.lt_or_ge rank (2 ^ 52) with hsmall | hlarge
  · exact ⟨0, rank, by omega, Or.inl rfl, by omega⟩
  · exact ⟨rank / 2 ^ 52 - 1, rank % 2 ^ 52 + 2 ^ 52, by omega, Or.inr (by omega), by omega⟩

/-- One rank further the magnitude is greater. -/
theorem units_lt_succ (rank : Nat) : units rank < units (rank + 1) := by
  obtain ⟨shift, q, hq, hnormal, rfl⟩ := exists_shift_significand rank
  have hnext : units (shift * 2 ^ 52 + (q + 1)) = (q + 1) * 2 ^ shift :=
    units_rankOf (by omega) (by omega)
  rw [Nat.add_assoc, hnext, units_rankOf (by omega) hnormal]
  exact Nat.mul_lt_mul_of_pos_right (by omega) (Nat.two_pow_pos shift)

theorem units_mono {r r' : Nat} (h : r ≤ r') : units r ≤ units r' := by
  induction h with
  | refl => exact Nat.le_refl _
  | step _ ih => exact Nat.le_trans ih (Nat.le_of_lt (units_lt_succ _))

/-- Only rank zero stands for no units. -/
theorem units_eq_zero_iff {rank : Nat} : units rank = 0 ↔ rank = 0 := by
  constructor
  · intro hzero
    by_contra hpos
    have := Nat.lt_of_lt_of_le (units_lt_succ 0) (units_mono (Nat.pos_of_ne_zero hpos))
    omega
  · rintro rfl
    rfl

/-! ## The nearest rank -/

/-- The binades that a quotient is shifted by, so that what is left fits a significand. -/
def shiftOf (a b : Nat) : Nat := (a / b).log2 - 52

/-- The significand of a quotient, before a carry into the next binade. -/
def significandOf (a b : Nat) : Nat := roundDiv a (b * 2 ^ shiftOf a b)

/-- The nearest rank by its binade and its significand. -/
theorem nearestRank_eq (a b : Nat) :
    nearestRank a b = min infinityRank (shiftOf a b * 2 ^ 52 + significandOf a b) := rfl

theorem nearestRank_zero (b : Nat) : nearestRank 0 b = 0 := by
  unfold nearestRank roundDiv
  simp

/-- A greater quotient is shifted no less. -/
theorem shiftOf_mono {a a' : Nat} (b : Nat) (h : a ≤ a') : shiftOf a b ≤ shiftOf a' b := by
  have hdiv : a / b ≤ a' / b := Nat.div_le_div_right h
  unfold shiftOf
  by_cases hzero : a / b = 0
  · rw [hzero]
    simp
  · have hpos : 0 < a / b := Nat.pos_of_ne_zero hzero
    have hlog : (a / b).log2 ≤ (a' / b).log2 := by
      rw [Nat.le_log2 (by omega)]
      exact Nat.le_trans (Nat.log2_self_le hzero) hdiv
    omega

/-- A significand carries into the next binade at most. -/
theorem significandOf_le (a b : Nat) : significandOf a b ≤ 2 ^ 53 := by
  have hlog : a / b < 2 ^ (shiftOf a b + 53) := by
    refine Nat.lt_of_lt_of_le Nat.lt_log2_self (Nat.pow_le_pow_right (by decide) ?_)
    unfold shiftOf
    omega
  have hdiv : a / (b * 2 ^ shiftOf a b) < 2 ^ 53 := by
    rw [← Nat.div_div_eq_div_mul]
    refine Nat.div_lt_of_lt_mul ?_
    rwa [← Nat.pow_add]
  have hup := roundDiv_le_succ a (b * 2 ^ shiftOf a b)
  unfold significandOf
  omega

/-- Above the first binade the leading bit of a quotient is `52` places above its shift. -/
theorem two_pow_shiftOf_le {a b : Nat} (h : shiftOf a b ≠ 0) : 2 ^ (shiftOf a b + 52) ≤ a / b := by
  have hne : a / b ≠ 0 := by
    intro hzero
    apply h
    simp [shiftOf, hzero]
  rw [show shiftOf a b + 52 = (a / b).log2 from by unfold shiftOf at h ⊢; omega]
  exact Nat.log2_self_le hne

/-- Above the first binade the significand has its leading bit. -/
theorem le_significandOf {a b : Nat} (h : shiftOf a b ≠ 0) : 2 ^ 52 ≤ significandOf a b := by
  have hlog := two_pow_shiftOf_le h
  have hdiv : 2 ^ 52 ≤ a / (b * 2 ^ shiftOf a b) := by
    rw [← Nat.div_div_eq_div_mul, Nat.le_div_iff_mul_le (Nat.two_pow_pos _), ← Nat.pow_add,
      Nat.add_comm]
    exact hlog
  have hdown := div_le_roundDiv a (b * 2 ^ shiftOf a b)
  unfold significandOf
  omega

/-- A greater quotient has no smaller rank. -/
theorem nearestRank_mono {a a' : Nat} (b : Nat) (h : a ≤ a') :
    nearestRank a b ≤ nearestRank a' b := by
  have hshift_le : shiftOf a b ≤ shiftOf a' b := shiftOf_mono b h
  rw [nearestRank_eq, nearestRank_eq]
  rcases Nat.lt_or_ge (shiftOf a b) (shiftOf a' b) with hlt | hge
  · -- the lower one fills its binade at most, the upper one has passed it
    have hq := significandOf_le a b
    have hq' : 2 ^ 52 ≤ significandOf a' b := le_significandOf (by omega)
    omega
  · have hshift : shiftOf a' b = shiftOf a b := by omega
    have hq : significandOf a b ≤ significandOf a' b := by
      unfold significandOf
      rw [hshift]
      exact roundDiv_mono _ h
    omega

/-- The magnitude of the nearest rank: the quotient rounded to a multiple of a power of two. -/
theorem units_nearestRank {a b : Nat} (hfit : nearestRank a b < infinityRank) :
    units (nearestRank a b) = significandOf a b * 2 ^ shiftOf a b := by
  have hrank : nearestRank a b = shiftOf a b * 2 ^ 52 + significandOf a b := by
    rw [nearestRank_eq] at hfit ⊢
    omega
  rw [hrank]
  refine units_rankOf (significandOf_le a b) ?_
  by_cases hzero : shiftOf a b = 0
  · exact Or.inl hzero
  · exact Or.inr (le_significandOf hzero)

/-- The nearest rank of a quotient that is not zero and no fraction of a unit is not zero. -/
theorem nearestRank_pos {a b : Nat} (hb : 0 < b) (h : b ≤ a) : 0 < nearestRank a b := by
  have hq : 0 < shiftOf a b * 2 ^ 52 + significandOf a b := by
    by_cases hzero : shiftOf a b = 0
    · have hdiv : 0 < a / b := Nat.div_pos h hb
      have hdown := div_le_roundDiv a b
      have hsig : significandOf a b = roundDiv a b := by simp [significandOf, hzero]
      omega
    · have := le_significandOf hzero
      omega
  have hinf : 0 < infinityRank := by decide
  rw [nearestRank_eq]
  omega

/-- The magnitude of the nearest rank is at most half a unit of the last place above the
quotient. -/
theorem two_mul_units_nearestRank_le {a b : Nat}
    (hfit : nearestRank a b < infinityRank) :
    2 * (units (nearestRank a b) * b) ≤ 2 * a + b * 2 ^ shiftOf a b := by
  have hround := two_mul_roundDiv_le a (b * 2 ^ shiftOf a b)
  rw [units_nearestRank hfit, Nat.mul_assoc, Nat.mul_comm (2 ^ shiftOf a b) b]
  exact hround

/-- The magnitude of the nearest rank is at most half a unit of the last place below the
quotient. -/
theorem two_mul_le_units_nearestRank {a b : Nat} (hb : 0 < b)
    (hfit : nearestRank a b < infinityRank) :
    2 * a ≤ 2 * (units (nearestRank a b) * b) + b * 2 ^ shiftOf a b := by
  have hround := two_mul_le_roundDiv (Nat.mul_pos hb (Nat.two_pow_pos (shiftOf a b))) a
  rw [units_nearestRank hfit, Nat.mul_assoc, Nat.mul_comm (2 ^ shiftOf a b) b]
  exact hround

/-- A unit of the last place is small: above the first binade, where it is one, the quotient holds
`2 ^ 52` of them. -/
theorem ulp_le {a b : Nat} : shiftOf a b = 0 ∨ 2 ^ 52 * (b * 2 ^ shiftOf a b) ≤ a := by
  by_cases hzero : shiftOf a b = 0
  · exact Or.inl hzero
  · refine Or.inr ?_
    have hlog := two_pow_shiftOf_le hzero
    calc 2 ^ 52 * (b * 2 ^ shiftOf a b) = b * 2 ^ (shiftOf a b + 52) := by
          rw [Nat.pow_add]
          ring
      _ ≤ b * (a / b) := Nat.mul_le_mul_left b hlog
      _ ≤ a := Nat.mul_div_le a b

end Binary64

end FamilyDesign.Numeric
