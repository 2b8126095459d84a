import FamilyDesign.Proofs.Numeric.Order
import FamilyDesign.Proofs.Numeric.ReadBack
import Mathlib.Analysis.SpecialFunctions.Sqrt
import Mathlib.Tactic.FieldSimp

/-!
# How far off a result is

Every operation rounds its exact result once, so a finite result is off by a part in `2 ^ 53` of it
and by a smallest magnitude at most.

* **`isFinite_div`** — a quotient by a number from one on is in range.
* **`natSqrt_eq`** — the integer root is reached within the steps that it is given.
* **`abs_real_ofValue_sub_le`** — how far off one rounding is; from it **`abs_real_add_sub_le`**,
  **`abs_real_mul_self_sub_le`** and **`abs_real_sqrt_sub_le`** for sums, squares and square roots.
* **`isFinite_ofValue`** — up to a million nothing is out of range.
-/

namespace FamilyDesign.Numeric.Binary64

-- Powers are those of the core library, whatever algebra is imported beside this module.
attribute [local instance (1100)] instPowNat

theorem value_one : (1 : Binary64).value = unitsPerOne := by
  decide +kernel

/-! ## Quotients in range -/

/-- A quotient by a number from one on is no greater than the dividend, so it is in range. -/
theorem isFinite_div {x y : Binary64} (hx : x.isFinite = true) (hone : 1 ≤ y)
    (hy : y.isFinite = true) : (x / y).isFinite = true := by
  have hvalue := value_le_value hone
  obtain ⟨r', bounded', rfl⟩ := unsigned_of_pos (zero_lt_of_one_le hone)
  rw [value_one] at hvalue
  have hunit : unitsPerOne ≤ units r' := Int.ofNat_le.mp hvalue
  have hpos : 0 < units r' := Nat.lt_of_lt_of_le unitsPerOne_pos hunit
  have hr' : r' ≠ infinityRank := by simpa [isFinite] using hy
  have hne : r' ≠ 0 := fun hzero => hpos.ne' (units_eq_zero_iff.mpr hzero)
  cases x with
  | nan shared => cases hx
  | ranked s r bounded =>
    have hr : r ≠ infinityRank := by simpa [isFinite] using hx
    -- Divided by at least one unit per unit, the exact quotient is no greater than the dividend.
    have hle : nearestRank (units r * unitsPerOne) (units r') ≤ r :=
      calc nearestRank (units r * unitsPerOne) (units r')
          ≤ nearestRank (units r * units r') (units r') :=
            nearestRank_mono _ (Nat.mul_le_mul_left _ hunit)
        _ = nearestRank (units r * units r') (1 * units r') := by rw [Nat.one_mul]
        _ = nearestRank (units r) 1 := nearestRank_mul_right _ _ hpos
        _ = r := nearestRank_units (by omega)
    show (Binary64.div (ranked s r bounded) (ranked false r' bounded')).isFinite = true
    simp only [Binary64.div, if_neg hr, if_neg hr', if_neg hne]
    exact isFinite_ranked_iff.mpr (by omega)

/-! ## Integer roots -/

/-- Newton's step stays at the root or above it, and it halves the distance. -/
theorem newton_step {n guess : Nat} (h : Nat.sqrt n ≤ guess) :
    Nat.sqrt n ≤ (guess + n / guess) / 2 ∧
      (Nat.sqrt n < guess → (guess + n / guess) / 2 ≤ (guess + Nat.sqrt n) / 2) := by
  constructor
  · rcases Nat.eq_zero_or_pos guess with rfl | hpos
    · omega
    · -- the mean of a guess and its counterpart is no less than the root
      have hmean : 2 * Nat.sqrt n - guess ≤ n / guess := by
        rw [Nat.le_div_iff_mul_le hpos]
        have hroot := Nat.sqrt_le' n
        obtain ⟨k, rfl⟩ := Nat.exists_eq_add_of_le h
        have hsquare : (2 * Nat.sqrt n - (Nat.sqrt n + k)) * (Nat.sqrt n + k)
            ≤ Nat.sqrt n ^ 2 := by
          rcases Nat.le_total k (Nat.sqrt n) with hk | hk
          · obtain ⟨j, hj⟩ := Nat.exists_eq_add_of_le hk
            rw [hj, show 2 * (k + j) - (k + j + k) = j from by omega]
            nlinarith
          · rw [show 2 * Nat.sqrt n - (Nat.sqrt n + k) = 0 from by omega, Nat.zero_mul]
            exact Nat.zero_le _
        exact Nat.le_trans hsquare hroot
      omega
  · intro hlt
    have hdiv : n / guess ≤ Nat.sqrt n := by
      have hroot := Nat.lt_succ_sqrt n
      refine Nat.le_of_lt_succ ((Nat.div_lt_iff_lt_mul (by omega)).mpr ?_)
      exact Nat.lt_of_lt_of_le hroot (Nat.mul_le_mul_left _ hlt)
    omega

/-- Induction on the steps, which are as many as the distance has bits. -/
theorem natSqrtFrom_eq {n fuel guess : Nat} (hle : Nat.sqrt n ≤ guess)
    (hnear : guess - Nat.sqrt n < 2 ^ fuel) : natSqrtFrom n fuel guess = Nat.sqrt n := by
  induction fuel generalizing guess with
  | zero =>
    show guess = Nat.sqrt n
    rw [Nat.pow_zero] at hnear
    omega
  | succ fuel ih =>
    obtain ⟨habove, hhalved⟩ := newton_step hle
    unfold natSqrtFrom
    dsimp only
    rw [Nat.pow_succ] at hnear
    split
    · next hlt =>
      -- At the root itself the step cannot go lower; above it, it must.
      rcases Nat.eq_or_lt_of_le hle with heq | hfar
      · omega
      · have := hhalved hfar
        exact ih habove (by omega)
    · next hstop =>
      rcases Nat.eq_or_lt_of_le hle with heq | hfar
      · exact heq.symm
      · have := hhalved hfar
        omega

/-- The integer root is reached within the steps that it is given. -/
theorem natSqrt_eq (n : Nat) : natSqrt n = Nat.sqrt n := by
  unfold natSqrt
  split
  · next hzero => rw [hzero, Nat.sqrt_zero]
  · next hne =>
    have hlog : n < 2 ^ (n.log2 + 1) := Nat.lt_log2_self
    have hguess : Nat.sqrt n < 2 ^ (n.log2 / 2 + 1) := by
      rw [Nat.sqrt_lt', ← Nat.pow_mul]
      exact Nat.lt_of_lt_of_le hlog (Nat.pow_le_pow_right (by decide) (by omega))
    have hpower : 2 ^ (n.log2 / 2 + 1) < 2 ^ (n.log2 + 2) :=
      Nat.pow_lt_pow_right (by decide) (by omega)
    refine natSqrtFrom_eq (Nat.le_of_lt hguess) (Nat.lt_of_le_of_lt (Nat.sub_le _ _) hpower)

/-! ## Real numbers -/

/-- The real number that a finite number is. -/
noncomputable def real (x : Binary64) : ℝ := x.value / unitsPerOne

theorem unitsPerOne_pos_real : (0 : ℝ) < unitsPerOne := by
  exact_mod_cast unitsPerOne_pos

/-- The magnitude of the nearest rank is off by a part in `2 ^ 53` of the quotient, and by half a
unit. -/
theorem abs_units_nearestRank_sub_le {a b : Nat} (hb : 0 < b)
    (hfit : nearestRank a b < infinityRank) :
    |(units (nearestRank a b) : ℝ) - a / b| ≤ a / b / 2 ^ (53 : ℕ) + 1 / 2 := by
  have hpos : (0 : ℝ) < b := by exact_mod_cast hb
  have habove : (2 * (units (nearestRank a b) * b) : ℝ) ≤ 2 * a + b * 2 ^ shiftOf a b := by
    exact_mod_cast two_mul_units_nearestRank_le hfit
  have hbelow : (2 * a : ℝ) ≤ 2 * (units (nearestRank a b) * b) + b * 2 ^ shiftOf a b := by
    exact_mod_cast two_mul_le_units_nearestRank hb hfit
  -- a unit of the last place is one unit, or small against the quotient
  have hulp : (b * 2 ^ shiftOf a b : ℝ) ≤ b + a / 2 ^ (52 : ℕ) := by
    rcases ulp_le (a := a) (b := b) with hzero | hlast
    · rw [hzero]
      have : (0 : ℝ) ≤ a / 2 ^ (52 : ℕ) := by positivity
      linarith
    · have hcast : (2 ^ (52 : ℕ) * (b * 2 ^ shiftOf a b) : ℝ) ≤ a := by exact_mod_cast hlast
      have : (b * 2 ^ shiftOf a b : ℝ) ≤ a / 2 ^ (52 : ℕ) := by
        rw [le_div_iff₀ (by positivity)]
        linarith
      linarith
  have hsplit : (units (nearestRank a b) : ℝ) - a / b
      = (units (nearestRank a b) * b - a) / b := by
    field_simp
  rw [hsplit, abs_div, abs_of_pos hpos, div_le_iff₀ hpos, abs_le]
  have hbound : ((a : ℝ) / b / 2 ^ (53 : ℕ) + 1 / 2) * b = a / 2 ^ (53 : ℕ) + b / 2 := by
    field_simp
  rw [hbound]
  constructor <;> norm_num at hulp ⊢ <;> linarith

/-- What one rounding may take a real number off by. -/
noncomputable def slack (r : ℝ) : ℝ := |r| / 2 ^ (53 : ℕ) + 1 / unitsPerOne

theorem slack_nonneg (r : ℝ) : 0 ≤ slack r :=
  add_nonneg (by positivity) (one_div_pos.mpr unitsPerOne_pos_real).le

theorem slack_le_slack {r r' : ℝ} (h : |r| ≤ |r'|) : slack r ≤ slack r' := by
  unfold slack
  gcongr

/-- A unit is far below what is reckoned with here. -/
theorem one_div_unitsPerOne_le : (1 : ℝ) / unitsPerOne ≤ 1 / 10 ^ (17 : ℕ) := by
  have hunits : 10 ^ 17 ≤ unitsPerOne := by
    decide +kernel
  have hcast : (10 : ℝ) ^ (17 : ℕ) ≤ unitsPerOne := by exact_mod_cast hunits
  exact one_div_le_one_div_of_le (by positivity) hcast

theorem slack_le (r : ℝ) : slack r ≤ |r| / 2 ^ (53 : ℕ) + 1 / 10 ^ (17 : ℕ) :=
  add_le_add_right one_div_unitsPerOne_le _

/-- What a number is off by that is rounded from another one. -/
theorem abs_sub_le_of_rounded {x y z : ℝ} (h : |x - y| ≤ slack y) :
    |x - z| ≤ slack z + 2 * |y - z| := by
  have hsize := abs_sub_abs_le_abs_sub y z
  have htriangle := abs_sub_le x y z
  unfold slack at *
  generalize (1 / unitsPerOne : ℝ) = unit at *
  norm_num at *
  have hnear := abs_nonneg (y - z)
  linarith

/-- An exact value that is not negative is rounded without a sign. -/
theorem ofValue_natCast (a b : Nat) : ofValue a b false = nearest false a b := by
  have hsign : (if (a : Int) = 0 then false else decide ((a : Int) < 0)) = false := by
    split
    · rfl
    · exact decide_eq_false (by omega)
  unfold ofValue
  rw [hsign, Int.natAbs_natCast]

/-- The rounded value has the sign of the exact one and the magnitude nearest to it. -/
theorem value_ofValue (v : Int) (b : Nat) (zeroNegative : Bool) :
    (ofValue v b zeroNegative).value
      = if v < 0 then -(units (nearestRank v.natAbs b) : Int)
        else units (nearestRank v.natAbs b) := by
  unfold ofValue nearest value
  dsimp only
  by_cases hzero : v = 0
  · subst hzero
    rw [Int.natAbs_zero, nearestRank_zero, units_eq_zero_iff.mpr rfl]
    simp
  · simp [hzero]

/-- The number nearest to an exact value is near to it. -/
theorem abs_real_ofValue_sub_le {v : Int} {b : Nat} {zeroNegative : Bool} (hb : 0 < b)
    (hfit : (ofValue v b zeroNegative).isFinite = true) :
    |(ofValue v b zeroNegative).real - v / b / unitsPerOne| ≤ slack (v / b / unitsPerOne) := by
  have hunit := unitsPerOne_pos_real
  have hbpos : (0 : ℝ) < b := by exact_mod_cast hb
  have hround := abs_units_nearestRank_sub_le hb (isFinite_ranked_iff.mp hfit)
  have habs : ((v.natAbs : ℕ) : ℝ) = |(v : ℝ)| := by
    rw [Nat.cast_natAbs, Int.cast_abs]
  rw [habs] at hround
  -- The sign is carried past the rounding, so only magnitudes are rounded.
  have hvalue : |((ofValue v b zeroNegative).value : ℝ) - v / b|
      = |(units (nearestRank v.natAbs b) : ℝ) - |(v : ℝ)| / b| := by
    rw [value_ofValue]
    split
    · next hneg =>
      have hcast : (v : ℝ) < 0 := by exact_mod_cast hneg
      rw [abs_of_neg hcast, ← abs_neg]
      push_cast
      ring_nf
    · next hnonneg =>
      have hcast : (0 : ℝ) ≤ v := by exact_mod_cast Int.not_lt.mp hnonneg
      rw [abs_of_nonneg hcast]
      push_cast
      rfl
  unfold real slack
  rw [← sub_div, abs_div, hvalue, abs_of_pos hunit, abs_div, abs_div, abs_of_pos hunit,
    abs_of_pos hbpos, div_le_iff₀ hunit]
  have hbound : (|(v : ℝ)| / b / unitsPerOne / 2 ^ (53 : ℕ) + 1 / unitsPerOne) * unitsPerOne
      = |(v : ℝ)| / b / 2 ^ (53 : ℕ) + 1 := by
    field_simp
  rw [hbound]
  linarith

theorem value_add_div (x y : Binary64) :
    ((x.value + y.value : Int) : ℝ) / (1 : Nat) / unitsPerOne = x.real + y.real := by
  unfold real
  rw [Nat.cast_one, div_one, Int.cast_add, add_div]

/-- **A sum is off by one rounding.** -/
theorem abs_real_add_sub_le {x y : Binary64} (hx : x.isFinite = true) (hy : y.isFinite = true)
    (hfit : (x + y).isFinite = true) :
    |(x + y).real - (x.real + y.real)| ≤ slack (x.real + y.real) := by
  rw [add_of_isFinite hx hy] at hfit ⊢
  have hround := abs_real_ofValue_sub_le Nat.one_pos hfit
  rwa [value_add_div] at hround

/-- A square is the number nearest to the exact square. -/
theorem mul_self_of_isFinite {x : Binary64} (hx : x.isFinite = true) :
    x * x = ofValue (x.value * x.value) unitsPerOne false := by
  cases x with
  | nan shared => cases hx
  | ranked s r h =>
    rw [isFinite_ranked_iff] at hx
    have hsquare : (ranked s r h).value * (ranked s r h).value
        = ((units r * units r : Nat) : Int) := by
      cases s with
      | false => exact (Int.natCast_mul _ _).symm
      | true => exact (Int.neg_mul_neg _ _).trans (Int.natCast_mul _ _).symm
    show Binary64.mul (ranked s r h) (ranked s r h) = _
    simp only [Binary64.mul, Nat.ne_of_lt hx, or_self, if_false, bne_self_eq_false]
    rw [hsquare, ofValue_natCast]

/-- The exact square in units is the square of the real. -/
theorem value_mul_self_div (x : Binary64) :
    ((x.value * x.value : Int) : ℝ) / (unitsPerOne : Nat) / unitsPerOne = x.real ^ 2 := by
  unfold real
  push_cast
  ring

/-- **A square is off by one rounding.** -/
theorem abs_real_mul_self_sub_le {x : Binary64} (hx : x.isFinite = true)
    (hfit : (x * x).isFinite = true) : |(x * x).real - x.real ^ 2| ≤ slack (x.real ^ 2) := by
  rw [mul_self_of_isFinite hx] at hfit ⊢
  have hround := abs_real_ofValue_sub_le unitsPerOne_pos hfit
  rwa [value_mul_self_div] at hround

/-- Twice an integer root, with a mark for what lies behind it. -/
def markedRoot (n : Nat) : Nat := 2 * Nat.sqrt n + if Nat.sqrt n * Nat.sqrt n = n then 0 else 1

/-- The root with its mark is the doubled root to within one. -/
theorem abs_markedRoot_sub_le (n : Nat) : |(markedRoot n : ℝ) - 2 * √(n : ℝ)| ≤ 1 := by
  have hlow : (Nat.sqrt n : ℝ) ≤ √(n : ℝ) := Real.nat_sqrt_le_real_sqrt
  have hhigh : √(n : ℝ) ≤ Nat.sqrt n + 1 := Real.real_sqrt_le_nat_sqrt_succ
  unfold markedRoot
  split
  · next hexact =>
    have hroot : √(n : ℝ) = Nat.sqrt n := by
      rw [Real.sqrt_eq_iff_mul_self_eq (Nat.cast_nonneg _) (Nat.cast_nonneg _)]
      exact_mod_cast hexact.symm
    rw [hroot]
    push_cast
    simp
  · push_cast
    rw [abs_le]
    constructor <;> linarith

/-- A root is the number nearest to an eighth of a marked root. -/
theorem sqrt_of_isFinite {r : Nat} {h : r ≤ infinityRank} (hzero : r ≠ 0)
    (hfin : r ≠ infinityRank) :
    (ranked false r h).sqrt = ofValue (markedRoot (16 * (units r * unitsPerOne))) 8 false := by
  have hmarked : ∀ n, nearest false
      (2 * natSqrt n + if natSqrt n * natSqrt n = n then 0 else 1) 8
        = ofValue (markedRoot n) 8 false := by
    intro n
    rw [natSqrt_eq, ofValue_natCast]
    rfl
  unfold sqrt
  dsimp only
  rw [hmarked, if_neg hzero, if_neg Bool.false_ne_true, if_neg hfin]

/-- The scale comes out of the root. -/
theorem sqrt_mul_eq {u d : ℝ} (hu : 0 ≤ u) (hd : 0 < d) :
    √(16 * (u * d)) = 4 * √(u / d) * d := by
  rw [Real.sqrt_eq_iff_mul_self_eq (by positivity) (by positivity)]
  have hsquare := Real.mul_self_sqrt (show 0 ≤ u / d by positivity)
  have hcancel : u / d * d = u := div_mul_cancel₀ u hd.ne'
  linear_combination (-16 * d ^ 2) * hsquare - 16 * d * hcancel

/-- What is off by one in eighths of a unit. -/
theorem abs_div_sub_le {n root d : ℝ} (hd : 0 < d) (h : |n - 2 * (4 * root * d)| ≤ 1) :
    |n / 8 / d - root| ≤ 1 / d / 8 := by
  have hsplit : n / 8 / d - root = (n - 2 * (4 * root * d)) / d / 8 := by
    field_simp
    ring
  rw [hsplit, abs_div, abs_div, abs_of_pos hd, abs_of_pos (by norm_num : (0 : ℝ) < 8)]
  gcongr

/-- Scaled back, the marked root is near to the real one. -/
theorem abs_markedRoot_div_sub_le {r : Nat} {h : r ≤ infinityRank} :
    |(markedRoot (16 * (units r * unitsPerOne)) : ℝ) / 8 / unitsPerOne - √(ranked false r h).real|
      ≤ 1 / unitsPerOne / 8 := by
  have hreal : (ranked false r h).real = units r / unitsPerOne := rfl
  have hmarked := abs_markedRoot_sub_le (16 * (units r * unitsPerOne))
  rw [Nat.cast_mul, Nat.cast_mul, Nat.cast_ofNat,
    sqrt_mul_eq (Nat.cast_nonneg _) unitsPerOne_pos_real, ← hreal] at hmarked
  exact abs_div_sub_le unitsPerOne_pos_real hmarked

/-- **A root is off by two roundings**: that of the marked root and its own. -/
theorem abs_real_sqrt_sub_le {x : Binary64} (hx : x.Unsigned) (hfin : x.isFinite = true)
    (hfit : x.sqrt.isFinite = true) : |x.sqrt.real - √x.real| ≤ 2 * slack √x.real := by
  have hunit := unitsPerOne_pos_real
  obtain ⟨r, h, rfl⟩ := hx
  rw [isFinite_ranked_iff] at hfin
  by_cases hzero : r = 0
  · subst hzero
    have hreal : (ranked false 0 h).real = 0 := by
      unfold real
      rw [show (ranked false 0 h).value = 0 from rfl, Int.cast_zero, zero_div]
    have hsqrt : (ranked false 0 h).sqrt = ranked false 0 h := rfl
    rw [hsqrt, hreal, Real.sqrt_zero, sub_zero, abs_zero]
    exact mul_nonneg zero_le_two (slack_nonneg 0)
  · have hnear := abs_markedRoot_div_sub_le (h := h)
    rw [sqrt_of_isFinite hzero (Nat.ne_of_lt hfin)] at hfit ⊢
    have hround := abs_real_ofValue_sub_le (by decide) hfit
    rw [Int.cast_natCast, Nat.cast_ofNat] at hround
    -- The rounding of the marked root, and what the mark stands for: a unit over eight.
    have htotal := abs_sub_le_of_rounded (z := √(ranked false r h).real) hround
    have hleast : 1 / unitsPerOne ≤ slack √(ranked false r h).real :=
      le_add_of_nonneg_left (by positivity)
    have hnonneg := slack_nonneg √(ranked false r h).real
    linarith

/-! ## Results in range -/

/-- Up to a million nothing is out of range. -/
theorem isFinite_ofValue {v : Int} {b : Nat} (zeroNegative : Bool) (hb : 0 < b)
    (h : |(v : ℝ) / b / unitsPerOne| ≤ 1000000) : (ofValue v b zeroNegative).isFinite = true := by
  have hunit := unitsPerOne_pos_real
  have hbpos : (0 : ℝ) < b := by exact_mod_cast hb
  have hmillion := isFinite_ofNat (Nat.le_refl 1000000)
  rw [ofNat_eq_nearest] at hmillion
  have hbound : v.natAbs ≤ 1000000 * unitsPerOne * b := by
    rw [abs_div, abs_div, abs_of_pos hunit, abs_of_pos hbpos, div_le_iff₀ hunit,
      div_le_iff₀ hbpos] at h
    have hcast : ((v.natAbs : ℕ) : ℝ) ≤ 1000000 * unitsPerOne * b := by
      rwa [Nat.cast_natAbs, Int.cast_abs]
    exact_mod_cast hcast
  -- Rounding is monotone, and a million itself is a number in range.
  refine isFinite_ranked_iff.mpr (Nat.lt_of_le_of_lt (nearestRank_mono b hbound) ?_)
  have hscaled := nearestRank_mul_right (1000000 * unitsPerOne) 1 hb
  rw [Nat.one_mul] at hscaled
  rw [hscaled]
  exact isFinite_ranked_iff.mp hmillion

/-- A sum of up to a million is in range. -/
theorem isFinite_add {x y : Binary64} (hx : x.isFinite = true) (hy : y.isFinite = true)
    (h : |x.real + y.real| ≤ 1000000) : (x + y).isFinite = true := by
  rw [add_of_isFinite hx hy]
  refine isFinite_ofValue _ Nat.one_pos ?_
  rwa [value_add_div]

/-- A square of up to a million is in range. -/
theorem isFinite_mul_self {x : Binary64} (hx : x.isFinite = true) (h : x.real ^ 2 ≤ 1000000) :
    (x * x).isFinite = true := by
  rw [mul_self_of_isFinite hx]
  refine isFinite_ofValue _ unitsPerOne_pos ?_
  rwa [value_mul_self_div, abs_of_nonneg (sq_nonneg _)]

/-- A root of up to a hundred is in range. -/
theorem isFinite_sqrt {x : Binary64} (hx : x.Unsigned) (hfin : x.isFinite = true)
    (h : √x.real ≤ 100) : x.sqrt.isFinite = true := by
  obtain ⟨r, bounded, rfl⟩ := hx
  by_cases hzero : r = 0
  · subst hzero
    exact hfin
  · have hnear := abs_markedRoot_div_sub_le (h := bounded)
    have hunit : (1 : ℝ) / unitsPerOne ≤ 1 := one_div_unitsPerOne_le.trans (by norm_num)
    have hroot := Real.sqrt_nonneg (ranked false r bounded).real
    rw [sqrt_of_isFinite hzero (Nat.ne_of_lt (isFinite_ranked_iff.mp hfin))]
    refine isFinite_ofValue _ (by decide) ?_
    rw [Int.cast_natCast, Nat.cast_ofNat]
    rw [abs_le] at hnear ⊢
    constructor <;> linarith

/-- The parts of a finite sum are finite. -/
theorem isFinite_of_add {x y : Binary64} (h : (x + y).isFinite = true) :
    x.isFinite = true ∧ y.isFinite = true := by
  have hleft : ∀ {x y : Binary64}, (x + y).isFinite = true → x.isFinite = true := by
    intro x y h
    have hdef := isUndefined_of_isFinite h
    rcases isFinite_or_isInfinite (defined_of_add hdef) with hfin | hinf
    · exact hfin
    · rwa [add_of_isInfinite hinf hdef] at h
  exact ⟨hleft h, hleft (add_swap x y ▸ h)⟩

/-- A square is out of range where the number is. -/
theorem isFinite_of_mul_self {x : Binary64} (h : (x * x).isFinite = true) : x.isFinite = true := by
  cases x with
  | nan shared => cases h
  | ranked s r bounded =>
    rcases Nat.lt_or_eq_of_le bounded with hlt | rfl
    · exact isFinite_ranked_iff.mpr hlt
    · have hinfinite : ∀ s, (infinity s * infinity s).isFinite = false := by
        decide +kernel
      exact absurd h (Bool.not_eq_true _ ▸ hinfinite s)

/-- A root is out of range where the number is. -/
theorem isFinite_of_sqrt {x : Binary64} (h : x.sqrt.isFinite = true) : x.isFinite = true := by
  cases x with
  | nan shared => cases h
  | ranked s r bounded =>
    rcases Nat.lt_or_eq_of_le bounded with hlt | rfl
    · exact isFinite_ranked_iff.mpr hlt
    · have hinfinite : ∀ s, (infinity s).sqrt.isFinite = false := by
        decide +kernel
      exact absurd h (Bool.not_eq_true _ ▸ hinfinite s)

/-! ## Undefined results -/

/-- The square of what is defined has no sign. -/
theorem unsigned_mul_self {x : Binary64} (h : x.isUndefined = false) : (x * x).Unsigned := by
  rcases isFinite_or_isInfinite h with hfin | hinf
  · rw [mul_self_of_isFinite hfin]
    exact unsigned_ofValue (mul_self_nonneg _) _
  · cases x with
    | nan shared => cases h
    | ranked s r bounded =>
      have hr : r = infinityRank := by simpa [isInfinite] using hinf
      subst hr
      have hsquare : ∀ s, infinity s * infinity s = infinity false := by
        decide +kernel
      exact ⟨infinityRank, Nat.le_refl _, hsquare s⟩

theorem Unsigned.real_nonneg {x : Binary64} (h : x.Unsigned) : 0 ≤ x.real := by
  obtain ⟨r, bounded, rfl⟩ := h
  exact div_nonneg (Nat.cast_nonneg (units r)) unitsPerOne_pos_real.le

/-- A root of what has no sign has none. -/
theorem Unsigned.sqrt {x : Binary64} (h : x.Unsigned) : x.sqrt.Unsigned := by
  obtain ⟨r, bounded, rfl⟩ := h
  by_cases hzero : r = 0
  · subst hzero
    exact unsigned_ranked 0 _
  · by_cases hfin : r = infinityRank
    · subst hfin
      have hroot : (infinity false).sqrt = infinity false := by
        decide +kernel
      exact ⟨infinityRank, Nat.le_refl _, hroot⟩
    · rw [sqrt_of_isFinite hzero hfin, ofValue_natCast]
      exact unsigned_nearest _ _

/-- A sum with an undefined part is undefined. -/
theorem isUndefined_of_isUndefined_add {x y : Binary64}
    (h : x.isUndefined = true ∨ y.isUndefined = true) : (x + y).isUndefined = true := by
  cases x with
  | nan shared => cases y <;> rfl
  | ranked s r bounded =>
    cases y with
    | nan shared => rfl
    | ranked s' r' bounded' => rcases h with h | h <;> cases h

/-- The square of an undefined number is undefined. -/
theorem isUndefined_mul_self_of_isUndefined {x : Binary64} (h : x.isUndefined = true) :
    (x * x).isUndefined = true := by
  cases x with
  | nan shared => rfl
  | ranked s r bounded => cases h

/-- The root of an undefined number is undefined. -/
theorem isUndefined_sqrt_of_isUndefined {x : Binary64} (h : x.isUndefined = true) :
    x.sqrt.isUndefined = true := by
  cases x with
  | nan shared => rfl
  | ranked s r bounded => cases h

/-! ## Order -/

theorem real_one : (1 : Binary64).real = 1 := by
  unfold real
  rw [value_one, Int.cast_natCast]
  exact div_self unitsPerOne_pos_real.ne'

theorem real_neg (x : Binary64) : (-x).real = -x.real := by
  unfold real
  rw [value_neg, Int.cast_neg, neg_div]

theorem real_abs (x : Binary64) : x.abs.real = |x.real| := by
  have hvalue : x.abs.value = |x.value| := by
    cases x with
    | nan shared => rfl
    | ranked s r bounded =>
      cases s with
      | false => exact (abs_of_nonneg (Int.natCast_nonneg _)).symm
      | true => exact ((abs_neg _).trans (abs_of_nonneg (Int.natCast_nonneg _))).symm
  unfold real
  rw [hvalue, Int.cast_abs, abs_div, abs_of_pos unitsPerOne_pos_real]

theorem real_le_real {x y : Binary64} (h : x ≤ y) : x.real ≤ y.real := by
  have hcast : (x.value : ℝ) ≤ y.value := by exact_mod_cast value_le_value h
  exact div_le_div_of_nonneg_right hcast unitsPerOne_pos_real.le

theorem le_of_real_lt {x y : Binary64} (hx : x.isUndefined = false) (hy : y.isUndefined = false)
    (h : x.real < y.real) : x ≤ y := by
  refine le_of_not_lt hx hy fun hlt => ?_
  exact absurd (real_le_real (le_of_lt hlt)) (not_le_of_gt h)

end FamilyDesign.Numeric.Binary64
