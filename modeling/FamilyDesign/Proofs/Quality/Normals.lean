import FamilyDesign.Proofs.Numeric.Accuracy
import FamilyDesign.Quality.Geometry

/-!
# The length of a normal

The length of a normal is computed with three squares, two sums and a root, each rounded once, and
so is its distance from one. The real length is near to what comes out of that.

* **`isUndefined_magnitude`** — the length is undefined just if a coordinate is.
* **`abs_real_squares_sub_le`**, **`abs_real_magnitude_sub_le`** — how far off the sum of the
  squares is, and the length.
* **`isUnit_of_isNear`**, **`isNear_of_isUnit`** — what is taken for a unit vector is one, up to the
  last places.
-/

namespace FamilyDesign

open Numeric (Binary64)

-- Powers are those of the core library, whatever algebra is imported beside this module.
attribute [local instance (1100)] instPowNat

namespace Quality.Geometry

open Numeric.Binary64

/-- A vector with a coordinate that is undefined. -/
def Undefined (v : Point3) : Prop :=
  v.x.isUndefined = true ∨ v.y.isUndefined = true ∨ v.z.isUndefined = true

/-- The sum of the squares has no sign where it is defined. -/
theorem unsigned_squares {v : Point3} (h : ¬Undefined v) :
    (v.x * v.x + v.y * v.y + v.z * v.z).Unsigned := by
  unfold Undefined at h
  simp only [not_or, Bool.not_eq_true] at h
  obtain ⟨hx, hy, hz⟩ := h
  exact ((unsigned_mul_self hx).add (unsigned_mul_self hy)).add (unsigned_mul_self hz)

/-- Where the coordinates are defined, the length is a number without a sign. -/
theorem unsigned_magnitude {v : Point3} (h : ¬Undefined v) : (magnitude v).Unsigned := by
  exact (unsigned_squares h).sqrt

/-- A length is undefined just if one of the coordinates is. -/
theorem isUndefined_magnitude {v : Point3} :
    (magnitude v).isUndefined = true ↔ Undefined v := by
  constructor
  · intro h
    by_contra hdefined
    rw [(unsigned_magnitude hdefined).defined] at h
    cases h
  · intro h
    refine isUndefined_sqrt_of_isUndefined (isUndefined_of_isUndefined_add ?_)
    rcases h with h | h | h
    · exact Or.inl (isUndefined_of_isUndefined_add
        (Or.inl (isUndefined_mul_self_of_isUndefined h)))
    · exact Or.inl (isUndefined_of_isUndefined_add
        (Or.inr (isUndefined_mul_self_of_isUndefined h)))
    · exact Or.inr (isUndefined_mul_self_of_isUndefined h)

/-! ## Squares and their sum -/

/-- The sum of the squares of the coordinates. -/
noncomputable def squares (v : Point3) : ℝ := v.x.real ^ 2 + v.y.real ^ 2 + v.z.real ^ 2

/-- The length of a vector, a real number. -/
noncomputable def length (v : Point3) : ℝ := √(squares v)

theorem squares_nonneg (v : Point3) : 0 ≤ squares v := by
  unfold squares
  positivity

variable {v : Point3}

/-- Three roundings on the way to the sum, with the two sums adding up what came before. -/
theorem abs_real_squares_sub_le
    (hfit : (v.x * v.x + v.y * v.y + v.z * v.z).isFinite = true) :
    |(v.x * v.x + v.y * v.y + v.z * v.z).real - squares v| ≤ 13 * slack (squares v) := by
  obtain ⟨hfirst, hsz⟩ := isFinite_of_add hfit
  obtain ⟨hsx, hsy⟩ := isFinite_of_add hfirst
  have hslack : ∀ r, 0 ≤ r → r ≤ squares v → slack r ≤ slack (squares v) := by
    intro r hr hle
    exact slack_le_slack (abs_le_abs_of_nonneg hr hle)
  have hxx := sq_nonneg v.x.real
  have hyy := sq_nonneg v.y.real
  have hzz := sq_nonneg v.z.real
  have hsum : squares v = v.x.real ^ 2 + v.y.real ^ 2 + v.z.real ^ 2 := rfl
  have hx := (abs_real_mul_self_sub_le (isFinite_of_mul_self hsx) hsx).trans
    (hslack _ hxx (by linarith))
  have hy := (abs_real_mul_self_sub_le (isFinite_of_mul_self hsy) hsy).trans
    (hslack _ hyy (by linarith))
  have hz := (abs_real_mul_self_sub_le (isFinite_of_mul_self hsz) hsz).trans
    (hslack _ hzz (by linarith))
  -- Two squares and the rounding of their sum, each within the slack of the whole.
  have htwo : |(v.x * v.x + v.y * v.y).real - (v.x.real ^ 2 + v.y.real ^ 2)|
      ≤ 5 * slack (squares v) := by
    have hround := abs_sub_le_of_rounded (z := v.x.real ^ 2 + v.y.real ^ 2)
      (abs_real_add_sub_le hsx hsy hfirst)
    have hadd := abs_add_le ((v.x * v.x).real - v.x.real ^ 2) ((v.y * v.y).real - v.y.real ^ 2)
    rw [sub_add_sub_comm] at hadd
    have hleast := hslack _ (add_nonneg hxx hyy) (by linarith)
    linarith
  have hround := abs_sub_le_of_rounded (z := squares v) (abs_real_add_sub_le hfirst hsz hfit)
  have hadd := abs_add_le ((v.x * v.x + v.y * v.y).real - (v.x.real ^ 2 + v.y.real ^ 2))
    ((v.z * v.z).real - v.z.real ^ 2)
  rw [sub_add_sub_comm, ← hsum] at hadd
  linarith

/-- Short vectors do not leave the range. -/
theorem isFinite_squares (hx : v.x.isFinite = true) (hy : v.y.isFinite = true)
    (hz : v.z.isFinite = true) (h : squares v ≤ 2) :
    (v.x * v.x + v.y * v.y + v.z * v.z).isFinite = true := by
  have hxx := sq_nonneg v.x.real
  have hyy := sq_nonneg v.y.real
  have hzz := sq_nonneg v.z.real
  have hsum : squares v = v.x.real ^ 2 + v.y.real ^ 2 + v.z.real ^ 2 := rfl
  -- Each square is at most two, and the roundings add no more than one apiece.
  have hround : ∀ {x : Binary64}, x.isFinite = true → x.real ^ 2 ≤ 2 →
      (x * x).isFinite = true ∧ |(x * x).real - x.real ^ 2| ≤ 1 := by
    intro x hfin hle
    have hfit := isFinite_mul_self hfin (hle.trans (by norm_num))
    have hslack : slack (x.real ^ 2) ≤ 1 := by
      refine (slack_le _).trans ?_
      rw [abs_of_nonneg (sq_nonneg _)]
      norm_num
      linarith
    exact ⟨hfit, (abs_real_mul_self_sub_le hfin hfit).trans hslack⟩
  obtain ⟨hfitx, hnearx⟩ := hround hx (by linarith)
  obtain ⟨hfity, hneary⟩ := hround hy (by linarith)
  obtain ⟨hfitz, hnearz⟩ := hround hz (by linarith)
  rw [abs_le] at hnearx hneary hnearz
  have hfirst := isFinite_add hfitx hfity (abs_le.mpr ⟨by linarith, by linarith⟩)
  have hslack : slack ((v.x * v.x).real + (v.y * v.y).real) ≤ 1 := by
    have hten : |(v.x * v.x).real + (v.y * v.y).real| ≤ 10 :=
      abs_le.mpr ⟨by linarith, by linarith⟩
    exact (slack_le _).trans (by norm_num; linarith)
  have hnear := (abs_real_add_sub_le hfitx hfity hfirst).trans hslack
  rw [abs_le] at hnear
  exact isFinite_add hfirst hfitz (abs_le.mpr ⟨by linarith, by linarith⟩)

/-! ## Roots -/

/-- Roots of numbers that are near to each other, one of them not small. -/
theorem abs_sqrt_sub_sqrt_le {s t : ℝ} (hs : 0 ≤ s) (ht : 0 ≤ t) (hroot : 1 / 2 ≤ √t) :
    |√s - √t| ≤ 2 * |s - t| := by
  have hsquares : |√s - √t| * (√s + √t) = |s - t| := by
    rw [← abs_of_nonneg (add_nonneg (Real.sqrt_nonneg s) (Real.sqrt_nonneg t)), ← abs_mul]
    congr 1
    linear_combination Real.mul_self_sqrt hs - Real.mul_self_sqrt ht
  have hhalf : |√s - √t| * (1 / 2) ≤ |√s - √t| * (√s + √t) :=
    mul_le_mul_of_nonneg_left (by linarith [Real.sqrt_nonneg s]) (abs_nonneg _)
  linarith

/-- The exact length is the root of the exact squares. -/
theorem mul_self_length (v : Point3) : length v * length v = squares v :=
  Real.mul_self_sqrt (squares_nonneg v)

/-- The exact root of the computed sum. -/
theorem abs_sqrt_real_sub_le (hunsigned : (v.x * v.x + v.y * v.y + v.z * v.z).Unsigned)
    (hfit : (v.x * v.x + v.y * v.y + v.z * v.z).isFinite = true) (hle : squares v ≤ 2)
    (hge : 1 / 2 ≤ length v) :
    |√(v.x * v.x + v.y * v.y + v.z * v.z).real - length v| ≤ 62 / 10 ^ (16 : ℕ) := by
  have hsquares := abs_real_squares_sub_le hfit
  have hslack := slack_le (squares v)
  rw [abs_of_nonneg (squares_nonneg v)] at hslack
  have hroot := abs_sqrt_sub_sqrt_le hunsigned.real_nonneg (squares_nonneg v) hge
  norm_num at hslack ⊢
  unfold length
  linarith

/-- The root is taken of a sum that is off by little, and is rounded itself. -/
theorem abs_real_magnitude_sub_le (hunsigned : (v.x * v.x + v.y * v.y + v.z * v.z).Unsigned)
    (hfit : (magnitude v).isFinite = true) (hle : squares v ≤ 2) (hge : 1 / 2 ≤ length v) :
    |(magnitude v).real - length v| ≤ 7 / 10 ^ (15 : ℕ) := by
  have hsum := isFinite_of_sqrt hfit
  have hnear := abs_sqrt_real_sub_le hunsigned hsum hle hge
  have hround := abs_real_sqrt_sub_le hunsigned hsum hfit
  have htriangle := abs_sub_le (magnitude v).real √(v.x * v.x + v.y * v.y + v.z * v.z).real
    (length v)
  have hlength : length v ≤ 2 := by
    nlinarith [mul_self_length v, hge]
  have hslack := slack_le √(v.x * v.x + v.y * v.y + v.z * v.z).real
  rw [abs_of_nonneg (Real.sqrt_nonneg _)] at hslack
  have hroot := (abs_le.mp hnear).2
  change |(magnitude v).real - _| ≤ _ at hround
  norm_num at *
  linarith

/-! ## Distances from one -/

/-- Whether the computed length is one, up to the tolerance. -/
def IsUnitLength (v : Point3) : Prop := (magnitude v - 1).abs ≤ normalTolerance

/-- A vector with finite coordinates, its length off from one by `margin` at most. -/
structure IsNear (margin : ℝ) (v : Point3) : Prop where
  x : v.x.isFinite = true
  y : v.y.isFinite = true
  z : v.z.isFinite = true
  near : |length v - 1| ≤ margin

theorem unsigned_normalTolerance : normalTolerance.Unsigned :=
  unsigned_ofScientific 1 true 3

/-- The tolerance is a thousandth, as nearly as it can be written. -/
theorem abs_real_normalTolerance_sub_le :
    |normalTolerance.real - 1 / 1000| ≤ 1 / 10 ^ (15 : ℕ) := by
  -- On integers, scaled by powers of ten, the kernel can compute it.
  have hvalue : |10 ^ (15 : ℕ) * normalTolerance.value - 10 ^ (12 : ℕ) * unitsPerOne| ≤
      (unitsPerOne : Int) := by
    decide +kernel
  have hcast : |(10 : ℝ) ^ (15 : ℕ) * normalTolerance.value - 10 ^ (12 : ℕ) * unitsPerOne| ≤
      unitsPerOne := by
    exact_mod_cast hvalue
  have hunit := unitsPerOne_pos_real
  have hsplit : normalTolerance.real - 1 / 1000
      = (10 ^ (15 : ℕ) * normalTolerance.value - 10 ^ (12 : ℕ) * unitsPerOne)
        / unitsPerOne / 10 ^ (15 : ℕ) := by
    unfold real
    field_simp
    ring
  have hten : (0 : ℝ) < 10 ^ (15 : ℕ) := by positivity
  rw [hsplit, abs_div, abs_div, abs_of_pos hunit, abs_of_pos hten]
  gcongr
  rwa [div_le_one hunit]

/-- Near one the difference from one is in range. -/
theorem isFinite_sub_one {m : Binary64} (hm : m.isFinite = true)
    (h : |m.real - 1| ≤ 1000000) : (m - 1).isFinite = true := by
  refine isFinite_add hm ((isFinite_neg 1).trans (isFinite_ofNat (by decide))) ?_
  show |m.real + (-1 : Binary64).real| ≤ 1000000
  rwa [real_neg, real_one, ← sub_eq_add_neg (G := ℝ)]

theorem abs_real_sub_one_sub_le {m : Binary64} (hm : m.isFinite = true)
    (hfit : (m - 1).isFinite = true) : |(m - 1).real - (m.real - 1)| ≤ slack (m.real - 1) := by
  have hround := abs_real_add_sub_le hm ((isFinite_neg 1).trans (isFinite_ofNat (by decide))) hfit
  rwa [real_neg, real_one, ← sub_eq_add_neg (G := ℝ)] at hround

/-- Coordinates that are finite are defined. -/
theorem IsNear.defined {margin : ℝ} (h : IsNear margin v) : ¬Undefined v := by
  rintro (hx | hy | hz)
  · rw [isUndefined_of_isFinite h.x] at hx
    cases hx
  · rw [isUndefined_of_isFinite h.y] at hy
    cases hy
  · rw [isUndefined_of_isFinite h.z] at hz
    cases hz

/-- A vector of which the length is off from one by less than the tolerance will do. -/
theorem isUnitLength_of_isNear (h : IsNear (1 / 1000 - 1 / 10 ^ (14 : ℕ)) v) : IsUnitLength v := by
  have hunsigned := unsigned_squares h.defined
  obtain ⟨hlow, hhigh⟩ := abs_le.mp h.near
  norm_num at hlow hhigh
  have hle : squares v ≤ 2 := by
    nlinarith [mul_self_length v]
  -- nothing leaves the range on the way
  have hsum := isFinite_squares h.x h.y h.z hle
  have hroot := (abs_le.mp (abs_sqrt_real_sub_le hunsigned hsum hle (by linarith))).2
  norm_num at hroot
  have hfit : (magnitude v).isFinite = true := isFinite_sqrt hunsigned hsum (by linarith)
  have hmagnitude := abs_le.mp (abs_real_magnitude_sub_le hunsigned hfit hle (by linarith))
  norm_num at hmagnitude
  have hdiff := isFinite_sub_one hfit (abs_le.mpr ⟨by linarith, by linarith⟩)
  -- what is left of the distance is below the tolerance
  have hround := (abs_real_sub_one_sub_le hfit hdiff).trans (slack_le _)
  have hsize : |(magnitude v).real - 1| ≤ 1 := abs_le.mpr ⟨by linarith, by linarith⟩
  have htolerance := (abs_le.mp abs_real_normalTolerance_sub_le).1
  norm_num at hround htolerance
  have hbounds := abs_le.mp (hround.trans (show _ ≤ (3 : ℝ) / 10 ^ (16 : ℕ) by norm_num; linarith))
  norm_num at hbounds
  refine le_of_real_lt ?_ unsigned_normalTolerance.defined ?_
  · rw [isUndefined_abs]
    exact isUndefined_of_isFinite hdiff
  · rw [real_abs, abs_lt]
    constructor <;> linarith

/-- Nothing has left the range on the way to a length of about one. -/
theorem IsUnitLength.isFinite (h : IsUnitLength v) : (magnitude v - 1).isFinite = true := by
  have hdefined := (defined_of_le h).1
  have htolerance : normalTolerance.isFinite = true := by
    decide +kernel
  rw [← isFinite_abs]
  rw [isUndefined_abs] at hdefined
  exact (unsigned_abs hdefined).isFinite_of_le unsigned_normalTolerance h htolerance

/-- A vector that will do is of about unit length. -/
theorem isNear_of_isUnitLength (h : IsUnitLength v) : IsNear (1 / 1000 + 1 / 10 ^ (14 : ℕ)) v := by
  -- every number on the way is in range
  have hdiff := h.isFinite
  have hfit := (isFinite_of_add hdiff).1
  have hsum := isFinite_of_sqrt hfit
  obtain ⟨hfirst, hsz⟩ := isFinite_of_add hsum
  obtain ⟨hsx, hsy⟩ := isFinite_of_add hfirst
  have hx := isFinite_of_mul_self hsx
  have hy := isFinite_of_mul_self hsy
  have hz := isFinite_of_mul_self hsz
  have hunsigned := unsigned_squares (IsNear.defined ⟨hx, hy, hz, le_refl |length v - 1|⟩)
  -- the computed length is near to one
  have htolerance := (abs_le.mp abs_real_normalTolerance_sub_le).2
  have hdistance := real_le_real h
  rw [real_abs] at hdistance
  have hround := (abs_real_sub_one_sub_le hfit hdiff).trans (slack_le _)
  have hcomputed : |(magnitude v).real - 1| ≤ 1 / 1000 + 2 / 10 ^ (15 : ℕ) := by
    have hsize := abs_sub_abs_le_abs_sub ((magnitude v).real - 1) (magnitude v - 1).real
    rw [abs_sub_comm] at hround
    norm_num at *
    linarith
  -- so its root and the sum of the squares are, and the real length is not small
  obtain ⟨hlow, hhigh⟩ := abs_le.mp hcomputed
  norm_num at hlow hhigh
  have hroot : 9 / 10 ≤ √(v.x * v.x + v.y * v.y + v.z * v.z).real ∧
      √(v.x * v.x + v.y * v.y + v.z * v.z).real ≤ 11 / 10 := by
    have hnear := abs_le.mp (abs_real_sqrt_sub_le hunsigned hsum hfit)
    have hslack := slack_le √(v.x * v.x + v.y * v.y + v.z * v.z).real
    rw [abs_of_nonneg (Real.sqrt_nonneg _)] at hslack
    change _ ∧ (magnitude v).real - _ ≤ _ at hnear
    change _ ≤ (magnitude v).real - _ ∧ _ at hnear
    norm_num at hslack
    constructor <;> linarith
  have hsquares : 1 / 4 ≤ squares v ∧ squares v ≤ 2 := by
    have hnear := abs_le.mp (abs_real_squares_sub_le hsum)
    have hslack := slack_le (squares v)
    rw [abs_of_nonneg (squares_nonneg v)] at hslack
    have hself := Real.mul_self_sqrt hunsigned.real_nonneg
    norm_num at hslack
    constructor <;> nlinarith
  have hlength : 1 / 2 ≤ length v := Real.le_sqrt_of_sq_le (by linarith)
  have hmagnitude := abs_le.mp (abs_real_magnitude_sub_le hunsigned hfit hsquares.2 hlength)
  refine ⟨hx, hy, hz, abs_le.mpr ?_⟩
  norm_num at hmagnitude ⊢
  constructor <;> linarith

end Quality.Geometry

end FamilyDesign
