import FamilyDesign.Proofs.Numeric.Rounding

/-!
# Unsigned numbers

Lengths of time, percentages and scores are numbers without a sign: defined, and with the positive
one of the two zeros. On them the order is that of the ranks, and arithmetic does not leave them.

* **`larger_ranked`**, **`smaller_ranked`** — the larger and the smaller of two unsigned numbers
  have the larger and the smaller of their ranks.
* **`Unsigned.add`** and its siblings — sums, products and quotients are unsigned, and so is a
  difference once it is cut off at zero.
* **`scaledMagnitude_nearest`** — a decimal of few places survives the way to the number nearest to
  it and back, which makes `roundTo` a map onto such decimals that keeps their order.
-/

namespace FamilyDesign.Numeric.Binary64

/-- A number that is defined and has no sign. -/
def Unsigned (x : Binary64) : Prop := ∃ rank bounded, x = ranked false rank bounded

theorem unsigned_ranked (rank : Nat) (h : rank ≤ infinityRank) : Unsigned (ranked false rank h) :=
  ⟨rank, h, rfl⟩

theorem unsigned_nearest (a b : Nat) : Unsigned (nearest false a b) :=
  ⟨nearestRank a b, nearestRank_le a b, rfl⟩

/-- A literal is the natural number, rounded. -/
theorem ofNat_eq_nearest (n : Nat) :
    (OfNat.ofNat n : Binary64) = nearest false (n * unitsPerOne) 1 := by
  show ofInt n = _
  unfold ofInt
  rw [show decide ((n : Int) < 0) = false from by simp]
  rfl

theorem unsigned_ofNat (n : Nat) : Unsigned (OfNat.ofNat n) := by
  rw [ofNat_eq_nearest]
  exact unsigned_nearest _ _

theorem unsigned_ofDecimal (digits : Nat) (exponent : Int) :
    Unsigned (ofDecimal false digits exponent) := by
  unfold ofDecimal
  split_ifs
  · exact unsigned_nearest _ _
  · exact unsigned_ranked _ _
  · exact unsigned_nearest _ _
  · exact unsigned_nearest _ _
  · exact unsigned_nearest _ _

theorem unsigned_ofScientific (digits : Nat) (negativeExponent : Bool) (exponent : Nat) :
    Unsigned (OfScientific.ofScientific digits negativeExponent exponent) :=
  unsigned_ofDecimal _ _

/-- The number nearest to what is not negative, an exact zero being positive. -/
theorem unsigned_ofValue {v : Int} (hv : 0 ≤ v) (b : Nat) : Unsigned (ofValue v b false) := by
  have hsign : (if v = 0 then false else decide (v < 0)) = false := by
    split
    · rfl
    · exact decide_eq_false (by omega)
  unfold ofValue
  rw [hsign]
  exact unsigned_nearest _ _

/-! ## Order -/

/-- One number does not come after another just if both have places and these are in order. -/
theorem le_iff {x y : Binary64} :
    x ≤ y ↔ ∃ a b, x.place? = some a ∧ y.place? = some b ∧ a ≤ b := by
  show le x y = true ↔ _
  unfold le
  cases x.place? with
  | none => simp
  | some a =>
    cases y.place? with
    | none => simp
    | some b => simp

theorem le_trans {x y z : Binary64} (hxy : x ≤ y) (hyz : y ≤ z) : x ≤ z := by
  obtain ⟨a, b, hx, hy, hab⟩ := le_iff.mp hxy
  obtain ⟨b', c, hy', hz, hbc⟩ := le_iff.mp hyz
  rw [hy] at hy'
  cases hy'
  exact le_iff.mpr ⟨a, c, hx, hz, Int.le_trans hab hbc⟩

/-- Unsigned numbers are ordered by their ranks. -/
theorem lt_ranked_iff {r r' : Nat} {h : r ≤ infinityRank} {h' : r' ≤ infinityRank} :
    ranked false r h < ranked false r' h' ↔ r < r' := by
  show lt (ranked false r h) (ranked false r' h') = true ↔ r < r'
  simp [lt, place?]

theorem le_ranked_iff {r r' : Nat} {h : r ≤ infinityRank} {h' : r' ≤ infinityRank} :
    ranked false r h ≤ ranked false r' h' ↔ r ≤ r' := by
  show le (ranked false r h) (ranked false r' h') = true ↔ r ≤ r'
  simp [le, place?]

/-- The larger number has the larger rank. -/
theorem larger_ranked {r r' : Nat} (h : r ≤ infinityRank) (h' : r' ≤ infinityRank) :
    (ranked false r h).larger (ranked false r' h')
      = ranked false (max r r') (Nat.max_le.mpr ⟨h, h'⟩) := by
  unfold larger
  by_cases hlt : r < r'
  · rw [if_pos (lt_ranked_iff.mpr hlt)]
    congr
    omega
  · rw [if_neg (lt_ranked_iff.not.mpr hlt)]
    congr
    omega

/-- The smaller number has the smaller rank. -/
theorem smaller_ranked {r r' : Nat} (h : r ≤ infinityRank) (h' : r' ≤ infinityRank) :
    (ranked false r h).smaller (ranked false r' h')
      = ranked false (min r r') (Nat.le_trans (Nat.min_le_left r r') h) := by
  unfold smaller
  by_cases hlt : r' < r
  · rw [if_pos (lt_ranked_iff.mpr hlt)]
    congr
    omega
  · rw [if_neg (lt_ranked_iff.not.mpr hlt)]
    congr
    omega

theorem ofNat_zero : (0 : Binary64) = ranked false 0 (Nat.zero_le _) := by
  decide +kernel

theorem zero_lt_ranked_iff {r : Nat} {h : r ≤ infinityRank} :
    (0 : Binary64) < ranked false r h ↔ 0 < r := by
  rw [ofNat_zero, lt_ranked_iff]

theorem ofNat_pos {n : Nat} (h : 0 < n) : (0 : Binary64) < OfNat.ofNat n := by
  rw [ofNat_eq_nearest n]
  exact zero_lt_ranked_iff.mpr (nearestRank_pos Nat.one_pos (Nat.mul_pos h unitsPerOne_pos))

/-- The number nearest to a greater quotient is no smaller. -/
theorem nearest_le_nearest {a a' : Nat} (b : Nat) (h : a ≤ a') :
    nearest false a b ≤ nearest false a' b :=
  le_ranked_iff.mpr (nearestRank_mono b h)

/-- A positive number has no sign. -/
theorem unsigned_of_pos {x : Binary64} (h : 0 < x) : Unsigned x := by
  rw [ofNat_zero] at h
  cases x with
  | nan shared => cases h
  | ranked negative rank bounded =>
    cases negative with
    | false => exact unsigned_ranked rank bounded
    | true =>
      have hplace : (0 : Int) < -(rank : Int) := by simpa [LT.lt, lt, place?] using h
      omega

/-! ## Arithmetic -/

namespace Unsigned

variable {x y : Binary64}

/-- The larger of two without a sign has none. -/
theorem larger (hx : x.Unsigned) (hy : y.Unsigned) : (x.larger y).Unsigned := by
  unfold Binary64.larger
  split
  · exact hy
  · exact hx

/-- The smaller of two without a sign has none. -/
theorem smaller (hx : x.Unsigned) (hy : y.Unsigned) : (x.smaller y).Unsigned := by
  unfold Binary64.smaller
  split
  · exact hy
  · exact hx

/-- A sum of two without a sign has none. -/
theorem add (hx : x.Unsigned) (hy : y.Unsigned) : (x + y).Unsigned := by
  obtain ⟨r, h, rfl⟩ := hx
  obtain ⟨r', h', rfl⟩ := hy
  show Unsigned (Binary64.add (ranked false r h) (ranked false r' h'))
  simp only [Binary64.add, ne_eq, not_true_eq_false, and_false, if_false, Bool.and_false]
  split
  · exact unsigned_ranked r h
  · split
    · exact unsigned_ranked r' h'
    · -- neither magnitude is negative, so the sum keeps the positive sign
      have hsum : 0 ≤ (ranked false r h).value + (ranked false r' h').value := by
        show 0 ≤ (units r : Int) + (units r' : Int)
        omega
      exact unsigned_ofValue hsum 1

/-- A product with a factor that is neither zero nor infinite. -/
theorem mul (hx : x.Unsigned) (hpos : 0 < x) (hfin : x.isFinite = true) (hy : y.Unsigned) :
    (x * y).Unsigned := by
  obtain ⟨r, h, rfl⟩ := hx
  obtain ⟨r', h', rfl⟩ := hy
  have hr : 0 < r := zero_lt_ranked_iff.mp hpos
  have hr' : r ≠ infinityRank := by simpa [isFinite] using hfin
  show Unsigned (Binary64.mul (ranked false r h) (ranked false r' h'))
  simp only [Binary64.mul, bne_self_eq_false]
  split
  · rename_i hinf
    have hrank : r' = infinityRank := hinf.resolve_left hr'
    rw [if_neg (by rw [hrank]; unfold infinityRank; omega)]
    exact unsigned_ranked _ _
  · exact unsigned_nearest _ _

/-- A quotient by a divisor that is neither zero nor infinite. -/
theorem div (hx : x.Unsigned) (hy : y.Unsigned) (hpos : 0 < y) (hfin : y.isFinite = true) :
    (x / y).Unsigned := by
  obtain ⟨r, h, rfl⟩ := hx
  obtain ⟨r', h', rfl⟩ := hy
  have hr : r' ≠ 0 := Nat.ne_of_gt (zero_lt_ranked_iff.mp hpos)
  have hr' : r' ≠ infinityRank := by simpa [isFinite] using hfin
  show Unsigned (Binary64.div (ranked false r h) (ranked false r' h'))
  simp only [Binary64.div, bne_self_eq_false, if_neg hr, if_neg hr']
  split
  · exact unsigned_ranked _ _
  · exact unsigned_nearest _ _

end Unsigned

/-- What is defined, cut off at zero. -/
theorem unsigned_zero_larger {x : Binary64} (hdef : x.isUndefined = false) :
    ((0 : Binary64).larger x).Unsigned := by
  cases x with
  | nan shared => cases hdef
  | ranked negative rank h =>
    unfold larger
    split
    · rename_i hlt
      cases negative with
      | false => exact unsigned_ranked rank h
      | true =>
        -- A number below zero is not the larger one.
        have hplace : (0 : Int) < -(rank : Int) := by
          have := hlt
          rw [ofNat_zero] at this
          simpa [LT.lt, lt, place?] using this
        omega
    · exact unsigned_ofNat 0

/-- A negative number, cut off at zero. -/
theorem negative_larger_zero {rank : Nat} (h : rank ≤ infinityRank) (hpos : 0 < rank) :
    (ranked true rank h).larger 0 = 0 := by
  unfold larger
  rw [ofNat_zero, if_pos]
  show lt (ranked true rank h) (ranked false 0 (Nat.zero_le _)) = true
  simp [lt, place?, hpos]

/-- A difference of which the second part is finite, cut off at zero. Where it is not positive it is
the positive zero: an exact difference of zero has that sign, and any other is at least one unit. -/
theorem Unsigned.sub_larger_zero {x y : Binary64} (hx : x.Unsigned) (hy : y.Unsigned)
    (hfin : y.isFinite = true) : ((x - y).larger 0).Unsigned := by
  obtain ⟨r, h, rfl⟩ := hx
  obtain ⟨r', h', rfl⟩ := hy
  have hr' : r' ≠ infinityRank := by simpa [isFinite] using hfin
  show Unsigned ((Binary64.add (ranked false r h) (ranked true r' h')).larger 0)
  simp only [Binary64.add, if_neg hr', Bool.false_and]
  split
  · rw [if_neg (fun hinf => hr' hinf.1)]
    exact (unsigned_ranked r h).larger (unsigned_ofNat 0)
  · rcases Int.lt_or_le ((ranked false r h).value + (ranked true r' h').value) 0 with hneg | hnonneg
    · unfold ofValue
      rw [if_neg (by omega), decide_eq_true hneg]
      have hunit :
          0 < nearestRank ((ranked false r h).value + (ranked true r' h').value).natAbs 1 :=
        nearestRank_pos Nat.one_pos (by omega)
      unfold nearest
      rw [negative_larger_zero _ hunit]
      exact unsigned_ofNat 0
    · exact (unsigned_ofValue hnonneg 1).larger (unsigned_ofNat 0)

/-! ## Decimals of few places -/

/-- The magnitude of a number is the units of its rank. -/
theorem natAbs_value_ranked (negative : Bool) (rank : Nat) (h : rank ≤ infinityRank) :
    (ranked negative rank h).value.natAbs = units rank := by
  cases negative with
  | false => exact Int.natAbs_natCast _
  | true => exact Int.natAbs_neg _

theorem natAbs_value_nearest (negative : Bool) (a b : Nat) :
    (nearest negative a b).value.natAbs = units (nearestRank a b) :=
  natAbs_value_ranked negative _ _

/-- The magnitude of a decimal of few places comes back when it is rounded to those places again:
the number nearest to it is off by less than half a unit of the last place. -/
theorem scaledMagnitude_nearest {k places : Nat} (hk : k < 2 ^ 52)
    (hplaces : 10 ^ places < unitsPerOne)
    (hfit : nearestRank (k * unitsPerOne) (10 ^ places) < infinityRank) :
    (nearest false (k * unitsPerOne) (10 ^ places)).scaledMagnitude places = k := by
  have habove := two_mul_units_nearestRank_le hfit
  have hbelow := two_mul_le_units_nearestRank (Nat.pow_pos (by decide)) hfit
  -- a unit of the last place, in the scale of the quotient, is less than one
  have hulp : 10 ^ places * 2 ^ shiftOf (k * unitsPerOne) (10 ^ places) < unitsPerOne := by
    rcases ulp_le (a := k * unitsPerOne) (b := 10 ^ places) with hzero | hlast
    · rw [hzero, Nat.pow_zero, Nat.mul_one]
      exact hplaces
    · have hlt : k * unitsPerOne < 2 ^ 52 * unitsPerOne :=
        Nat.mul_lt_mul_of_pos_right hk unitsPerOne_pos
      exact Nat.lt_of_mul_lt_mul_left (Nat.lt_of_le_of_lt hlast hlt)
  unfold scaledMagnitude
  rw [natAbs_value_nearest]
  exact roundDiv_eq_of_near (by omega) (by omega)

/-- A number of a greater magnitude has no smaller one after it is rounded to some places. -/
theorem scaledMagnitude_mono {r r' : Nat} {h : r ≤ infinityRank} {h' : r' ≤ infinityRank}
    (places : Nat) (hle : r ≤ r') :
    (ranked false r h).scaledMagnitude places ≤ (ranked false r' h').scaledMagnitude places := by
  unfold scaledMagnitude
  rw [natAbs_value_ranked, natAbs_value_ranked]
  exact roundDiv_mono _ (Nat.mul_le_mul_right _ (units_mono hle))

end FamilyDesign.Numeric.Binary64
