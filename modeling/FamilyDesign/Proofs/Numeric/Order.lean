import FamilyDesign.Proofs.Numeric.Gaps

/-!
# Arithmetic keeps the order

Every operation rounds once, and rounding keeps the order up to ties. So sums, differences, products
and quotients of numbers in order are in order, whether they overflow or not, as long as they are
defined.

* **`ofValue_le_ofValue`** — of exact values in order the nearest numbers are in order.
* **`add_le_add_left`**, **`sub_le_sub_left`**, **`sub_le_sub_right`** — sums and differences of any
  numbers, signs and infinities included.
* **`zero_lt_abs_sub_iff`** — a distance is positive just if the numbers differ.
* **`Unsigned.mul_le_mul_left`**, **`Unsigned.div_le_div_right`** — products and quotients.
* **`Unsigned.roundTo_le_roundTo`** — decimals of few places.
-/

namespace FamilyDesign.Numeric

namespace Binary64

/-! ## Places -/

/-- Numbers are in order as their places are. -/
theorem lt_iff {x y : Binary64} :
    x < y ↔ ∃ a b, x.place? = some a ∧ y.place? = some b ∧ a < b := by
  show lt x y = true ↔ _
  unfold lt
  cases x.place? with
  | none => simp
  | some a =>
    cases y.place? with
    | none => simp
    | some b => simp

/-- Of two numbers that are defined one comes first, or they are in the same place. -/
theorem le_of_not_lt {x y : Binary64} (hx : x.isUndefined = false) (hy : y.isUndefined = false)
    (h : ¬y < x) : x ≤ y := by
  cases x with
  | nan shared => cases hx
  | ranked s r hr =>
    cases y with
    | nan shared => cases hy
    | ranked s' r' hr' =>
      refine le_iff.mpr ⟨_, _, rfl, rfl, Int.not_lt.mp fun hlt => ?_⟩
      exact h (lt_iff.mpr ⟨_, _, rfl, rfl, hlt⟩)

/-- What does not come before a number that is defined is from there on, or it is undefined. -/
theorem not_lt_iff {x y : Binary64} (hx : x.isUndefined = false) :
    ¬x < y ↔ y ≤ x ∨ y.isUndefined = true := by
  cases hy : y.isUndefined with
  | true =>
    refine iff_of_true (fun hlt => ?_) (Or.inr rfl)
    obtain ⟨a, b, -, hb, -⟩ := lt_iff.mp hlt
    cases y with
    | nan shared => cases hb
    | ranked s r bounded => cases hy
  | false =>
    refine ⟨fun h => Or.inl (le_of_not_lt hy hx h), fun h hlt => ?_⟩
    rcases h with hle | hundefined
    · exact not_le_of_lt hlt hle
    · cases hundefined

/-- A number is not at most a defined one just if it is greater or undefined. -/
theorem not_le_iff {x y : Binary64} (hy : y.isUndefined = false) :
    ¬x ≤ y ↔ y < x ∨ x.isUndefined = true := by
  cases hx : x.isUndefined with
  | true =>
    refine iff_of_true (fun hle => ?_) (Or.inr rfl)
    obtain ⟨a, b, ha, -, -⟩ := le_iff.mp hle
    cases x with
    | nan shared => cases ha
    | ranked s r bounded => cases hx
  | false =>
    constructor
    · intro h
      -- Defined numbers are compared totally: not greater means at most.
      by_contra hnot
      exact h (le_of_not_lt hx hy (fun hlt => hnot (Or.inl hlt)))
    · rintro (hlt | hundefined)
      · exact not_le_of_lt hlt
      · cases hundefined

theorem lt_of_le_of_lt {x y z : Binary64} (hxy : x ≤ y) (hyz : y < z) : x < z := by
  obtain ⟨a, b, hx, hy, hab⟩ := le_iff.mp hxy
  obtain ⟨b', c, hy', hz, hbc⟩ := lt_iff.mp hyz
  rw [hy] at hy'
  cases hy'
  exact lt_iff.mpr ⟨a, c, hx, hz, Int.lt_of_le_of_lt hab hbc⟩

theorem lt_of_lt_of_le {x y z : Binary64} (hxy : x < y) (hyz : y ≤ z) : x < z := by
  obtain ⟨a, b, hx, hy, hab⟩ := lt_iff.mp hxy
  obtain ⟨b', c, hy', hz, hbc⟩ := le_iff.mp hyz
  rw [hy] at hy'
  cases hy'
  exact lt_iff.mpr ⟨a, c, hx, hz, Int.lt_of_lt_of_le hab hbc⟩

theorem le_of_lt {x y : Binary64} (h : x < y) : x ≤ y := by
  obtain ⟨a, b, hx, hy, hab⟩ := lt_iff.mp h
  exact le_iff.mpr ⟨a, b, hx, hy, Int.le_of_lt hab⟩

/-- A number that has a place is defined. -/
theorem exists_ranked_of_place? {x : Binary64} {a : Int} (h : x.place? = some a) :
    ∃ negative rank bounded, x = ranked negative rank bounded := by
  cases x with
  | nan shared => cases h
  | ranked negative rank bounded => exact ⟨negative, rank, bounded, rfl⟩

/-- Numbers are in order as their signed ranks are. -/
theorem ranked_le_ranked_iff {s s' : Bool} {r r' : Nat} {h : r ≤ infinityRank}
    {h' : r' ≤ infinityRank} :
    ranked s r h ≤ ranked s' r' h' ↔
      (if s then -(r : Int) else r) ≤ (if s' then -(r' : Int) else r') := by
  rw [le_iff]
  constructor
  · rintro ⟨a, b, ha, hb, hab⟩
    cases ha
    cases hb
    exact hab
  · intro hle
    exact ⟨_, _, rfl, rfl, hle⟩

theorem le_refl_of_defined {x : Binary64} (h : x.isUndefined = false) : x ≤ x := by
  cases x with
  | nan shared => cases h
  | ranked negative rank bounded => exact ranked_le_ranked_iff.mpr (Int.le_refl _)

theorem Unsigned.le_refl {x : Binary64} (h : x.Unsigned) : x ≤ x :=
  le_refl_of_defined h.defined

theorem Unsigned.zero_le {x : Binary64} (h : x.Unsigned) : 0 ≤ x := by
  obtain ⟨rank, bounded, rfl⟩ := h
  rw [ofNat_zero, le_ranked_iff]
  exact Nat.zero_le rank

/-! ## Rounding an exact value -/

/-- Where the number nearest to an exact value stands. The sign of a zero does not matter. -/
theorem place?_ofValue (v : Int) (b : Nat) (zeroNegative : Bool) :
    (ofValue v b zeroNegative).place? =
      some (if v < 0 then -(nearestRank v.natAbs b : Int) else nearestRank v.natAbs b) := by
  unfold ofValue nearest place?
  by_cases hzero : v = 0
  · subst hzero
    simp [nearestRank_zero]
  · simp [hzero]

/-- **Rounding keeps the order of exact values.** -/
theorem ofValue_le_ofValue {v v' : Int} (b : Nat) (zeroNegative zeroNegative' : Bool)
    (h : v ≤ v') : ofValue v b zeroNegative ≤ ofValue v' b zeroNegative' := by
  refine le_iff.mpr ⟨_, _, place?_ofValue v b zeroNegative, place?_ofValue v' b zeroNegative', ?_⟩
  -- below zero the greater magnitude is the smaller number
  by_cases hneg' : v' < 0
  · have hmono : nearestRank v'.natAbs b ≤ nearestRank v.natAbs b :=
      nearestRank_mono b (by omega)
    rw [if_pos (by omega), if_pos hneg']
    omega
  · by_cases hneg : v < 0
    · rw [if_pos hneg, if_neg hneg']
      omega
    · have hmono : nearestRank v.natAbs b ≤ nearestRank v'.natAbs b :=
        nearestRank_mono b (by omega)
      rw [if_neg hneg, if_neg hneg']
      omega

/-- A quotient is rounded as the exact value that it is. -/
theorem ofQuotient_eq_ofValue (n : Int) (d : Nat) :
    ofQuotient n d = ofValue (n * unitsPerOne) d false := by
  have hpos : (0 : Int) < unitsPerOne := by exact_mod_cast unitsPerOne_pos
  unfold ofQuotient ofValue
  rw [Int.natAbs_mul, Int.natAbs_natCast]
  by_cases hzero : n = 0
  · subst hzero
    simp only [Int.zero_mul, if_true, Int.lt_irrefl, decide_false]
  · have hne : n * (unitsPerOne : Int) ≠ 0 := Int.mul_ne_zero hzero (by omega)
    rw [if_neg hne]
    congr 1
    -- A unit is positive, so the product has the sign of the numerator.
    rw [decide_eq_decide]
    refine ⟨fun hneg => Int.mul_neg_of_neg_of_pos hneg hpos, fun hneg => ?_⟩
    by_contra hnonneg
    have hprod := Int.mul_nonneg (Int.not_lt.mp hnonneg) hpos.le
    omega

/-- Finite numbers in order have exact values in order. -/
theorem value_le_value {x y : Binary64} (h : x ≤ y) : x.value ≤ y.value := by
  obtain ⟨a, b, hx, hy, hab⟩ := le_iff.mp h
  obtain ⟨s, r, hr, rfl⟩ := exists_ranked_of_place? hx
  obtain ⟨s', r', hr', rfl⟩ := exists_ranked_of_place? hy
  cases hx
  cases hy
  cases s with
  | false =>
    cases s' with
    | false =>
      have hmono : units r ≤ units r' := units_mono (by simpa using hab)
      show (units r : Int) ≤ units r'
      omega
    | true =>
      -- both are zero
      have hzero : r = 0 ∧ r' = 0 := by
        have hsigns : (r : Int) ≤ -(r' : Int) := by simpa using hab
        omega
      obtain ⟨rfl, rfl⟩ := hzero
      exact Int.le_refl 0
  | true =>
    cases s' with
    | false =>
      show -(units r : Int) ≤ units r'
      omega
    | true =>
      have hmono : units r' ≤ units r := units_mono (by
        have hsigns : -(r : Int) ≤ -(r' : Int) := by simpa using hab
        omega)
      show -(units r : Int) ≤ -(units r' : Int)
      omega

/-- A minus sign negates the exact value. -/
theorem value_neg (x : Binary64) : (-x).value = -x.value := by
  cases x with
  | nan shared => rfl
  | ranked negative rank bounded =>
    cases negative with
    | false => rfl
    | true => exact (Int.neg_neg _).symm

/-- The exact values of numbers in order are in order. -/
theorem value_lt_value {x y : Binary64} (h : x < y) : x.value < y.value := by
  obtain ⟨a, b, hx, hy, hab⟩ := lt_iff.mp h
  obtain ⟨s, r, hr, rfl⟩ := exists_ranked_of_place? hx
  obtain ⟨s', r', hr', rfl⟩ := exists_ranked_of_place? hy
  cases hx
  cases hy
  have hpos : ∀ r : Nat, 0 < r → 0 < units r := fun r hr =>
    Nat.pos_of_ne_zero (units_eq_zero_iff.not.mpr (by omega))
  -- By signs: among negative numbers the greater magnitude is the smaller number.
  cases s with
  | false =>
    cases s' with
    | false =>
      have hlt : r < r' := by simpa using hab
      have hunits : units r < units r' := Nat.lt_of_lt_of_le (units_lt_succ r) (units_mono hlt)
      show (units r : Int) < units r'
      omega
    | true =>
      have hsigns : (r : Int) < -(r' : Int) := by simpa using hab
      omega
  | true =>
    cases s' with
    | false =>
      have hsigns : -(r : Int) < r' := by simpa using hab
      show -(units r : Int) < units r'
      rcases Nat.eq_zero_or_pos r with rfl | hr
      · have hunits := hpos r' (by omega)
        omega
      · have hunits := hpos r hr
        omega
    | true =>
      have hlt : r' < r := by
        have hsigns : -(r : Int) < -(r' : Int) := by simpa using hab
        omega
      have hunits : units r' < units r := Nat.lt_of_lt_of_le (units_lt_succ r') (units_mono hlt)
      show -(units r : Int) < -(units r' : Int)
      omega

/-! ## Sums and differences -/

/-- The parts of a sum may be exchanged. -/
theorem add_swap (x y : Binary64) : x + y = y + x := by
  show Binary64.add x y = Binary64.add y x
  unfold Binary64.add
  cases x with
  | nan shared => cases y <;> rfl
  | ranked sx rx hx =>
    cases y with
    | nan shared => rfl
    | ranked sy ry hy =>
      dsimp only
      rw [Int.add_comm, Bool.and_comm]
      -- The branches ask for the first part first, so each order meets infinity in another branch.
      by_cases hinf : rx = infinityRank
      · by_cases hinf' : ry = infinityRank
        · subst hinf hinf'
          cases sx <;> cases sy <;> simp
        · simp [hinf, hinf']
      · simp [hinf]

/-- A number that has a place is finite, or one of the two infinities. -/
theorem isFinite_or_isInfinite {x : Binary64} (h : x.isUndefined = false) :
    x.isFinite = true ∨ x.isInfinite = true := by
  cases x with
  | nan shared => cases h
  | ranked negative rank bounded =>
    unfold isFinite isInfinite
    by_cases hinf : rank = infinityRank <;> simp [hinf]

theorem isUndefined_of_isFinite {x : Binary64} (h : x.isFinite = true) :
    x.isUndefined = false := by
  cases x with
  | nan shared => cases h
  | ranked negative rank bounded => rfl

/-- A finite sum is the exact sum, rounded. -/
theorem add_of_isFinite {x y : Binary64} (hx : x.isFinite = true) (hy : y.isFinite = true) :
    x + y = ofValue (x.value + y.value) 1 (x.isNegative && y.isNegative) := by
  cases x with
  | nan shared => cases hx
  | ranked s r h =>
    cases y with
    | nan shared => cases hy
    | ranked s' r' h' =>
      rw [isFinite_ranked_iff] at hx hy
      show Binary64.add (ranked s r h) (ranked s' r' h') = _
      unfold Binary64.add
      dsimp only
      rw [if_neg (Nat.ne_of_lt hx), if_neg (Nat.ne_of_lt hy)]
      rfl

/-- An infinite part decides a sum that is defined. -/
theorem add_of_isInfinite {x y : Binary64} (hx : x.isInfinite = true)
    (hdef : (x + y).isUndefined = false) : x + y = x := by
  cases x with
  | nan shared => cases hx
  | ranked s r h =>
    cases y with
    | nan shared => cases hdef
    | ranked s' r' h' =>
      have hr : r = infinityRank := by simpa [isInfinite] using hx
      replace hdef : (Binary64.add (ranked s r h) (ranked s' r' h')).isUndefined = false := hdef
      show Binary64.add (ranked s r h) (ranked s' r' h') = _
      unfold Binary64.add at hdef ⊢
      dsimp only at hdef ⊢
      rw [if_pos hr] at hdef ⊢
      -- Opposite infinities have no sum; any other part makes no difference.
      split at hdef
      · cases hdef
      · next hsame => exact if_neg hsame

/-- Next to a finite part an infinite one decides. -/
theorem add_of_isFinite_of_isInfinite {x y : Binary64} (hx : x.isFinite = true)
    (hy : y.isInfinite = true) : x + y = y := by
  cases x with
  | nan shared => cases hx
  | ranked s r h =>
    cases y with
    | nan shared => cases hy
    | ranked s' r' h' =>
      rw [isFinite_ranked_iff] at hx
      have hr' : r' = infinityRank := by simpa [isInfinite] using hy
      show Binary64.add (ranked s r h) (ranked s' r' h') = _
      unfold Binary64.add
      dsimp only
      rw [if_neg (Nat.ne_of_lt hx), if_pos hr']

/-- What is not below an infinity that it does not come before is beyond every finite number. -/
theorem le_of_isInfinite_of_isFinite {y y' z : Binary64} (hle : y ≤ y')
    (hinf : y.isInfinite = true) (hfin : y'.isFinite = true) (hz : z.isUndefined = false) :
    y ≤ z := by
  obtain ⟨a, b, hy, hy', hab⟩ := le_iff.mp hle
  obtain ⟨s, r, h, rfl⟩ := exists_ranked_of_place? hy
  obtain ⟨s', r', h', rfl⟩ := exists_ranked_of_place? hy'
  have hr : r = infinityRank := by simpa [isInfinite] using hinf
  rw [isFinite_ranked_iff] at hfin
  rw [ranked_le_ranked_iff] at hle
  cases z with
  | nan shared => cases hz
  | ranked s'' r'' h'' =>
    rw [ranked_le_ranked_iff]
    cases s <;> cases s' <;> cases s'' <;> simp at hle ⊢ <;> omega

/-- An infinity above a finite number is above every number. -/
theorem le_of_isFinite_of_isInfinite {y y' z : Binary64} (hle : y ≤ y')
    (hfin : y.isFinite = true) (hinf : y'.isInfinite = true) (hz : z.isUndefined = false) :
    z ≤ y' := by
  obtain ⟨a, b, hy, hy', hab⟩ := le_iff.mp hle
  obtain ⟨s, r, h, rfl⟩ := exists_ranked_of_place? hy
  obtain ⟨s', r', h', rfl⟩ := exists_ranked_of_place? hy'
  have hr' : r' = infinityRank := by simpa [isInfinite] using hinf
  rw [isFinite_ranked_iff] at hfin
  rw [ranked_le_ranked_iff] at hle
  cases z with
  | nan shared => cases hz
  | ranked s'' r'' h'' =>
    rw [ranked_le_ranked_iff]
    cases s <;> cases s' <;> cases s'' <;> simp at hle ⊢ <;> omega

/-- What is in order has places. -/
theorem defined_of_le {x y : Binary64} (h : x ≤ y) :
    x.isUndefined = false ∧ y.isUndefined = false := by
  obtain ⟨a, b, hx, hy, -⟩ := le_iff.mp h
  obtain ⟨s, r, hr, rfl⟩ := exists_ranked_of_place? hx
  obtain ⟨s', r', hr', rfl⟩ := exists_ranked_of_place? hy
  exact ⟨rfl, rfl⟩

/-- The parts of a defined sum are defined. -/
theorem defined_of_add {x y : Binary64} (h : (x + y).isUndefined = false) :
    x.isUndefined = false := by
  cases x with
  | nan shared => cases y <;> cases h
  | ranked s r hr => rfl

/-- **A sum rises with a part of it**, as long as both sums are defined. -/
theorem add_le_add_left {x y y' : Binary64} (hle : y ≤ y') (hdef : (x + y).isUndefined = false)
    (hdef' : (x + y').isUndefined = false) : x + y ≤ x + y' := by
  obtain ⟨hy, hy'⟩ := defined_of_le hle
  -- Where all is finite the exact sums are in order; infinity on either side decides the rest.
  rcases isFinite_or_isInfinite (defined_of_add hdef) with hx | hx
  · rcases isFinite_or_isInfinite hy with hfin | hinf
    · rcases isFinite_or_isInfinite hy' with hfin' | hinf'
      · rw [add_of_isFinite hx hfin, add_of_isFinite hx hfin']
        exact ofValue_le_ofValue 1 _ _ (Int.add_le_add_left (value_le_value hle) _)
      · rw [add_of_isFinite_of_isInfinite hx hinf']
        exact le_of_isFinite_of_isInfinite hle hfin hinf' hdef
    · rw [add_of_isFinite_of_isInfinite hx hinf]
      rcases isFinite_or_isInfinite hy' with hfin' | hinf'
      · exact le_of_isInfinite_of_isFinite hle hinf hfin' hdef'
      · rwa [add_of_isFinite_of_isInfinite hx hinf']
  · rw [add_of_isInfinite hx hdef, add_of_isInfinite hx hdef']
    exact le_refl_of_defined (defined_of_add hdef)

theorem neg_le_neg {x y : Binary64} (h : x ≤ y) : -y ≤ -x := by
  obtain ⟨a, b, hx, hy, hab⟩ := le_iff.mp h
  obtain ⟨s, r, hr, rfl⟩ := exists_ranked_of_place? hx
  obtain ⟨s', r', hr', rfl⟩ := exists_ranked_of_place? hy
  cases hx
  cases hy
  show ranked (!s') r' hr' ≤ ranked (!s) r hr
  rw [ranked_le_ranked_iff]
  cases s <;> cases s' <;> simp at hab ⊢ <;> omega

theorem sub_eq_add_neg (x y : Binary64) : x - y = x + -y := rfl

/-- The sum with a finite number is defined. -/
theorem isUndefined_add {x y : Binary64} (hx : x.isUndefined = false) (hy : y.isFinite = true) :
    (x + y).isUndefined = false := by
  rcases isFinite_or_isInfinite hx with hfin | hinf
  · rw [add_of_isFinite hfin hy]
    exact isUndefined_ofValue _ _ _
  · rw [add_swap, add_of_isFinite_of_isInfinite hy hinf]
    exact hx

theorem isFinite_neg (x : Binary64) : (-x).isFinite = x.isFinite := by
  cases x with
  | nan shared => rfl
  | ranked negative rank bounded => rfl

theorem isInfinite_neg (x : Binary64) : (-x).isInfinite = x.isInfinite := by
  cases x with
  | nan shared => rfl
  | ranked negative rank bounded => rfl

theorem isUndefined_sub {x y : Binary64} (hx : x.isUndefined = false) (hy : y.isFinite = true) :
    (x - y).isUndefined = false :=
  isUndefined_add hx ((isFinite_neg y).trans hy)

theorem isUndefined_neg (x : Binary64) : (-x).isUndefined = x.isUndefined := by
  cases x with
  | nan shared => rfl
  | ranked negative rank bounded => rfl

/-- The difference from a finite number is defined. -/
theorem isUndefined_sub_of_isFinite {x y : Binary64} (hx : x.isFinite = true)
    (hy : y.isUndefined = false) : (x - y).isUndefined = false := by
  rw [sub_eq_add_neg, add_swap]
  exact isUndefined_add ((isUndefined_neg y).trans hy) hx

theorem sub_le_sub_left {x y y' : Binary64} (hle : y ≤ y') (hdef : (x - y).isUndefined = false)
    (hdef' : (x - y').isUndefined = false) : x - y' ≤ x - y :=
  add_le_add_left (neg_le_neg hle) hdef' hdef

/-- A difference rises with what is taken from. -/
theorem sub_le_sub_right {x x' y : Binary64} (hle : x ≤ x') (hdef : (x - y).isUndefined = false)
    (hdef' : (x' - y).isUndefined = false) : x - y ≤ x' - y := by
  rw [sub_eq_add_neg, add_swap] at hdef hdef' ⊢
  rw [sub_eq_add_neg, add_swap x'] at *
  exact add_le_add_left hle hdef hdef'

theorem zero_lt_of_one_le {x : Binary64} (h : 1 ≤ x) : 0 < x :=
  lt_of_lt_of_le (by decide +kernel) h

/-- The difference of two infinities in order. -/
theorem sub_pos_of_isInfinite {x y : Binary64} (hx : x.isInfinite = true)
    (hy : y.isInfinite = true) (h : x < y) : 0 < y - x := by
  cases x with
  | nan shared => cases hx
  | ranked s r bounded =>
    cases y with
    | nan shared => cases hy
    | ranked s' r' bounded' =>
      have hr : r = infinityRank := by simpa [isInfinite] using hx
      have hr' : r' = infinityRank := by simpa [isInfinite] using hy
      subst hr hr'
      have hall : ∀ s s', infinity s < infinity s' → 0 < infinity s' - infinity s := by
        decide +kernel
      exact hall s s' h

/-- The difference of numbers in order is positive, signs and infinities included: an exact
difference is at least one unit. -/
theorem sub_pos {x y : Binary64} (h : x < y) : 0 < y - x := by
  have hle := le_of_lt h
  obtain ⟨hx, hy⟩ := defined_of_le hle
  -- Finite numbers differ by a unit or more; against infinity the difference is infinite.
  rcases isFinite_or_isInfinite hx with hfin | hinf
  · rcases isFinite_or_isInfinite hy with hfin' | hinf'
    · have hvalues := value_lt_value h
      have hpos : 0 < nearestRank (y.value + -x.value).natAbs 1 :=
        nearestRank_pos Nat.one_pos (by omega)
      rw [sub_eq_add_neg, add_of_isFinite hfin' ((isFinite_neg x).trans hfin), value_neg,
        ofNat_zero]
      refine lt_iff.mpr ⟨0, _, rfl, place?_ofValue _ 1 _, ?_⟩
      rw [if_neg (by omega)]
      omega
    · have hdef : (y + -x).isUndefined = false := isUndefined_sub hy hfin
      rw [sub_eq_add_neg, add_of_isInfinite hinf' hdef]
      exact zero_lt_of_one_le (le_of_isFinite_of_isInfinite hle hfin hinf' rfl)
  · rcases isFinite_or_isInfinite hy with hfin' | hinf'
    · rw [sub_eq_add_neg, add_of_isFinite_of_isInfinite hfin' ((isInfinite_neg x).trans hinf)]
      have hleast : x ≤ -1 := le_of_isInfinite_of_isFinite hle hinf hfin' rfl
      exact zero_lt_of_one_le (neg_le_neg hleast)
    · exact sub_pos_of_isInfinite hinf hinf' h

theorem isUndefined_abs (x : Binary64) : x.abs.isUndefined = x.isUndefined := by
  cases x with
  | nan shared => rfl
  | ranked s r bounded => rfl

theorem isFinite_abs (x : Binary64) : x.abs.isFinite = x.isFinite := by
  cases x with
  | nan shared => rfl
  | ranked s r bounded => rfl

theorem unsigned_abs {x : Binary64} (h : x.isUndefined = false) : x.abs.Unsigned := by
  cases x with
  | nan shared => cases h
  | ranked s r bounded => exact unsigned_ranked r bounded

/-- The other way round a difference has the same magnitude. -/
theorem abs_sub_swap (x y : Binary64) : (x - y).abs = (y - x).abs := by
  show (Binary64.add x y.neg).abs = (Binary64.add y x.neg).abs
  cases x with
  | nan shared => cases y <;> rfl
  | ranked s r h =>
    cases y with
    | nan shared => rfl
    | ranked s' r' h' =>
      simp only [neg, Binary64.add]
      by_cases hinf : r = infinityRank
      · by_cases hinf' : r' = infinityRank
        · subst hinf hinf'
          cases s <;> cases s' <;> rfl
        · rw [if_pos hinf, if_neg (by tauto), if_neg hinf', if_pos hinf]
          rfl
      · by_cases hinf' : r' = infinityRank
        · rw [if_neg hinf, if_pos hinf', if_pos hinf', if_neg (by tauto)]
          rfl
        · -- the exact differences are opposite
          have hvalue := value_neg (ranked s r h)
          have hvalue' := value_neg (ranked s' r' h')
          rw [if_neg hinf, if_neg hinf', if_neg hinf', if_neg hinf]
          show nearest false ((ranked s r h).value + (-ranked s' r' h').value).natAbs 1
            = nearest false ((ranked s' r' h').value + (-ranked s r h).value).natAbs 1
          congr 1
          omega

/-- An infinity is alone in its place. -/
theorem eq_of_isInfinite {x y : Binary64} (hx : x.isInfinite = true) (hle : x ≤ y) (hge : y ≤ x) :
    x = y := by
  obtain ⟨a, b, ha, hb, hab⟩ := le_iff.mp hle
  obtain ⟨s, r, h, rfl⟩ := exists_ranked_of_place? ha
  obtain ⟨s', r', h', rfl⟩ := exists_ranked_of_place? hb
  have hr : r = infinityRank := by simpa [isInfinite] using hx
  have hpos : 0 < infinityRank := by decide
  rw [ranked_le_ranked_iff] at hle hge
  have heq : s = s' ∧ r = r' := by
    cases s <;> cases s' <;> simp at hle hge ⊢ <;> omega
  obtain ⟨rfl, rfl⟩ := heq
  rfl

/-- Infinity has no distance from itself. -/
theorem isUndefined_sub_self {x : Binary64} (h : x.isInfinite = true) :
    (x - x).isUndefined = true := by
  cases x with
  | nan shared => rfl
  | ranked s r bounded =>
    have hr : r = infinityRank := by simpa [isInfinite] using h
    subst hr
    have hinfinite : ∀ s, (infinity s - infinity s).isUndefined = true := by
      decide +kernel
    exact hinfinite s

/-- Numbers have a distance just if one of them comes before the other. -/
theorem zero_lt_abs_sub_iff {x y : Binary64} : 0 < (x - y).abs ↔ x < y ∨ y < x := by
  have hforward : ∀ {x y : Binary64}, y < x → 0 < (x - y).abs := by
    intro x y h
    rw [(unsigned_of_pos (sub_pos h)).abs_eq]
    exact sub_pos h
  refine ⟨fun hpos => ?_, fun h => h.elim (fun h => abs_sub_swap y x ▸ hforward h) hforward⟩
  by_contra hnot
  rw [not_or] at hnot
  have hdef : (x - y).isUndefined = false := by
    rw [← isUndefined_abs]
    exact (unsigned_of_pos hpos).defined
  have hx := defined_of_add hdef
  have hy : y.isUndefined = false := by
    rw [← isUndefined_neg]
    rw [sub_eq_add_neg, add_swap] at hdef
    exact defined_of_add hdef
  have hle := le_of_not_lt hx hy hnot.2
  have hge := le_of_not_lt hy hx hnot.1
  rcases isFinite_or_isInfinite hx with hfin | hinf
  · rcases isFinite_or_isInfinite hy with hfin' | hinf'
    · -- the exact difference is zero
      have hvalue := value_le_value hle
      have hvalue' := value_le_value hge
      rw [sub_eq_add_neg, add_of_isFinite hfin ((isFinite_neg y).trans hfin'), value_neg,
        show x.value + -y.value = 0 from by omega] at hpos
      exact absurd (zero_lt_ranked_iff.mp hpos) (by rw [Int.natAbs_zero, nearestRank_zero]; decide)
    · obtain rfl := eq_of_isInfinite hinf' hge hle
      rw [isUndefined_sub_self hinf'] at hdef
      cases hdef
  · obtain rfl := eq_of_isInfinite hinf hle hge
    rw [isUndefined_sub_self hinf] at hdef
    cases hdef

/-- A difference is undefined if a part is, and if both are the same infinity. -/
theorem isUndefined_sub_iff {x y : Binary64} : (x - y).isUndefined = true ↔
    x.isUndefined = true ∨ y.isUndefined = true ∨ x.isInfinite = true ∧ x = y := by
  constructor
  · intro h
    by_contra hnot
    simp only [not_or, Bool.not_eq_true] at hnot
    obtain ⟨hx, hy, hne⟩ := hnot
    rcases isFinite_or_isInfinite hx with hfin | hinf
    · rw [isUndefined_sub_of_isFinite hfin hy] at h
      cases h
    · -- numbers that differ have a distance, and an infinity differs from any other number
      have hsame : ¬(x < y ∨ y < x) := by
        intro hlt
        have hdef := (unsigned_of_pos (zero_lt_abs_sub_iff.mpr hlt)).defined
        rw [isUndefined_abs, h] at hdef
        cases hdef
      rw [not_or] at hsame
      exact hne ⟨hinf, eq_of_isInfinite hinf (le_of_not_lt hx hy hsame.2)
        (le_of_not_lt hy hx hsame.1)⟩
  · rintro (hx | hy | ⟨hinf, rfl⟩)
    · cases x with
      | nan shared => cases y <;> rfl
      | ranked s r bounded => cases hx
    · cases y with
      | nan shared => cases x <;> rfl
      | ranked s r bounded => cases hy
    · exact isUndefined_sub_self hinf

/-! ## Products and quotients -/

/-- A product with a factor that is positive and finite is defined. -/
theorem isUndefined_mul {x y : Binary64} (hx : x.isUndefined = false) (hpos : 0 < y)
    (hfin : y.isFinite = true) : (x * y).isUndefined = false := by
  obtain ⟨r, h, rfl⟩ := unsigned_of_pos hpos
  have hr : r ≠ 0 := Nat.ne_of_gt (zero_lt_ranked_iff.mp hpos)
  have hr' : r ≠ infinityRank := by simpa [isFinite] using hfin
  cases x with
  | nan shared => cases hx
  | ranked s k bounded =>
    show (Binary64.mul (ranked s k bounded) (ranked false r h)).isUndefined = false
    unfold Binary64.mul
    dsimp only
    split
    · next hinf =>
      -- the other factor is infinite, so it is not zero
      have hk : k = infinityRank := hinf.resolve_right hr'
      have hne : ¬(k = 0 ∨ r = 0) := by
        rintro (hzero | hzero)
        · exact absurd (hk.symm.trans hzero) (by decide)
        · exact hr hzero
      rw [if_neg hne]
      rfl
    · rfl

/-- A product with a factor that is neither zero nor infinite. -/
theorem Unsigned.mul_le_mul_left {x y y' : Binary64} (hx : x.Unsigned) (hpos : 0 < x)
    (hfin : x.isFinite = true) (hy : y.Unsigned) (hy' : y'.Unsigned) (hle : y ≤ y') :
    x * y ≤ x * y' := by
  obtain ⟨r, h, rfl⟩ := hx
  obtain ⟨s, k, rfl⟩ := hy
  obtain ⟨s', k', rfl⟩ := hy'
  have hr : 0 < r := zero_lt_ranked_iff.mp hpos
  have hr' : r ≠ infinityRank := by simpa [isFinite] using hfin
  rw [le_ranked_iff] at hle
  show Binary64.mul (ranked false r h) (ranked false s k)
    ≤ Binary64.mul (ranked false r h) (ranked false s' k')
  simp only [Binary64.mul, bne_self_eq_false, hr', false_or]
  by_cases hinf' : s' = infinityRank
  · -- the greater product is infinite
    have hne : ¬(r = 0 ∨ infinityRank = 0) := by
      rintro (hzero | hzero)
      · omega
      · exact absurd hzero (by decide)
    subst hinf'
    rw [if_pos rfl, if_neg hne]
    by_cases hinf : s = infinityRank
    · subst hinf
      rw [if_pos rfl, if_neg hne]
      exact le_ranked_iff.mpr (Nat.le_refl _)
    · rw [if_neg hinf]
      exact le_ranked_iff.mpr (nearestRank_le _ _)
  · rw [if_neg (by omega : s ≠ infinityRank), if_neg hinf']
    exact nearest_le_nearest _ (Nat.mul_le_mul_left _ (units_mono hle))

/-- A quotient by a divisor that is neither zero nor infinite. -/
theorem Unsigned.div_le_div_right {x x' y : Binary64} (hx : x.Unsigned) (hx' : x'.Unsigned)
    (hy : y.Unsigned) (hpos : 0 < y) (hfin : y.isFinite = true) (hle : x ≤ x') :
    x / y ≤ x' / y := by
  obtain ⟨r, h, rfl⟩ := hy
  obtain ⟨s, k, rfl⟩ := hx
  obtain ⟨s', k', rfl⟩ := hx'
  have hr : r ≠ 0 := Nat.ne_of_gt (zero_lt_ranked_iff.mp hpos)
  have hr' : r ≠ infinityRank := by simpa [isFinite] using hfin
  rw [le_ranked_iff] at hle
  show Binary64.div (ranked false s k) (ranked false r h)
    ≤ Binary64.div (ranked false s' k') (ranked false r h)
  simp only [Binary64.div, bne_self_eq_false, if_neg hr, if_neg hr']
  by_cases hinf' : s' = infinityRank
  · rw [if_pos hinf']
    split
    · exact le_ranked_iff.mpr (Nat.le_refl _)
    · exact le_ranked_iff.mpr (nearestRank_le _ _)
  · rw [if_neg (by omega : s ≠ infinityRank), if_neg hinf']
    exact nearest_le_nearest _ (Nat.mul_le_mul_right _ (units_mono hle))

/-! ## Cutting off and rounding -/

/-- The smaller of two rises with the first of them. -/
theorem Unsigned.smaller_le_smaller {x x' y : Binary64} (hx : x.Unsigned) (hx' : x'.Unsigned)
    (hy : y.Unsigned) (hle : x ≤ x') : x.smaller y ≤ x'.smaller y := by
  obtain ⟨r, h, rfl⟩ := hx
  obtain ⟨r', h', rfl⟩ := hx'
  obtain ⟨s, k, rfl⟩ := hy
  rw [le_ranked_iff] at hle
  rw [smaller_ranked, smaller_ranked, le_ranked_iff]
  omega

/-- The smaller of two is at most the second. -/
theorem Unsigned.smaller_le_right {x y : Binary64} (hx : x.Unsigned) (hy : y.Unsigned) :
    x.smaller y ≤ y := by
  obtain ⟨r, h, rfl⟩ := hx
  obtain ⟨r', h', rfl⟩ := hy
  rw [smaller_ranked, le_ranked_iff]
  exact Nat.min_le_right r r'

/-- The smaller of two finite numbers is finite. -/
theorem isFinite_smaller {x y : Binary64} (hx : x.isFinite = true) (hy : y.isFinite = true) :
    (x.smaller y).isFinite = true := by
  unfold smaller
  split
  · exact hy
  · exact hx

/-- The larger of two numbers is not below the first, if that is defined. -/
theorem le_larger {x : Binary64} (hx : x.isUndefined = false) (y : Binary64) : x ≤ x.larger y := by
  unfold larger
  split
  · next hlt => exact le_of_lt hlt
  · exact le_refl_of_defined hx

/-- Zero comes before what is cut off at zero, be it defined or not. -/
theorem zero_larger_unsigned (x : Binary64) : ((0 : Binary64).larger x).Unsigned := by
  cases hdef : x.isUndefined with
  | false => exact unsigned_zero_larger hdef
  | true =>
    cases x with
    | nan shared => exact unsigned_ofNat 0
    | ranked negative rank bounded => cases hdef

/-- Cutting off at zero keeps the order, zero named first. -/
theorem zero_larger_le_zero_larger {x x' : Binary64} (hle : x ≤ x') :
    (0 : Binary64).larger x ≤ (0 : Binary64).larger x' := by
  unfold larger
  split
  · next hpos =>
    obtain ⟨a, b, ha, hb, hab⟩ := lt_iff.mp hpos
    rw [if_pos]
    · exact hle
    · obtain ⟨a', b', ha', hb', hab'⟩ := le_iff.mp hle
      rw [hb] at ha'
      cases ha'
      exact lt_iff.mpr ⟨a, b', ha, hb', Int.lt_of_lt_of_le hab hab'⟩
  · exact (zero_larger_unsigned x').zero_le

/-- Cutting off at zero keeps the order, zero named second. -/
theorem larger_zero_le_larger_zero {x y : Binary64} (hle : x ≤ y) : x.larger 0 ≤ y.larger 0 := by
  have hzero : (0 : Binary64) ≤ 0 := (unsigned_ofNat 0).le_refl
  unfold larger
  by_cases hneg : y < 0
  · rw [if_pos hneg, if_pos (lt_of_le_of_lt hle hneg)]
    exact hzero
  · rw [if_neg hneg]
    split
    · exact le_of_not_lt rfl (defined_of_le hle).2 hneg
    · exact hle

/-- A greater number has no fewer of the last places. -/
theorem Unsigned.scaledMagnitude_le {x y : Binary64} (hx : x.Unsigned) (hy : y.Unsigned)
    (places : Nat) (hle : x ≤ y) : x.scaledMagnitude places ≤ y.scaledMagnitude places := by
  obtain ⟨r, h, rfl⟩ := hx
  obtain ⟨s, k, rfl⟩ := hy
  exact scaledMagnitude_mono places (le_ranked_iff.mp hle)

/-- Rounding to places gives no sign. -/
theorem Unsigned.roundTo {x : Binary64} (hx : x.Unsigned) (places : Nat) :
    (x.roundTo places).Unsigned := by
  obtain ⟨r, h, rfl⟩ := hx
  unfold Binary64.roundTo
  split
  · exact unsigned_nearest _ _
  · exact unsigned_ranked r h

/-- Rounding to places keeps the order. -/
theorem Unsigned.roundTo_le_roundTo {x y : Binary64} (hx : x.Unsigned) (hy : y.Unsigned)
    (places : Nat) (hle : x ≤ y) : x.roundTo places ≤ y.roundTo places := by
  obtain ⟨r, h, rfl⟩ := hx
  obtain ⟨s, k, rfl⟩ := hy
  rw [le_ranked_iff] at hle
  unfold Binary64.roundTo
  by_cases hinf : s < infinityRank
  · rw [if_pos (isFinite_ranked_iff.mpr hinf), if_pos (isFinite_ranked_iff.mpr (by omega))]
    exact nearest_le_nearest _ (Nat.mul_le_mul_right _ (scaledMagnitude_mono places hle))
  · -- an infinite number stays as it is
    rw [if_neg (isFinite_ranked_iff.not.mpr hinf)]
    split
    · exact le_ranked_iff.mpr (Nat.le_trans (nearestRank_le _ _) (by omega))
    · exact le_ranked_iff.mpr hle

end Binary64

end FamilyDesign.Numeric
