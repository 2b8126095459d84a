import FamilyDesign.Proofs.Numeric.Unsigned

/-!
# Gaps between unsigned numbers

A sum may be rounded back to one of its parts, and a difference of infinities is undefined. What is
said here keeps both from happening.

* **`Unsigned.lt_add`** — a part that is more than half a unit of the last place is not lost in a
  sum.
* **`Unsigned.sub_pos`** — a difference is positive just where it should be: the smallest numbers
  are close enough for that.
* **`isUndefined_sub`** — the difference to a finite number is defined.
-/

namespace FamilyDesign.Numeric.Binary64

theorem Unsigned.defined {x : Binary64} (h : x.Unsigned) : x.isUndefined = false := by
  obtain ⟨rank, bounded, rfl⟩ := h
  rfl

/-! ## Order and finiteness -/

theorem not_le_of_lt {x y : Binary64} (h : x < y) : ¬y ≤ x := by
  intro hle
  obtain ⟨b, a, hb, ha, hba⟩ := le_iff.mp hle
  have hlt : lt x y = true := h
  unfold lt at hlt
  rw [ha, hb] at hlt
  exact absurd (of_decide_eq_true hlt) (by omega)

/-- Ranks below that of infinity are those of finite numbers. -/
theorem isFinite_ranked_iff {negative : Bool} {r : Nat} {h : r ≤ infinityRank} :
    (ranked negative r h).isFinite = true ↔ r < infinityRank := by
  unfold isFinite
  rw [bne_iff_ne]
  omega

/-- A million is finite, and so is every smaller number. -/
theorem isFinite_ofNat {n : Nat} (h : n ≤ 1000000) :
    (OfNat.ofNat n : Binary64).isFinite = true := by
  have hmillion : nearestRank (1000000 * unitsPerOne) 1 < infinityRank := by
    decide +kernel
  rw [ofNat_eq_nearest]
  refine isFinite_ranked_iff.mpr (Nat.lt_of_le_of_lt ?_ hmillion)
  exact nearestRank_mono 1 (Nat.mul_le_mul_right unitsPerOne h)

/-- What does not exceed a finite number is finite. -/
theorem Unsigned.isFinite_of_le {x y : Binary64} (hx : x.Unsigned) (hy : y.Unsigned) (hle : x ≤ y)
    (hfin : y.isFinite = true) : x.isFinite = true := by
  obtain ⟨r, h, rfl⟩ := hx
  obtain ⟨r', h', rfl⟩ := hy
  rw [le_ranked_iff] at hle
  rw [isFinite_ranked_iff] at hfin ⊢
  omega

/-- The smaller of two is at most the first. -/
theorem Unsigned.smaller_le {x y : Binary64} (hx : x.Unsigned) (hy : y.Unsigned) :
    x.smaller y ≤ x := by
  obtain ⟨r, h, rfl⟩ := hx
  obtain ⟨r', h', rfl⟩ := hy
  rw [smaller_ranked, le_ranked_iff]
  exact Nat.min_le_left r r'

theorem Unsigned.abs_eq {x : Binary64} (h : x.Unsigned) : x.abs = x := by
  obtain ⟨rank, bounded, rfl⟩ := h
  rfl

/-- What is below one of two defined numbers is below the larger of them. -/
theorem Unsigned.lt_larger {x y z : Binary64} (hz : z.Unsigned) (hy : y.Unsigned) (hlt : z < y)
    (hx : x.isUndefined = false) : (x.larger y).Unsigned ∧ z < x.larger y := by
  obtain ⟨bottom, hbottom, rfl⟩ := hz
  obtain ⟨r', h', rfl⟩ := hy
  rw [lt_ranked_iff] at hlt
  unfold Binary64.larger
  split
  · exact ⟨unsigned_ranked r' h', lt_ranked_iff.mpr hlt⟩
  · next hnot =>
    cases x with
    | nan shared => cases hx
    | ranked negative r h =>
      cases negative with
      | false =>
        rw [lt_ranked_iff] at hnot
        exact ⟨unsigned_ranked r h, lt_ranked_iff.mpr (by omega)⟩
      | true =>
        -- a number with a sign is below every positive one
        refine absurd ?_ hnot
        show lt (ranked true r h) (ranked false r' h') = true
        have hsign : -(r : Int) < r' := by omega
        simpa [lt, place?] using hsign

/-! ## Differences -/

/-- An exact value is never rounded to an undefined one. -/
theorem isUndefined_ofValue (v : Int) (b : Nat) (zeroNegative : Bool) :
    (ofValue v b zeroNegative).isUndefined = false := rfl

/-- The difference to a finite number is defined. -/
theorem Unsigned.isUndefined_sub {x y : Binary64} (hx : x.Unsigned) (hy : y.Unsigned)
    (hfin : y.isFinite = true) : (x - y).isUndefined = false := by
  obtain ⟨r, h, rfl⟩ := hx
  obtain ⟨r', h', rfl⟩ := hy
  rw [isFinite_ranked_iff] at hfin
  have hne : r' ≠ infinityRank := Nat.ne_of_lt hfin
  show (Binary64.add (ranked false r h) (ranked true r' h')).isUndefined = false
  simp only [Binary64.add, if_neg hne]
  split
  · rw [if_neg (fun hinf => hne hinf.1)]
    rfl
  · exact isUndefined_ofValue _ _ _

/-- The difference of numbers in order is positive. -/
theorem Unsigned.sub_pos {x y : Binary64} (hx : x.Unsigned) (hy : y.Unsigned) (hlt : y < x) :
    (x - y).Unsigned ∧ 0 < x - y := by
  obtain ⟨r, h, rfl⟩ := hx
  obtain ⟨r', h', rfl⟩ := hy
  rw [lt_ranked_iff] at hlt
  have hne : r' ≠ infinityRank := by omega
  show (Binary64.add (ranked false r h) (ranked true r' h')).Unsigned ∧
    0 < Binary64.add (ranked false r h) (ranked true r' h')
  simp only [Binary64.add, if_neg hne]
  split
  · -- An infinite minuend decides the difference.
    rw [if_neg (fun hinf => hne hinf.1)]
    exact ⟨unsigned_ranked r h, zero_lt_ranked_iff.mpr (by omega)⟩
  · -- the exact difference is a whole number of units, so it is not rounded to zero
    have hunits : units r' < units r :=
      Nat.lt_of_lt_of_le (units_lt_succ r') (units_mono hlt)
    have hvalue : (ranked false r h).value + (ranked true r' h').value
        = ((units r - units r' : Nat) : Int) := by
      show (units r : Int) + -(units r' : Int) = _
      omega
    have hpos : 0 < nearestRank (units r - units r') 1 := nearestRank_pos Nat.one_pos (by omega)
    rw [hvalue]
    unfold ofValue
    rw [if_neg (by omega), decide_eq_false (by omega), Int.natAbs_natCast]
    exact ⟨unsigned_nearest _ _, zero_lt_ranked_iff.mpr hpos⟩

/-! ## Sums -/

/-- A part of a sum is not lost in it if the other part does not exceed a limit at which it is more
than half a unit of the last place. -/
theorem Unsigned.lt_add {x y limit : Binary64} (hx : x.Unsigned) (hy : y.Unsigned)
    (hlimit : limit.Unsigned) (hle : x ≤ limit) (hfin : limit.isFinite = true)
    (hyfin : y.isFinite = true) (hgap : limit.value + y.value < 2 ^ 53 * y.value) :
    x < x + y := by
  have hxfin := hx.isFinite_of_le hlimit hle hfin
  obtain ⟨r, h, rfl⟩ := hx
  obtain ⟨r', h', rfl⟩ := hy
  obtain ⟨bound, hbound, rfl⟩ := hlimit
  rw [isFinite_ranked_iff] at hxfin hyfin
  rw [le_ranked_iff] at hle
  have hunits : units r ≤ units bound := units_mono hle
  have hgap' : units bound + units r' < 2 ^ 53 * units r' := by
    have hvalues : (units bound : Int) + units r' < 2 ^ 53 * units r' := hgap
    exact_mod_cast hvalues
  show ranked false r h < Binary64.add (ranked false r h) (ranked false r' h')
  have hsum : (ranked false r h).value + (ranked false r' h').value
      = ((units r + units r' : Nat) : Int) := by
    show (units r : Int) + (units r' : Int) = _
    omega
  simp only [Binary64.add, if_neg (Nat.ne_of_lt hxfin), if_neg (Nat.ne_of_lt hyfin), hsum]
  unfold ofValue
  rw [if_neg (by omega), decide_eq_false (by omega), Int.natAbs_natCast]
  refine lt_ranked_iff.mpr ?_
  -- were the sum rounded down to the first part, half a unit of its last place would be too much
  by_contra hnot
  have hback : nearestRank (units r + units r') 1 ≤ r := Nat.not_lt.mp hnot
  have hbelow := two_mul_le_units_nearestRank (a := units r + units r') Nat.one_pos
    (Nat.lt_of_le_of_lt hback hxfin)
  have hmono := units_mono hback
  rcases ulp_le (a := units r + units r') (b := 1) with hzero | hulp
  · rw [hzero] at hbelow
    omega
  · omega

end FamilyDesign.Numeric.Binary64
