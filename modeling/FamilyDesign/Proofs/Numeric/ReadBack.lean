import FamilyDesign.Numeric.Notation
import FamilyDesign.Proofs.Numeric.Numerals
import FamilyDesign.Proofs.Numeric.Unsigned

/-!
# What is written is read back

The digits of an integer spell it. The natural notation of a number is a decimal that is nearest to
the number, so what is read in it is the number: a decimal numeral is read as its nearest number
however its digits and its exponent are divided, and neither zeros at the end nor a point change
that.

* **`spell_digitPoints`** — digits spell the number that they were made of.
* **`nearestRank_units`** — a magnitude that is exact is not rounded.
* **`ofDecimal_eq`** — a decimal is read as its rank, the short cuts of the reading notwithstanding.
* **`rankOf_mul_pow`** — zeros at the end may be taken into the exponent.
* **`rankOf_shortest`** — the decimal that is written has the rank of the number.
* **`readMagnitude_naturalDigits`** — a decimal that is written has its rank when it is read.
* **`readMagnitude_magnitude`** — so what is written of a number is read as the number.
* **`readReal_of_readInt`**, **`nearest_exact`** — an integer numeral that is read as a real is
  rounded, unless the integer is a real.
-/

namespace FamilyDesign.Numeric

-- Powers are those of the core library, whatever algebra is imported beside this module.
attribute [local instance (1100)] instPowNat

/-! ## Digits -/

/-- The digits of a natural number as code points. -/
def digitPoints (n : Nat) : List CodePoint := (decimalDigits n).map .char

theorem spell_append (start : Nat) (xs ys : List CodePoint) :
    spell start (xs ++ ys) = spell (spell start xs) ys :=
  List.foldl_append

/-- Digits are spelled as the library's reader of characters spells them. -/
theorem spell_chars (start : Nat) (cs : List Char) :
    spell start (cs.map .char) = Nat.ofDigitChars 10 cs start := by
  induction cs generalizing start with
  | nil => rfl
  | cons c rest ih =>
    show spell (start * 10 + (c.toNat - '0'.toNat)) (rest.map .char) = _
    rw [ih, Nat.mul_comm]
    rfl

/-- Digits spell the number that they were made of. -/
theorem spell_digitPoints (n : Nat) : spell 0 (digitPoints n) = n := by
  unfold digitPoints
  rw [spell_chars]
  exact Nat.ofDigitChars_toDigits (by decide) (by decide)

theorem isDigit_of_mem_digitPoints {n : Nat} {c : CodePoint} (h : c ∈ digitPoints n) :
    c.isDigit = true := by
  obtain ⟨d, hd, rfl⟩ := List.mem_map.mp h
  exact Nat.isDigit_of_mem_toDigits (by decide) (by decide) hd

theorem digitPoints_ne_nil (n : Nat) : digitPoints n ≠ [] := by
  unfold digitPoints
  rw [ne_eq, List.map_eq_nil_iff]
  exact Nat.toDigits_ne_nil

/-- Zeros behind digits are powers of ten. -/
theorem spell_zeros (start count : Nat) :
    spell start (List.replicate count (.char '0')) = start * 10 ^ count := by
  induction count generalizing start with
  | zero => rw [Nat.pow_zero, Nat.mul_one]; rfl
  | succ count ih =>
    show spell (start * 10 + 0) (List.replicate count (.char '0')) = _
    rw [ih, Nat.add_zero, Nat.pow_succ, Nat.mul_assoc, Nat.mul_comm 10]

/-- Zeros ahead of digits do not count. -/
theorem spell_zeros_append (count : Nat) (cs : List CodePoint) :
    spell 0 (List.replicate count (.char '0') ++ cs) = spell 0 cs := by
  rw [spell_append, spell_zeros, Nat.zero_mul]

/-- Only the digits of zero start with a zero. Induction along the digits, of which the last one is
split off. -/
theorem head?_digitPoints {n : Nat} (hn : n ≠ 0) : (digitPoints n).head? ≠ some (.char '0') := by
  induction n using Nat.strongRecOn with
  | ind n ih =>
    unfold digitPoints decimalDigits
    by_cases hsmall : n < 10
    · rw [Nat.toDigits_of_lt_base hsmall]
      intro hhead
      have hzero : n.digitChar = '0' := CodePoint.char.inj (Option.some.inj hhead)
      have hnat := Nat.toNat_digitChar_of_lt_ten hsmall
      rw [hzero] at hnat
      have : ('0' : Char).toNat = 48 := rfl
      omega
    · have hrest : n / 10 ≠ 0 := by omega
      obtain ⟨c, cs, hcs⟩ := List.exists_cons_of_ne_nil (digitPoints_ne_nil (n / 10))
      have hhead := ih (n / 10) (by omega) hrest
      rw [hcs] at hhead
      rw [Nat.toDigits_of_base_le (by decide) (by omega), List.map_append,
        show (Nat.toDigits 10 (n / 10)).map CodePoint.char = c :: cs from hcs]
      exact hhead

/-! ## Rounding in another scale -/

/-- A common factor makes no difference to a rounded quotient. -/
theorem roundDiv_mul_right (a b : Nat) {c : Nat} (hc : 0 < c) :
    roundDiv (a * c) (b * c) = roundDiv a b := by
  have hlt : 2 * (a % b * c) < b * c ↔ 2 * (a % b) < b := by
    rw [← Nat.mul_assoc]
    exact Nat.mul_lt_mul_right hc
  have hgt : b * c < 2 * (a % b * c) ↔ b < 2 * (a % b) := by
    rw [← Nat.mul_assoc]
    exact Nat.mul_lt_mul_right hc
  unfold roundDiv
  dsimp only
  rw [Nat.mul_div_mul_right a b hc, Nat.mul_mod_mul_right]
  simp only [hlt, hgt]

namespace Binary64

/-- The nearest rank depends on the quotient alone. -/
theorem nearestRank_mul_right (a b : Nat) {c : Nat} (hc : 0 < c) :
    nearestRank (a * c) (b * c) = nearestRank a b := by
  have hscaled : ∀ shift : Nat, b * c * 2 ^ shift = b * 2 ^ shift * c := by
    intro shift
    rw [Nat.mul_right_comm]
  unfold nearestRank
  dsimp only
  rw [Nat.mul_div_mul_right a b hc, hscaled, roundDiv_mul_right _ _ hc]

/-- What is below half of the smallest magnitude is nearest to zero. -/
theorem nearestRank_eq_zero {a b : Nat} (h : 2 * a < b) : nearestRank a b = 0 := by
  have hdiv : a / b = 0 := Nat.div_eq_of_lt (by omega)
  have hround : roundDiv a b = 0 := by
    unfold roundDiv
    dsimp only
    rw [hdiv, Nat.mod_eq_of_lt (by omega), if_pos h]
  unfold nearestRank
  dsimp only
  rw [hdiv, Nat.log2_zero, Nat.zero_sub, Nat.pow_zero, Nat.mul_one, hround]
  rfl

/-- A magnitude that is exact is not rounded. -/
theorem nearestRank_units {rank : Nat} (h : rank < infinityRank) :
    nearestRank (units rank) 1 = rank := by
  obtain ⟨shift, q, hq, hnormal, rfl⟩ := exists_shift_significand rank
  have hshift : (q * 2 ^ shift).log2 - 52 = shift := by
    rcases hnormal with rfl | hlarge
    · have hlog : q.log2 ≤ 52 := by
        rcases Nat.eq_zero_or_pos q with rfl | hpos
        · exact Nat.zero_le _
        · exact Nat.le_of_lt_succ ((Nat.log2_lt hpos.ne').mpr hq)
      rw [Nat.pow_zero, Nat.mul_one]
      omega
    · have hne : q ≠ 0 := by omega
      have hlog : (q * 2 ^ shift).log2 = 52 + shift := by
        rw [Nat.log2_eq_iff (Nat.mul_ne_zero hne (Nat.two_pow_pos shift).ne')]
        refine ⟨?_, ?_⟩
        · rw [Nat.pow_add]
          exact Nat.mul_le_mul_right _ hlarge
        · rw [show 52 + shift + 1 = 53 + shift from by omega, Nat.pow_add]
          exact Nat.mul_lt_mul_of_pos_right hq (Nat.two_pow_pos shift)
      omega
  have hround : roundDiv (q * 2 ^ shift) (1 * 2 ^ shift) = q := by
    rw [roundDiv_mul_right _ _ (Nat.two_pow_pos shift), roundDiv_one]
  rw [units_rankOf (Nat.le_of_lt hq) hnormal]
  unfold nearestRank
  dsimp only
  rw [Nat.div_one, hshift, hround]
  exact Nat.min_eq_right (Nat.le_of_lt h)

/-! ## Decimals -/

/-- Zeros at the end may be taken into the exponent, one by one. -/
theorem rankOf_mul_ten (digits : Nat) (exponent : Int) :
    rankOf ⟨digits * 10, exponent⟩ = rankOf ⟨digits, exponent + 1⟩ := by
  have hscale : ∀ k : Nat, nearestRank (digits * 10 * unitsPerOne) (10 ^ (k + 1))
      = nearestRank (digits * unitsPerOne) (10 ^ k) := by
    intro k
    rw [Nat.mul_right_comm, Nat.pow_succ]
    exact nearestRank_mul_right _ _ (by decide)
  unfold rankOf
  dsimp only
  rcases Int.lt_trichotomy exponent (-1) with hlt | rfl | hgt
  · obtain ⟨k, hk⟩ : ∃ k : Nat, (-exponent).toNat = k + 1 := ⟨(-exponent).toNat - 1, by omega⟩
    rw [if_neg (by omega), if_neg (by omega), hk, hscale,
      show (-(exponent + 1)).toNat = k from by omega]
  · rw [if_neg (by decide), if_pos (by decide), show (-(-1 : Int)).toNat = 0 + 1 from rfl, hscale,
      show ((-1 : Int) + 1).toNat = 0 from rfl, Nat.pow_zero, Nat.mul_one]
  · rw [if_pos (by omega), if_pos (by omega), show (exponent + 1).toNat = exponent.toNat + 1 from by
      omega, Nat.pow_succ, Nat.mul_assoc digits 10, Nat.mul_comm 10]

/-- Zeros at the end may be taken into the exponent. -/
theorem rankOf_mul_pow (digits zeros : Nat) (exponent : Int) :
    rankOf ⟨digits * 10 ^ zeros, exponent⟩ = rankOf ⟨digits, exponent + zeros⟩ := by
  induction zeros generalizing exponent with
  | zero => rw [Nat.pow_zero, Nat.mul_one, Int.natCast_zero, Int.add_zero]
  | succ zeros ih =>
    rw [Nat.pow_succ, ← Nat.mul_assoc, rankOf_mul_ten, ih]
    congr 2
    omega

theorem rankOf_le (d : Decimal) : rankOf d ≤ infinityRank := by
  unfold rankOf
  split
  · exact nearestRank_le _ _
  · exact nearestRank_le _ _

theorem ranked_congr {negative : Bool} {rank rank' : Nat} (h : rank = rank')
    (hrank : rank ≤ infinityRank) (hrank' : rank' ≤ infinityRank) :
    ranked negative rank hrank = ranked negative rank' hrank' := by
  cases h
  rfl

/-- A large power of ten in factors that are quick to compute. -/
theorem mul_pow_le_pow {k places : Nat} (h : 401 + k ≤ places) :
    10 ^ 200 * 10 ^ 201 * 10 ^ k ≤ 10 ^ places := by
  obtain ⟨rest, rfl⟩ : ∃ rest, places = rest + k + 201 + 200 := ⟨places - 401 - k, by omega⟩
  calc 10 ^ 200 * 10 ^ 201 * 10 ^ k ≤ 10 ^ rest * (10 ^ 200 * 10 ^ 201 * 10 ^ k) :=
        Nat.le_mul_of_pos_left _ (Nat.pow_pos (by decide))
    _ = 10 ^ (rest + k + 201 + 200) := by
        rw [Nat.pow_add _ (rest + k + 201), Nat.pow_add _ (rest + k), Nat.pow_add]
        ring

/-- A numeral of few digits and a small exponent is below half of the smallest magnitude. -/
theorem two_mul_units_lt {digits places : Nat} (h : 401 + digits.log2 ≤ places) :
    2 * (digits * unitsPerOne) < 10 ^ places := by
  have hunits : 4 * unitsPerOne < 10 ^ 200 * 10 ^ 201 := by
    decide +kernel
  calc 2 * (digits * unitsPerOne) ≤ 2 * (2 ^ (digits.log2 + 1) * unitsPerOne) :=
        Nat.mul_le_mul_left 2 (Nat.mul_le_mul_right unitsPerOne (Nat.le_of_lt Nat.lt_log2_self))
    _ = 4 * unitsPerOne * 2 ^ digits.log2 := by
        rw [Nat.pow_succ]
        ring
    _ < 10 ^ 200 * 10 ^ 201 * 2 ^ digits.log2 :=
        Nat.mul_lt_mul_of_pos_right hunits (Nat.two_pow_pos digits.log2)
    _ ≤ 10 ^ 200 * 10 ^ 201 * 10 ^ digits.log2 :=
        Nat.mul_le_mul_left _ (Nat.pow_le_pow_left (by decide) digits.log2)
    _ ≤ 10 ^ places := mul_pow_le_pow h

theorem rankOf_zero (exponent : Int) : rankOf ⟨0, exponent⟩ = 0 := by
  unfold rankOf
  dsimp only
  rw [Nat.zero_mul, Nat.zero_mul, nearestRank_zero, nearestRank_zero, ite_self]

/-- Ten to the 401 is beyond the finite magnitudes. -/
theorem rankOf_of_large {digits : Nat} {exponent : Int} (hdigits : digits ≠ 0)
    (h : 400 < exponent) : rankOf ⟨digits, exponent⟩ = infinityRank := by
  have hpower : 10 ^ 200 * 10 ^ 201 ≤ digits * 10 ^ exponent.toNat :=
    calc 10 ^ 200 * 10 ^ 201 ≤ 10 ^ 200 * 10 ^ 201 * 10 ^ 0 :=
          Nat.le_mul_of_pos_right _ (Nat.pow_pos (by decide))
      _ ≤ 10 ^ exponent.toNat := mul_pow_le_pow (by omega)
      _ ≤ digits * 10 ^ exponent.toNat :=
          Nat.le_mul_of_pos_left _ (Nat.pos_of_ne_zero hdigits)
  have hinfinite : nearestRank (10 ^ 200 * 10 ^ 201 * unitsPerOne) 1 = infinityRank := by
    decide +kernel
  unfold rankOf
  rw [if_pos (show 0 ≤ exponent by omega)]
  refine Nat.le_antisymm (nearestRank_le _ _) ?_
  rw [← hinfinite]
  exact nearestRank_mono 1 (Nat.mul_le_mul_right unitsPerOne hpower)

/-- A numeral of few digits and a small exponent is nearest to zero. -/
theorem rankOf_of_small {digits : Nat} {exponent : Int}
    (h : exponent < -400 - (digits.log2 : Int)) : rankOf ⟨digits, exponent⟩ = 0 := by
  unfold rankOf
  rw [if_neg (show ¬0 ≤ exponent by omega)]
  exact nearestRank_eq_zero
    (two_mul_units_lt (show 401 + digits.log2 ≤ (-exponent).toNat by omega))

/-- A decimal is read as its rank, also where the reading cuts the power short. -/
theorem ofDecimal_eq (negative : Bool) (digits : Nat) (exponent : Int) :
    ofDecimal negative digits exponent
      = ranked negative (rankOf ⟨digits, exponent⟩) (rankOf_le _) := by
  unfold ofDecimal
  -- The reading treats no digits, very large and very small powers apart; the rank is the same.
  split
  · next hzero =>
    cases hzero
    exact ranked_congr ((nearestRank_zero 1).trans (rankOf_zero exponent).symm) _ _
  · next hdigits =>
    split
    · next hlarge => exact ranked_congr (rankOf_of_large hdigits hlarge).symm _ _
    · split
      · next hsmall =>
        exact ranked_congr ((nearestRank_zero 1).trans (rankOf_of_small hsmall).symm) _ _
      · split
        · next hnonneg => exact ranked_congr (if_pos hnonneg).symm _ _
        · next hneg => exact ranked_congr (if_neg hneg).symm _ _

/-! ## The decimal that is written -/

/-- The zeros at the end of the digits of a number are factors of ten. -/
theorem dvd_of_trailing_zeros (n : Nat) :
    10 ^ ((decimalDigits n).reverse.takeWhile (· == '0')).length ∣ n := by
  have hzeros : (decimalDigits n).reverse.takeWhile (· == '0')
      = List.replicate ((decimalDigits n).reverse.takeWhile (· == '0')).length '0' :=
    List.eq_replicate_iff.mpr
      ⟨rfl, fun c hc => by simpa using List.all_eq_true.mp List.all_takeWhile c hc⟩
  have hsplit : decimalDigits n = ((decimalDigits n).reverse.dropWhile (· == '0')).reverse
      ++ ((decimalDigits n).reverse.takeWhile (· == '0')).reverse := by
    rw [← List.reverse_append, List.takeWhile_append_dropWhile, List.reverse_reverse]
  rw [hzeros, List.reverse_replicate] at hsplit
  have hspell := spell_digitPoints n
  unfold digitPoints at hspell
  rw [hsplit, List.map_append, List.map_replicate, spell_append, spell_zeros] at hspell
  exact Dvd.intro_left _ hspell

/-- Without zeros at the end a decimal has the same rank. -/
theorem rankOf_trim (d : Decimal) : rankOf d.trim = rankOf d := by
  unfold Decimal.trim
  dsimp only
  split
  · rfl
  · rw [← rankOf_mul_pow, Nat.div_mul_cancel (dvd_of_trailing_zeros d.digits)]

/-- A magnitude in tenths of tenths, as many as there are halvings in the smallest one. -/
theorem nearestRank_five_mul (n places : Nat) :
    nearestRank (n * 5 ^ places * 2 ^ places) (10 ^ places) = nearestRank n 1 := by
  have hten : n * 5 ^ places * 2 ^ places = n * 10 ^ places := by
    rw [Nat.mul_assoc, ← Nat.mul_pow]
  have hscale := nearestRank_mul_right n 1 (Nat.pow_pos (n := places) (show 0 < 10 by decide))
  rw [Nat.one_mul] at hscale
  rw [hten, hscale]

/-- The decimal that is written has the rank of the number. -/
theorem rankOf_shortest {rank : Nat} (h : rank < infinityRank) : rankOf (shortest rank) = rank := by
  -- past the candidates stands the exact value
  have hexact : ∀ places : Nat, places = 1074 →
      rankOf ⟨units rank * 5 ^ places, -(places : Int)⟩ = rank := by
    intro places hplaces
    have hunits : unitsPerOne = 2 ^ places := by
      rw [hplaces]
      rfl
    unfold rankOf
    dsimp only
    rw [if_neg (by omega), Int.neg_neg, Int.toNat_natCast, hunits, nearestRank_five_mul,
      nearestRank_units h]
  unfold shortest
  dsimp only
  cases hfound : List.find? (fun d => rankOf d == rank) _ with
  | some d => exact rankOf_candidate hfound
  | none => exact hexact 1074 rfl

/-! ## Reading a magnitude -/

section Reading

variable {negative : Bool} {whole fraction mark : List CodePoint} {e : Int}

/-- What follows the digits of a numeral: it does not go on with a digit. -/
def StopsDigits (cs : List CodePoint) : Prop := ∀ c ∈ cs.head?, c.isDigit = false

/-- Digits are read up to what stops them. -/
theorem takeWhile_digits (hwhole : ∀ c ∈ whole, c.isDigit = true) (hrest : StopsDigits mark) :
    (whole ++ mark).takeWhile CodePoint.isDigit = whole := by
  rw [List.takeWhile_append_of_pos hwhole]
  cases mark with
  | nil => simp
  | cons c rest =>
    rw [List.takeWhile_cons_of_neg (by simpa using hrest c rfl), List.append_nil]

/-- Behind digits stands what stops them. -/
theorem dropWhile_digits (hwhole : ∀ c ∈ whole, c.isDigit = true) (hrest : StopsDigits mark) :
    (whole ++ mark).dropWhile CodePoint.isDigit = mark := by
  rw [List.dropWhile_append_of_pos hwhole]
  cases mark with
  | nil => rfl
  | cons c rest => rw [List.dropWhile_cons_of_neg (by simpa using hrest c rfl)]

/-- A numeral with a point. -/
theorem readMagnitude_point (hwhole : ∀ c ∈ whole, c.isDigit = true) (hne : whole ≠ [])
    (hfraction : ∀ c ∈ fraction, c.isDigit = true) (hmark : StopsDigits mark)
    (he : readExponent mark = some e) :
    readMagnitude negative (whole ++ .char '.' :: (fraction ++ mark))
      = some (ofDecimal negative (spell 0 (whole ++ fraction)) (e - fraction.length)) := by
  have hpoint : StopsDigits (.char '.' :: (fraction ++ mark)) := by
    intro c hc
    cases hc
    rfl
  unfold readMagnitude
  dsimp only
  rw [takeWhile_digits hwhole hpoint, dropWhile_digits hwhole hpoint]
  split
  · next tail heq =>
    cases heq
    rw [takeWhile_digits hfraction hmark, dropWhile_digits hfraction hmark,
      List.isEmpty_eq_false_iff.mpr hne, he, spell_append]
    rfl
  · next hno => exact absurd rfl (hno _)

/-- A numeral without a point. -/
theorem readMagnitude_whole (hwhole : ∀ c ∈ whole, c.isDigit = true) (hne : whole ≠ [])
    (hmark : StopsDigits mark) (hpoint : mark.head? ≠ some (.char '.'))
    (he : readExponent mark = some e) :
    readMagnitude negative (whole ++ mark) = some (ofDecimal negative (spell 0 whole) e) := by
  unfold readMagnitude
  dsimp only
  rw [takeWhile_digits hwhole hmark, dropWhile_digits hwhole hmark]
  split
  · exact absurd rfl hpoint
  · rw [List.isEmpty_eq_false_iff.mpr hne, he]
    show some (ofDecimal negative (spell 0 whole) (e - 0)) = _
    rw [Int.sub_zero]

/-- What is read is the number of a rank if the decimal has that rank. -/
theorem ofDecimal_of_rankOf {digits : Nat} {exponent : Int} {d : Decimal}
    (h : rankOf ⟨digits, exponent⟩ = rankOf d) :
    some (ofDecimal negative digits exponent)
      = some (ranked negative (rankOf d) (rankOf_le d)) := by
  rw [ofDecimal_eq]
  exact congrArg some (ranked_congr h _ _)

end Reading

/-! ## Reading what is written -/

theorem stopsDigits_nil : StopsDigits [] := nofun

theorem readExponent_nil : readExponent [] = some 0 := rfl

/-- An exponent mark stops digits. -/
theorem stopsDigits_exponentMark (e : Int) :
    StopsDigits ((exponentMark e).map CodePoint.char) := by
  intro c hc
  cases hc
  rfl

/-- Zeros in front of digits are digits. -/
theorem isDigit_of_mem_zeros_append {zeros : Nat} {cs : List CodePoint}
    (h : ∀ c ∈ cs, c.isDigit = true) :
    ∀ c ∈ List.replicate zeros (.char '0') ++ cs, c.isDigit = true := by
  intro c hc
  rcases List.mem_append.mp hc with hzero | hdigit
  · rw [List.eq_of_mem_replicate hzero]
    rfl
  · exact h c hdigit

/-- An exponent is its mark, a sign and digits, a single one behind a zero. -/
theorem map_exponentMark (e : Int) : ∃ zeros : Nat, (exponentMark e).map CodePoint.char
    = .char 'e' :: .char (if e < 0 then '-' else '+')
      :: (List.replicate zeros (.char '0') ++ digitPoints e.natAbs) := by
  unfold exponentMark
  dsimp only
  rw [List.map_cons, List.map_cons]
  by_cases hshort : (decimalDigits e.natAbs).length < 2
  · rw [if_pos hshort]
    exact ⟨1, rfl⟩
  · rw [if_neg hshort]
    exact ⟨0, rfl⟩

/-- An exponent is read as it was written. -/
theorem readExponent_exponentMark (e : Int) :
    readExponent ((exponentMark e).map CodePoint.char) = some e := by
  obtain ⟨zeros, hmark⟩ := map_exponentMark e
  have hne : List.replicate zeros (.char '0') ++ digitPoints e.natAbs ≠ [] :=
    List.append_ne_nil_of_right_ne_nil _ (digitPoints_ne_nil _)
  have hall : ∀ c ∈ List.replicate zeros (.char '0') ++ digitPoints e.natAbs, c.isDigit = true :=
    isDigit_of_mem_zeros_append fun c => isDigit_of_mem_digitPoints
  have hspell : spell 0 (List.replicate zeros (.char '0') ++ digitPoints e.natAbs) = e.natAbs := by
    rw [spell_zeros_append, spell_digitPoints]
  rw [hmark, readExponent_mark]
  by_cases hneg : e < 0
  · rw [if_pos hneg, readInt_minus hne hall, hspell,
      Int.ofNat_natAbs_of_nonpos (Int.le_of_lt hneg), Int.neg_neg]
  · rw [if_neg hneg, readInt_plus hne hall, hspell, Int.natAbs_of_nonneg (by omega)]

section Reading

variable {negative : Bool} {d : Decimal}

/-- Zeros behind the digits of a number are digits too. -/
theorem isDigit_of_mem_append_zeros (n zeros : Nat) :
    ∀ c ∈ digitPoints n ++ List.replicate zeros (.char '0'), c.isDigit = true := by
  intro c hc
  rcases List.mem_append.mp hc with hdigit | hzero
  · exact isDigit_of_mem_digitPoints hdigit
  · rw [List.eq_of_mem_replicate hzero]
    rfl

/-- One digit, or a digit and a fraction, and an exponent. -/
theorem readMagnitude_scientific (negative : Bool) (d : Decimal) :
    readMagnitude negative (d.scientific.map .char)
      = some (ranked negative (rankOf d) (rankOf_le d)) := by
  have hspell := spell_digitPoints d.digits
  have hdigit : ∀ c ∈ digitPoints d.digits, c.isDigit = true :=
    fun c => isDigit_of_mem_digitPoints
  have hne := digitPoints_ne_nil d.digits
  unfold digitPoints at hspell hdigit hne
  unfold Decimal.scientific
  dsimp only
  cases hds : decimalDigits d.digits with
  | nil =>
    rw [hds] at hne
    exact absurd rfl hne
  | cons c rest =>
    rw [hds, List.map_cons] at hspell
    rw [hds, List.map_cons, List.forall_mem_cons] at hdigit
    have hfirst : ∀ c' ∈ [CodePoint.char c], c'.isDigit = true := by
      simpa using hdigit.1
    -- One digit stands alone, more are written behind a point and counted off the exponent.
    cases rest with
    | nil =>
      rw [List.map_cons, ← List.singleton_append, readMagnitude_whole hfirst (List.cons_ne_nil _ _)
        (stopsDigits_exponentMark _) (by simp [exponentMark]) (readExponent_exponentMark _)]
      refine ofDecimal_of_rankOf ?_
      rw [show spell 0 [CodePoint.char c] = d.digits from hspell, List.length_singleton]
      congr 2
      omega
    | cons c' rest =>
      rw [List.map_cons, List.map_cons, List.map_append, ← List.singleton_append,
        readMagnitude_point hfirst (List.cons_ne_nil _ _) hdigit.2 (stopsDigits_exponentMark _)
          (readExponent_exponentMark _)]
      refine ofDecimal_of_rankOf ?_
      rw [List.singleton_append, hspell, List.length_map, List.length_cons]
      congr 2
      omega

/-- The digits of an integer, behind them a point and a zero. -/
theorem readMagnitude_integral (h : 0 ≤ d.exponent) :
    readMagnitude negative ((d.positional ++ ['.', '0']).map .char)
      = some (ranked negative (rankOf d) (rankOf_le d)) := by
  have hzero : ∀ c ∈ [CodePoint.char '0'], c.isDigit = true := List.forall_mem_singleton.mpr rfl
  have hread : readMagnitude negative _ = some (ofDecimal negative _ _) :=
    readMagnitude_point (isDigit_of_mem_append_zeros d.digits d.exponent.toNat)
      (List.append_ne_nil_of_left_ne_nil (digitPoints_ne_nil _) _) hzero stopsDigits_nil
      readExponent_nil
  unfold Decimal.positional
  dsimp only
  rw [if_pos h, List.map_append, List.map_append, List.map_replicate]
  refine hread.trans (ofDecimal_of_rankOf ?_)
  rw [spell_append, spell_append, spell_digitPoints, spell_zeros]
  -- The zero behind the point is one more power of ten, taken back by the exponent.
  show rankOf ⟨d.digits * 10 ^ d.exponent.toNat * 10 + 0, 0 - 1⟩ = rankOf d
  rw [Nat.add_zero, rankOf_mul_ten, rankOf_mul_pow]
  congr 2
  omega

/-- The digits of a number behind zeros, more of them than there are places. -/
structure Padded (n places : Nat) (padded : List Char) : Prop where
  length : places < padded.length
  digits : ∀ c ∈ padded.map CodePoint.char, c.isDigit = true
  value : spell 0 (padded.map CodePoint.char) = n

/-- Padded with zeros the digits are more than the places. -/
theorem padded_replicate (n places : Nat) : Padded n places
    (List.replicate (places + 1 - (decimalDigits n).length) '0' ++ decimalDigits n) := by
  have hpoints : (List.replicate (places + 1 - (decimalDigits n).length) '0'
      ++ decimalDigits n).map CodePoint.char
      = List.replicate (places + 1 - (decimalDigits n).length) (.char '0') ++ digitPoints n := by
    rw [List.map_append, List.map_replicate]
    rfl
  refine ⟨?_, ?_, ?_⟩
  · rw [List.length_append, List.length_replicate]
    omega
  · rw [hpoints]
    exact isDigit_of_mem_zeros_append fun c => isDigit_of_mem_digitPoints
  · rw [hpoints, spell_zeros_append, spell_digitPoints]

section Padded

variable {n places : Nat} {padded : List Char} (h : Padded n places padded)
include h

/-- A digit is left ahead of the point. -/
theorem Padded.whole_ne_nil : (padded.take (padded.length - places)).map CodePoint.char ≠ [] := by
  have hlength := h.length
  rw [ne_eq, List.map_eq_nil_iff, List.take_eq_nil_iff]
  rintro (hzero | rfl)
  · omega
  · exact absurd hlength (Nat.not_lt_zero _)

theorem Padded.isDigit_whole :
    ∀ c ∈ (padded.take (padded.length - places)).map CodePoint.char, c.isDigit = true :=
  fun c hc => h.digits c (List.map_subset _ (List.take_subset _ _) hc)

theorem Padded.isDigit_places :
    ∀ c ∈ (padded.drop (padded.length - places)).map CodePoint.char, c.isDigit = true :=
  fun c hc => h.digits c (List.map_subset _ (List.drop_subset _ _) hc)

end Padded

/-- The point may stand anywhere among digits: the places behind it are the exponent. -/
theorem readMagnitude_padded {n places : Nat} {padded : List Char} (h : Padded n places padded) :
    readMagnitude negative ((padded.take (padded.length - places)
      ++ '.' :: padded.drop (padded.length - places)).map .char)
      = some (ofDecimal negative n (0 - (places : Int))) := by
  have hread : readMagnitude negative _ = some (ofDecimal negative _ _) :=
    readMagnitude_point h.isDigit_whole h.whole_ne_nil h.isDigit_places stopsDigits_nil
      readExponent_nil
  rw [List.append_nil, ← List.map_append, List.take_append_drop, h.value, List.length_map,
    List.length_drop, Nat.sub_sub_self (Nat.le_of_lt h.length)] at hread
  rw [List.map_append, List.map_cons]
  exact hread

/-- Digits with a point among them, behind zeros if they are too few. -/
theorem readMagnitude_fractional (h : d.exponent < 0) :
    readMagnitude negative (d.positional.map .char)
      = some (ranked negative (rankOf d) (rankOf_le d)) := by
  unfold Decimal.positional
  dsimp only
  rw [if_neg (by omega), readMagnitude_padded (padded_replicate _ _)]
  refine ofDecimal_of_rankOf ?_
  rw [show (0 : Int) - ((-d.exponent).toNat : Int) = d.exponent from by omega]

/-- What is written is read back. -/
theorem readMagnitude_naturalDigits (negative : Bool) (d : Decimal) :
    readMagnitude negative ((naturalDigits d).map .char)
      = some (ranked negative (rankOf d) (rankOf_le d)) := by
  unfold naturalDigits
  split
  · exact readMagnitude_scientific negative d
  · split
    · next h => exact readMagnitude_integral h
    · next h => exact readMagnitude_fractional (by omega)

/-- What is written shows that it is no integer. -/
theorem exists_mark_naturalDigits (d : Decimal) :
    ∃ c ∈ (naturalDigits d).map CodePoint.char, c.isDigit = false := by
  have hpoint : ∀ {cs : List Char}, '.' ∈ cs → ∃ c ∈ cs.map CodePoint.char, c.isDigit = false :=
    fun hmem => ⟨.char '.', List.mem_map_of_mem hmem, rfl⟩
  unfold naturalDigits
  -- Either an exponent mark or a point is there.
  split
  · refine ⟨.char 'e', List.mem_map_of_mem ?_, rfl⟩
    unfold Decimal.scientific exponentMark
    dsimp only
    split <;> simp
  · split
    · exact hpoint (by simp)
    · next h =>
      refine hpoint ?_
      unfold Decimal.positional
      dsimp only
      rw [if_neg h]
      simp

end Reading

/-! ## Numbers as they are written -/

/-- The notation of a finite magnitude. -/
def magnitude (rank : Nat) : List Char :=
  if rank = 0 then ['0', '.', '0'] else naturalDigits (shortest rank).trim

/-- A finite number is its magnitude behind its sign. -/
theorem toList_natural {negative : Bool} {rank : Nat} {bounded : rank ≤ infinityRank}
    (h : rank < infinityRank) :
    (ranked negative rank bounded).natural.toList
      = (if negative then ['-'] else []) ++ magnitude rank := by
  unfold natural signed magnitude
  dsimp only
  rw [String.toList_ofList, if_neg (Nat.ne_of_lt h)]

/-- The notation of a magnitude is read as the number. -/
theorem readMagnitude_magnitude (negative : Bool) {rank : Nat} {bounded : rank ≤ infinityRank}
    (h : rank < infinityRank) :
    readMagnitude negative ((magnitude rank).map .char) = some (ranked negative rank bounded) := by
  unfold magnitude
  split
  · next hzero =>
    show some (nearest negative 0 1) = _
    exact congrArg some (ranked_congr ((nearestRank_zero 1).trans hzero.symm) _ _)
  · rw [readMagnitude_naturalDigits]
    exact congrArg some (ranked_congr ((rankOf_trim _).trans (rankOf_shortest h)) _ _)

/-- A magnitude that is written shows that it is no integer. -/
theorem exists_mark_magnitude (rank : Nat) :
    ∃ c ∈ (magnitude rank).map CodePoint.char, c.isDigit = false := by
  unfold magnitude
  split
  · exact ⟨.char '.', by simp, rfl⟩
  · exact exists_mark_naturalDigits _

/-! ## Integers as reals -/

/-- The number nearest to a magnitude that a finite number has is that number, but for its sign. -/
theorem nearest_exact {x : Binary64} (negative : Bool) (hfinite : x.isFinite = true) {a : Nat}
    (ha : x.value.natAbs = a) :
    (nearest negative a 1).isFinite = true ∧
      (nearest negative a 1).value = Numeric.signed negative a := by
  cases x with
  | nan shared => cases hfinite
  | ranked sign rank bounded =>
    have hrank : rank < infinityRank := Nat.lt_of_le_of_ne bounded (bne_iff_ne.mp hfinite)
    have hunits : units rank = a := (natAbs_value_ranked sign rank bounded).symm.trans ha
    have hnearest : nearestRank a 1 = rank := by
      rw [← hunits, nearestRank_units hrank]
    refine ⟨bne_iff_ne.mpr (hnearest ▸ Nat.ne_of_lt hrank), ?_⟩
    show Numeric.signed negative (units (nearestRank a 1)) = Numeric.signed negative a
    rw [hnearest, hunits]

/-- An integer numeral is read as a real by rounding the integer. -/
theorem readReal_of_readInt {cs : List CodePoint} {n : Int} (h : readInt cs = some n) :
    ∃ negative, readReal cs = some (nearest negative (n.natAbs * unitsPerOne) 1) ∧
      Numeric.signed negative n.natAbs = n := by
  obtain ⟨hne, hdigits, hvalue⟩ := readInt_eq_some_iff.mp h
  generalize hsplit : splitSign cs = split at hne hdigits hvalue
  obtain ⟨negative, body⟩ := split
  have hnatAbs : n.natAbs = spell 0 body := by
    rw [← hvalue]
    cases negative with
    | false => exact Int.natAbs_natCast _
    | true => exact Int.natAbs_neg _
  have hread : readMagnitude negative (body ++ []) = some (ofDecimal negative (spell 0 body) 0) :=
    readMagnitude_whole hdigits hne stopsDigits_nil nofun readExponent_nil
  -- Without an exponent the decimal is the integer itself.
  have hrank : rankOf ⟨spell 0 body, 0⟩ = nearestRank (n.natAbs * unitsPerOne) 1 := by
    unfold rankOf
    dsimp only
    rw [if_pos (Int.le_refl 0), Int.toNat_zero, Nat.pow_zero, Nat.mul_one, hnatAbs]
  refine ⟨negative, ?_, hnatAbs ▸ hvalue⟩
  rw [readReal_of_isPlainPart hsplit fun c hc => isPlainPart_of_isDigit (hdigits c hc),
    ← List.append_nil body, hread, ofDecimal_eq]
  exact congrArg some (ranked_congr hrank _ _)

end Binary64

end FamilyDesign.Numeric
