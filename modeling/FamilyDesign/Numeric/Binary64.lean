import FamilyDesign.Numeric.Rounding

/-!
# Binary64 numbers

Lengths, coordinates and scores are binary64 numbers. The finite magnitudes are exactly the
multiples of 2⁻¹⁰⁷⁴ that fit 53 bits; counted from zero upwards each has a *rank*, infinity having
the rank after the last, so a number is a sign and a rank, or not a number. Every operation
computes its exact result as a quotient of natural numbers and rounds once, to the nearest rank, a
tie going to the even one. Zero has a sign.
-/

namespace FamilyDesign.Numeric

-- Powers are those of the core library, whatever algebra is imported beside this module.
attribute [local instance (1100)] instPowNat

/-- The rank of infinity: one past the greatest finite magnitude. -/
def infinityRank : Nat := 2047 * 2 ^ (52 : Nat)

/-- A binary64 number. An undefined one is shared if it is the constant that documents name, and the
same wherever it stands; any other belongs to the place where it came about. -/
inductive Binary64
  | nan (shared : Bool)
  | ranked (negative : Bool) (rank : Nat) (bounded : rank ≤ infinityRank)
deriving DecidableEq

namespace Binary64

/-- How many smallest positive magnitudes make one. -/
def unitsPerOne : Nat := 2 ^ (1074 : Nat)

/-- The magnitude of a rank, counted in smallest positive magnitudes: 53 significant bits, the
leading one implied from the second binade on. -/
def units (rank : Nat) : Nat :=
  let binade := rank / 2 ^ (52 : Nat)
  if binade = 0 then rank else (2 ^ (52 : Nat) + rank % 2 ^ (52 : Nat)) * 2 ^ (binade - 1)

/-- The rank of the magnitude nearest to `a / b` smallest positive magnitudes. -/
def nearestRank (a b : Nat) : Nat :=
  let shift := (a / b).log2 - 52
  min infinityRank (shift * 2 ^ (52 : Nat) + roundDiv a (b * 2 ^ shift))

theorem nearestRank_le (a b : Nat) : nearestRank a b ≤ infinityRank :=
  Nat.min_le_left _ _

/-- The number nearest to `± a / b` smallest positive magnitudes. -/
def nearest (negative : Bool) (a b : Nat) : Binary64 :=
  .ranked negative (nearestRank a b) (nearestRank_le a b)

/-- Positive zero. -/
def zero : Binary64 := .ranked false 0 (Nat.zero_le _)

instance : Inhabited Binary64 := ⟨zero⟩

/-- Infinity of the given sign. -/
def infinity (negative : Bool) : Binary64 :=
  .ranked negative infinityRank (Nat.le_refl _)

/-- The number nearest to an integer. -/
def ofInt (n : Int) : Binary64 :=
  nearest (decide (n < 0)) (n.natAbs * unitsPerOne) 1

/-- The number nearest to the quotient of an integer by a positive natural number. -/
def ofQuotient (n : Int) (d : Nat) : Binary64 :=
  nearest (decide (n < 0)) (n.natAbs * unitsPerOne) d

/-- The number nearest to `± digits · 10 ^ exponent`. Beyond the range of binary64 the power need
not be computed: ten to the 400 is above every finite magnitude, and a quotient by it of a numeral
of fewer digits than its excess is below half the smallest. -/
def ofDecimal (negative : Bool) (digits : Nat) (exponent : Int) : Binary64 :=
  if digits = 0 then nearest negative 0 1
  else if 400 < exponent then infinity negative
  else if exponent < -400 - (digits.log2 : Int) then nearest negative 0 1
  else if 0 ≤ exponent then nearest negative (digits * 10 ^ exponent.toNat * unitsPerOne) 1
  else nearest negative (digits * unitsPerOne) (10 ^ (-exponent).toNat)

instance : OfNat Binary64 n := ⟨ofInt n⟩

instance : OfScientific Binary64 where
  ofScientific m negativeExponent e :=
    ofDecimal false m (if negativeExponent then -(e : Int) else (e : Int))

/-- The undefined number that an operation has for a result. -/
def undefined : Binary64 := nan false

/-- The undefined number that documents name. -/
def sharedUndefined : Binary64 := nan true

/-- Whether the number is undefined. -/
def isUndefined : Binary64 → Bool
  | nan _ => true
  | ranked .. => false

/-- Whether the number is neither infinite nor undefined. -/
def isFinite : Binary64 → Bool
  | nan _ => false
  | ranked _ rank _ => rank != infinityRank

/-- Whether the number is one of the two infinities. -/
def isInfinite : Binary64 → Bool
  | nan _ => false
  | ranked _ rank _ => rank == infinityRank

/-- Whether the sign is negative. -/
def isNegative : Binary64 → Bool
  | nan _ => false
  | ranked negative _ _ => negative

/-- The place of a number in the order: both zeros have place 0. -/
def place? : Binary64 → Option Int
  | nan _ => none
  | ranked negative rank _ => some (if negative then -(rank : Int) else rank)

/-- The exact value of a finite number, counted in smallest positive magnitudes. -/
def value : Binary64 → Int
  | nan _ => 0
  | ranked negative rank _ => if negative then -(units rank : Int) else units rank

/-- The number nearest to an exact value; an exact zero takes the given sign. -/
def ofValue (v : Int) (b : Nat) (zeroNegative : Bool) : Binary64 :=
  nearest (if v = 0 then zeroNegative else decide (v < 0)) v.natAbs b

/-- The number with the other sign. -/
def neg : Binary64 → Binary64
  | nan _ => undefined
  | ranked negative rank h => ranked (!negative) rank h

/-- The number without its sign. -/
def abs : Binary64 → Binary64
  | nan _ => undefined
  | ranked _ rank h => ranked false rank h

/-- The sum, rounded once. -/
def add (x y : Binary64) : Binary64 :=
  match x, y with
  | nan _, _ | _, nan _ => undefined
  | ranked sx rx _, ranked sy ry _ =>
    if rx = infinityRank then (if ry = infinityRank ∧ sx ≠ sy then undefined else x)
    else if ry = infinityRank then y
    else ofValue (x.value + y.value) 1 (sx && sy)

/-- The difference, rounded once. -/
def sub (x y : Binary64) : Binary64 := add x y.neg

/-- The product, rounded once. -/
def mul (x y : Binary64) : Binary64 :=
  match x, y with
  | nan _, _ | _, nan _ => undefined
  | ranked sx rx _, ranked sy ry _ =>
    if rx = infinityRank ∨ ry = infinityRank then
      (if rx = 0 ∨ ry = 0 then undefined else infinity (sx != sy))
    else nearest (sx != sy) (units rx * units ry) unitsPerOne

/-- The quotient, rounded once. -/
def div (x y : Binary64) : Binary64 :=
  match x, y with
  | nan _, _ | _, nan _ => undefined
  | ranked sx rx _, ranked sy ry _ =>
    if rx = infinityRank then (if ry = infinityRank then undefined else infinity (sx != sy))
    else if ry = infinityRank then nearest (sx != sy) 0 1
    else if ry = 0 then (if rx = 0 then undefined else infinity (sx != sy))
    else nearest (sx != sy) (units rx * unitsPerOne) (units ry)

/-- The integer part of the square root, by Newton's iteration from above. -/
def natSqrtFrom (n : Nat) : Nat → Nat → Nat
  | 0, guess => guess
  | fuel + 1, guess =>
    let next := (guess + n / guess) / 2
    if next < guess then natSqrtFrom n fuel next else guess

/-- The integer part of the square root. The iteration at least halves the error until it is below
one, so as many steps as `n` has bits are enough. -/
def natSqrt (n : Nat) : Nat :=
  if n = 0 then 0 else natSqrtFrom n (n.log2 + 2) (2 ^ (n.log2 / 2 + 1))

/-- The square root, rounded once: two more bits than the result and a mark for what lies below
them decide the rounding. -/
def sqrt : Binary64 → Binary64
  | nan _ => undefined
  | ranked negative rank h =>
    if rank = 0 then ranked negative rank h
    else if negative then undefined
    else if rank = infinityRank then infinity false
    else
      let n := 16 * (units rank * unitsPerOne)
      let root := natSqrt n
      nearest false (2 * root + (if root * root = n then 0 else 1)) 8

instance : Neg Binary64 := ⟨neg⟩
instance : Add Binary64 := ⟨add⟩
instance : Sub Binary64 := ⟨sub⟩
instance : Mul Binary64 := ⟨mul⟩
instance : Div Binary64 := ⟨div⟩

/-- Whether both are numbers and the first comes before the second. -/
def lt (x y : Binary64) : Bool :=
  match x.place?, y.place? with
  | some a, some b => decide (a < b)
  | _, _ => false

/-- Whether both are numbers and the first does not come after the second. -/
def le (x y : Binary64) : Bool :=
  match x.place?, y.place? with
  | some a, some b => decide (a ≤ b)
  | _, _ => false

/-- Whether both are numbers of one value; the two zeros are. -/
def eqv (x y : Binary64) : Bool :=
  match x.place?, y.place? with
  | some a, some b => a == b
  | _, _ => false

instance : LT Binary64 := ⟨fun x y => lt x y = true⟩
instance : LE Binary64 := ⟨fun x y => le x y = true⟩
instance (x y : Binary64) : Decidable (x < y) := inferInstanceAs (Decidable (lt x y = true))
instance (x y : Binary64) : Decidable (x ≤ y) := inferInstanceAs (Decidable (le x y = true))

/-- The first number unless the second exceeds it. -/
def larger (x y : Binary64) : Binary64 := if x < y then y else x

/-- The first number unless the second is below it. -/
def smaller (x y : Binary64) : Binary64 := if y < x then y else x

/-- The integer part of a finite number, toward zero. -/
def truncate (x : Binary64) : Int :=
  let whole : Int := (x.value.natAbs / unitsPerOne : Nat)
  if x.isNegative then -whole else whole

/-- Whether the number is finite and an integer. -/
def isIntegral (x : Binary64) : Bool :=
  x.isFinite && x.value.natAbs % unitsPerOne == 0

/-- The number of units of the last of `places` decimal places nearest to the magnitude. -/
def scaledMagnitude (x : Binary64) (places : Nat) : Nat :=
  roundDiv (x.value.natAbs * 10 ^ places) unitsPerOne

/-- The number nearest to the decimal with `places` places that is nearest to `x`. -/
def roundTo (places : Nat) (x : Binary64) : Binary64 :=
  if x.isFinite then
    nearest x.isNegative (x.scaledMagnitude places * unitsPerOne) (10 ^ places)
  else x

end Binary64

end FamilyDesign.Numeric
