import FamilyDesign.Numeric.Binary64

/-!
# Decimal notation of numbers

Three ways to write a number. The *natural* notation has the fewest digits that read back as the
number, nearest to it among those; it is positional for decimal exponents from -4 to 15 and always
shows a point or an exponent. The *general* notation has six significant digits and no trailing
zeros. The *fixed* notation has a set number of places. All round the exact value, a tie going to
the even digit.
-/

namespace FamilyDesign.Numeric

-- Powers are those of the core library, whatever algebra is imported beside this module.
attribute [local instance (1100)] instPowNat

/-- A positive decimal: `digits`, read as an integer, times a power of ten. -/
structure Decimal where
  digits : Nat
  exponent : Int
deriving Repr, DecidableEq

/-- The decimal digits of a natural number, highest first. -/
def decimalDigits (n : Nat) : List Char := Nat.toDigits 10 n

/-- How many decimal digits a natural number has. -/
def digitCount (n : Nat) : Nat := (decimalDigits n).length

namespace Binary64

/-- The exact magnitude of a rank as a quotient of natural numbers. -/
def ratio (rank : Nat) : Nat × Nat :=
  let binade := rank / 2 ^ (52 : Nat)
  let significand := if binade = 0 then rank else 2 ^ (52 : Nat) + rank % 2 ^ (52 : Nat)
  if 1074 ≤ binade - 1 then (significand * 2 ^ (binade - 1 - 1074), 1)
  else (significand, 2 ^ (1074 - (binade - 1)))

/-- Whether `10 ^ e ≤ a / b`. -/
def reachesPower (a b : Nat) (e : Int) : Bool :=
  if 0 ≤ e then b * 10 ^ e.toNat ≤ a else b ≤ a * 10 ^ (-e).toNat

/-- The greatest `e` with `10 ^ e ≤ a / b`, for a positive quotient: the lengths of both sides in
bits bound it from above, and it lies at most three below the bound. -/
def decimalExponent (a b : Nat) : Int :=
  let top : Int := ((a.log2 : Int) - (b.log2 : Int) + 1) * 1233 / 4096 + 1
  ([top, top - 1, top - 2].find? (reachesPower a b)).getD (top - 3)

/-- `a / b` as a quotient in units of `10 ^ e`. -/
def inPowers (a b : Nat) (e : Int) : Nat × Nat :=
  if 0 ≤ e then (a, b * 10 ^ e.toNat) else (a * 10 ^ (-e).toNat, b)

/-- The decimal with `count` digits nearest to the positive quotient `a / b`. -/
def toDigits (count a b : Nat) : Decimal :=
  let exponent := decimalExponent a b - (count : Int) + 1
  let (n, d) := inPowers a b exponent
  let scaled := roundDiv n d
  if scaled = 10 ^ count then ⟨10 ^ (count - 1), exponent + 1⟩ else ⟨scaled, exponent⟩

/-- The rank that a positive decimal reads back as. -/
def rankOf (d : Decimal) : Nat :=
  if 0 ≤ d.exponent then nearestRank (d.digits * 10 ^ d.exponent.toNat * unitsPerOne) 1
  else nearestRank (d.digits * unitsPerOne) (10 ^ (-d.exponent).toNat)

/-- The two neighbours of `a / b` among the multiples of `10 ^ exponent`, the nearer one first. -/
def neighbours (a b : Nat) (exponent : Int) : List Decimal :=
  let (n, d) := inPowers a b exponent
  let near := roundDiv n d
  let far := if near = n / d then near + 1 else near - 1
  [⟨near, exponent⟩, ⟨far, exponent⟩]

/-- The decimal with the fewest digits, up to 17, that reads back as the rank, nearest to it among
those. Seventeen always do; past them stands the exact value. -/
def shortest (rank : Nat) : Decimal :=
  let (a, b) := ratio rank
  let leading := decimalExponent a b
  let candidates := (List.range 17).flatMap fun (i : Nat) => neighbours a b (leading - i)
  (candidates.find? fun d => rankOf d == rank).getD ⟨units rank * 5 ^ (1074 : Nat), -1074⟩

theorem rankOf_candidate {candidates : List Decimal} {rank : Nat} {d : Decimal}
    (h : candidates.find? (fun d => rankOf d == rank) = some d) : rankOf d = rank := by
  simpa using List.find?_some h

end Binary64

/-- The decimal without trailing zeros. -/
def Decimal.trim (d : Decimal) : Decimal :=
  let cs := decimalDigits d.digits
  let zeros := (cs.reverse.takeWhile (· == '0')).length
  if d.digits = 0 then d else ⟨d.digits / 10 ^ zeros, d.exponent + zeros⟩

/-- The exponent mark: `e`, a sign and at least two digits. -/
def exponentMark (e : Int) : List Char :=
  let ds := decimalDigits e.natAbs
  'e' :: (if e < 0 then '-' else '+') :: (if ds.length < 2 then '0' :: ds else ds)

/-- The digits with a point behind the first and the exponent at the end. -/
def Decimal.scientific (d : Decimal) : List Char :=
  let ds := decimalDigits d.digits
  let e := d.exponent + (ds.length : Int) - 1
  match ds with
  | [] => exponentMark e
  | [c] => c :: exponentMark e
  | c :: rest => c :: '.' :: (rest ++ exponentMark e)

/-- The digits in positional notation: a fraction is written with its point, an integer without. -/
def Decimal.positional (d : Decimal) : List Char :=
  let ds := decimalDigits d.digits
  if 0 ≤ d.exponent then ds ++ List.replicate d.exponent.toNat '0'
  else
    let places := (-d.exponent).toNat
    let padded := List.replicate (places + 1 - ds.length) '0' ++ ds
    padded.take (padded.length - places) ++ '.' :: padded.drop (padded.length - places)

/-- The exponent of the first digit. -/
def Decimal.leading (d : Decimal) : Int :=
  d.exponent + (digitCount d.digits : Int) - 1

namespace Binary64

/-- A finite magnitude's notation behind its sign, or the word for another number. -/
def signed (x : Binary64) (magnitude : Nat → List Char) : String :=
  match x with
  | nan _ => "nan"
  | ranked negative rank _ =>
    String.ofList ((if negative then ['-'] else [])
      ++ (if rank = infinityRank then ['i', 'n', 'f'] else magnitude rank))

/-- The natural notation of a positive decimal. -/
def naturalDigits (d : Decimal) : List Char :=
  if d.leading < -4 ∨ 16 ≤ d.leading then d.scientific
  else if 0 ≤ d.exponent then d.positional ++ ['.', '0']
  else d.positional

/-- The natural notation. -/
def natural (x : Binary64) : String :=
  x.signed fun rank => if rank = 0 then ['0', '.', '0'] else naturalDigits (shortest rank).trim

/-- The general notation of a positive decimal of at most six digits. -/
def generalDigits (d : Decimal) : List Char :=
  if d.leading < -4 ∨ 6 ≤ d.leading then d.trim.scientific else d.trim.positional

/-- The general notation: six significant digits. -/
def general (x : Binary64) : String :=
  x.signed fun rank =>
    if rank = 0 then ['0']
    else
      let (a, b) := ratio rank
      generalDigits (toDigits 6 a b)

/-- The fixed notation with a positive number of places. -/
def fixed (places : Nat) (x : Binary64) : String :=
  x.signed fun _ => Decimal.positional ⟨x.scaledMagnitude places, -(places : Int)⟩

end Binary64

/-- The decimal digits of an integer behind a minus if it is negative. -/
def intText (n : Int) : String :=
  String.ofList ((if n < 0 then ['-'] else []) ++ decimalDigits n.natAbs)

end FamilyDesign.Numeric
