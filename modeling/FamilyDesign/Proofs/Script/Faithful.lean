import FamilyDesign.Proofs.Design.Values
import FamilyDesign.Proofs.Json.Same
import FamilyDesign.Proofs.Numeric.Gaps
import FamilyDesign.Proofs.Script.Constant
import FamilyDesign.Proofs.Script.Literal

/-!
# Which values are written faithfully

A value that fits its declared type has a literal, and mostly the literal stands for the value. It
does not where a number is infinite, since the literal is then a name; where an integer is written
by way of a real, and none is exactly it; and where a text has code points beyond 16 bits. These are
all the exceptions.

* **`Means`** — whether a constant stands for a value of a type.
* **`Faithful`** — whether a value is none of the exceptions.
* **`formatValue_faithful`** — what is written of a value that fits stands for it exactly then.
-/

namespace FamilyDesign

namespace Numeric.Binary64

/-- A number that is not finite is infinite. -/
theorem isInfinite_of_not_isFinite {x : Binary64} (hdefined : x.isUndefined = false)
    (h : x.isFinite = false) : x.isInfinite = true := by
  cases x with
  | nan shared => cases hdefined
  | ranked negative rank bounded => exact beq_iff_eq.mpr (bne_eq_false_iff_eq.mp h)

/-- An integral number is its integer part. -/
theorem value_eq_truncate {x : Binary64} (h : x.isIntegral = true) :
    x.value = x.truncate * unitsPerOne := by
  have hwhole : x.value.natAbs / unitsPerOne * unitsPerOne = x.value.natAbs :=
    Nat.div_mul_cancel (Nat.dvd_of_mod_eq_zero (beq_iff_eq.mp (Bool.and_eq_true_iff.mp h).2))
  cases x with
  | nan shared => cases h
  | ranked negative rank bounded =>
    rw [natAbs_value_ranked] at hwhole
    unfold truncate
    dsimp only
    rw [natAbs_value_ranked]
    cases negative with
    | true =>
      show -(units rank : Int) = -(units rank / unitsPerOne : Nat) * unitsPerOne
      rw [Int.neg_mul, ← Int.natCast_mul, hwhole]
    | false =>
      show (units rank : Int) = (units rank / unitsPerOne : Nat) * unitsPerOne
      rw [← Int.natCast_mul, hwhole]

/-- What equals a finite number is finite. -/
theorem isFinite_of_eqv {x y : Binary64} (hx : x.isFinite = true) (h : x.eqv y = true) :
    y.isFinite = true := by
  cases x with
  | nan shared => cases hx
  | ranked negative rank bounded =>
    cases y with
    | nan shared => cases h
    | ranked negative' rank' bounded' =>
      have hplace : (if negative then -(rank : Int) else rank)
          = if negative' then -(rank' : Int) else rank' := beq_iff_eq.mp h
      rw [isFinite_ranked_iff] at hx ⊢
      have hrank : rank = rank' := by
        split at hplace <;> split at hplace <;> omega
      exact hrank ▸ hx

/-- A finite number equals zero if its value is zero. -/
theorem eqv_zero_iff {x : Binary64} (h : x.isFinite = true) :
    x.eqv 0 = true ↔ x.value = 0 := by
  cases x with
  | nan shared => cases h
  | ranked negative rank bounded =>
    have hunits : units rank = 0 ↔ rank = 0 := units_eq_zero_iff
    rw [ofNat_zero]
    show ((if negative then -(rank : Int) else rank) == 0) = true
      ↔ (if negative then -(units rank : Int) else units rank) = 0
    rw [beq_iff_eq]
    cases negative with
    | true => rw [if_pos rfl, if_pos rfl]; omega
    | false => rw [if_neg Bool.false_ne_true, if_neg Bool.false_ne_true]; omega

end Numeric.Binary64

namespace Script

open Numeric (Binary64)

/-! ## What a value stands for -/

/-- The number that a numeral spells: an integer is exact, any other numeral stands for the real
nearest to it. -/
def numeral? (s : Text) : Option Scalar :=
  match (Numeric.plainNumeral s).bind Numeric.readInt with
  | some n => some (.int n)
  | none => (Numeric.freeReal? s).map .real

/-- The number that a value is or spells. -/
def numberOf? : Json → Option Scalar
  | .int n => some (.int n)
  | .real x => some (.real x)
  | .text s => numeral? s
  | _ => none

/-- The truth value that a value names or equals. -/
def truthOf? : Json → Option Bool
  | .text s =>
    if ValueType.trueWords.contains (ValueType.word s) then some true
    else if ValueType.falseWords.contains (ValueType.word s) then some false
    else none
  | v =>
    v.number?.bind fun x =>
      if x.same (.int 1) then some true else if x.same (.int 0) then some false else none

/-- The number that a constant is. -/
def Constant.number? : Constant → Option Scalar
  | .int n => some (.int n)
  | .real x => some (.real x)
  | _ => none

/-- Whether a constant is the number that a value stands for. -/
def SameNumber (v : Json) (c : Constant) : Prop :=
  ∃ y z, numberOf? v = some y ∧ c.number? = some z ∧ z.same y = true

/-- Whether a constant stands for a value of a type. A real is to stay the same real, the sign of a
zero included. -/
def Means (t : ValueType) (v : Json) (c : Constant) : Prop :=
  match t with
  | .length | .number => SameNumber v c ∧ ∀ x, v = .real x → c = .real x
  | .integer => SameNumber v c ∧ ∃ n, c = .int n
  | .yesNo => ∃ b, truthOf? v = some b ∧ c = .truth b
  | .text | .material => ∃ s, v = .text s ∧ c = .text s

/-- Whether the number that a value stands for is a finite real, or an integer that one is. -/
def Exact (v : Json) : Prop :=
  ∃ y x, numberOf? v = some y ∧ x.isFinite = true ∧ (Scalar.real x).same y = true

/-- Whether a value that fits a type is written faithfully. -/
def Faithful (t : ValueType) (v : Json) : Prop :=
  match t with
  | .length | .number => (∃ n, v = .int n) ∨ Exact v
  | .integer => Exact v
  | .yesNo => True
  | .text | .material => ∀ s, v = .text s → ∀ c ∈ s.toList, c.toNat < 0x10000

/-! ## Numbers -/

section Numbers

variable {v : Json} {x : Binary64}

/-- A real is the same as an integer just if its exact value is. -/
theorem same_int_iff {n : Int} : (Scalar.real x).same (.int n) = true ↔
    x.isFinite = true ∧ x.value = n * Binary64.unitsPerOne := by
  show (x.isFinite && x.value == n * Binary64.unitsPerOne) = true ↔ _
  rw [Bool.and_eq_true, beq_iff_eq]

/-- What a value can stand for that is read as a real: the real, or an integer that is rounded to
it. -/
inductive ReadAs (x : Binary64) : Scalar → Prop
  | itself : ReadAs x (.real x)
  | rounded (n : Int) (negative : Bool)
      (hx : x = .nearest negative (n.natAbs * Binary64.unitsPerOne) 1)
      (hn : Numeric.signed negative n.natAbs = n) : ReadAs x (.int n)

/-- An integer is read as the real nearest to it. -/
theorem readAs_int {n : Int} (hx : Json.toReal (.int n) = .ok x) : ReadAs x (.int n) := by
  have hofInt : x = .ofInt n := by
    unfold Json.toReal Json.realOfInt at hx
    dsimp only at hx
    split at hx
    · cases hx
      rfl
    · cases hx
  refine .rounded n (decide (n < 0)) hofInt ?_
  unfold Numeric.signed
  by_cases hneg : n < 0
  · rw [decide_eq_true hneg, if_pos rfl]
    omega
  · rw [decide_eq_false hneg, if_neg Bool.false_ne_true]
    omega

/-- A text is read as the numeral that it is. -/
theorem freeReal?_of_toReal {s : Text} (hx : Json.toReal (.text s) = .ok x) :
    Numeric.freeReal? s = some x := by
  unfold Json.toReal at hx
  dsimp only at hx
  split at hx
  · next heq =>
    cases hx
    exact heq
  · cases hx

/-- A numeral is read as the real nearest to what it says. -/
theorem readAs_numeral {s : Text} {y : Scalar} (hx : Numeric.freeReal? s = some x)
    (hy : numeral? s = some y) : ReadAs x y := by
  unfold numeral? at hy
  split at hy
  · next n hint =>
    cases hy
    obtain ⟨plain, hplain, hread⟩ := Option.bind_eq_some_iff.mp hint
    obtain ⟨negative, hnearest, hn⟩ := Binary64.readReal_of_readInt hread
    unfold Numeric.freeReal? at hx
    rw [hplain, Option.bind_some, hnearest] at hx
    exact .rounded n negative (Option.some.inj hx).symm hn
  · rw [hx] at hy
    cases hy
    exact .itself

/-- Any number is read as the real nearest to it. -/
theorem readAs_of_toReal {y : Scalar} (hx : v.toReal = .ok x) (hy : numberOf? v = some y) :
    ReadAs x y := by
  cases v with
  | int n =>
    cases hy
    exact readAs_int hx
  | real x' =>
    cases hx
    cases hy
    exact .itself
  | text s => exact readAs_numeral (freeReal?_of_toReal hx) hy
  | _ => cases hy

/-- If a finite real is the number that a value stands for, then so is the real that the value is
read as: what is exact is not rounded. -/
theorem ReadAs.exact {y : Scalar} (h : ReadAs x y) {x' : Binary64} (hfinite : x'.isFinite = true)
    (hsame : (Scalar.real x').same y = true) :
    x.isFinite = true ∧ (Scalar.real x).same y = true := by
  cases h with
  | itself =>
    have heq : (x' == x || x'.eqv x) = true := hsame
    refine ⟨?_, Scalar.same_self _⟩
    rcases Bool.or_eq_true_iff.mp heq with hself | heqv
    · rwa [← beq_iff_eq.mp hself]
    · exact Binary64.isFinite_of_eqv hfinite heqv
  | rounded n negative hx hn =>
    have hvalue := (same_int_iff.mp hsame).2
    have hnatAbs : x'.value.natAbs = n.natAbs * Binary64.unitsPerOne := by
      rw [hvalue, Int.natAbs_mul, Int.natAbs_natCast]
    have hexact := Binary64.nearest_exact negative hfinite hnatAbs
    rw [← hx] at hexact
    rw [same_int_iff]
    refine ⟨hexact.1, hexact.1, ?_⟩
    rw [hexact.2, Numeric.signed_mul, hn]

/-- A value is exact just if the real it is read as is the same. -/
theorem exact_iff (hx : v.toReal = .ok x) : Exact v ↔
    ∃ y, numberOf? v = some y ∧ x.isFinite = true ∧ (Scalar.real x).same y = true := by
  constructor
  · rintro ⟨y, x', hy, hfinite, hsame⟩
    exact ⟨y, hy, (readAs_of_toReal hx hy).exact hfinite hsame⟩
  · rintro ⟨y, hy, hfinite, hsame⟩
    exact ⟨y, x, hy, hfinite, hsame⟩

/-- The literal of a real stands for the value if the value is exact. -/
theorem real_iff (hx : v.toReal = .ok x) (hdefined : x.isUndefined = false) :
    (∃ c, Constant.read x.natural = some c ∧ SameNumber v c ∧ ∀ x', v = .real x' → c = .real x')
      ↔ Exact v := by
  have hreal : ∀ x', v = .real x' → x = x' := by
    rintro x' rfl
    cases hx
    rfl
  rw [exact_iff hx]
  cases hfinite : x.isFinite with
  | true =>
    rw [read_natural hfinite]
    constructor
    · rintro ⟨c, hc, ⟨y, z, hy, hz, hsame⟩, -⟩
      cases hc
      cases hz
      exact ⟨y, hy, rfl, hsame⟩
    · rintro ⟨y, hy, -, hsame⟩
      exact ⟨.real x, rfl, ⟨y, .real x, hy, rfl, hsame⟩, fun x' h => congrArg _ (hreal x' h)⟩
  -- Infinity is written as a bare name, which is no constant.
  | false =>
    rw [read_natural_of_isInfinite (Binary64.isInfinite_of_not_isFinite hdefined hfinite)]
    constructor
    · rintro ⟨c, hc, -⟩
      cases hc
    · rintro ⟨y, -, hfinite', -⟩
      cases hfinite'

/-- An integral real and its integer part are the same number. -/
theorem same_truncate {y : Scalar} (h : x.isIntegral = true) (hy : ReadAs x y) :
    (Scalar.int x.truncate).same y = true ↔ (Scalar.real x).same y = true := by
  have hfinite : x.isFinite = true := (Bool.and_eq_true_iff.mp h).1
  cases hy with
  | itself =>
    refine iff_of_true ?_ (Scalar.same_self _)
    exact same_int_iff.mpr ⟨hfinite, Binary64.value_eq_truncate h⟩
  | rounded n =>
    have hunits : (Binary64.unitsPerOne : Int) ≠ 0 :=
      Int.natCast_ne_zero.mpr Binary64.unitsPerOne_pos.ne'
    show (x.truncate == n) = true ↔ _
    rw [same_int_iff, and_iff_right hfinite, Binary64.value_eq_truncate h, beq_iff_eq,
      Int.mul_eq_mul_right_iff hunits]

/-- The literal of the integer part stands for the value if the value is exact. -/
theorem integer_iff (hx : v.toReal = .ok x) (h : x.isIntegral = true) :
    (∃ c, Constant.read (Numeric.intText x.truncate) = some c ∧ SameNumber v c ∧ ∃ n, c = .int n)
      ↔ Exact v := by
  have hfinite : x.isFinite = true := (Bool.and_eq_true_iff.mp h).1
  rw [exact_iff hx, read_intText]
  constructor
  · rintro ⟨c, hc, ⟨y, z, hy, hz, hsame⟩, -⟩
    cases hc
    cases hz
    exact ⟨y, hy, hfinite, (same_truncate h (readAs_of_toReal hx hy)).mp hsame⟩
  · rintro ⟨y, hy, -, hsame⟩
    have hsame' := (same_truncate h (readAs_of_toReal hx hy)).mpr hsame
    exact ⟨_, rfl, ⟨y, _, hy, rfl, hsame'⟩, _, rfl⟩

/-- The real that a value is, if it is defined, is what the value is read as. -/
theorem toReal_of_definedReal (h : ValueType.definedReal? v = .ok (some x)) :
    v.toReal = .ok x ∧ x.isUndefined = false := by
  obtain ⟨hdenotes, hdefined⟩ := ValueType.definedReal?_eq_some_iff.mp h
  exact ⟨hdenotes.toReal, hdefined⟩

/-- A value that is read as an integral real fits as an integer, truth values apart. -/
theorem fits_integer (hbool : ∀ b, v ≠ .bool b) (hx : v.toReal = .ok x)
    (h : x.isIntegral = true) : ValueType.fits .integer v = .ok true :=
  integer_fits_iff.mpr ⟨x, Json.denotes_of_toReal hbool hx, h⟩

/-- An integer is written as it is, any other number by way of a real. -/
theorem number_faithful (h : (ValueType.definedReal? v).map (·.isSome) = .ok true) :
    ∃ s, orQuote v (number v) = .ok s ∧ ((∃ c, Constant.read s = some c ∧
      SameNumber v c ∧ ∀ x, v = .real x → c = .real x) ↔ (∃ n, v = .int n) ∨ Exact v) := by
  obtain ⟨found, hfound, hsome⟩ := map_eq_ok_iff.mp h
  obtain ⟨x, rfl⟩ := Option.isSome_iff_exists.mp hsome
  obtain ⟨hx, hdefined⟩ := toReal_of_definedReal hfound
  have hother : number v = v.toReal.map (fun x => (x.natural : Text)) → (¬∃ n, v = .int n) →
      ∃ s, orQuote v (number v) = .ok s ∧ ((∃ c, Constant.read s = some c ∧
        SameNumber v c ∧ ∀ x, v = .real x → c = .real x) ↔ (∃ n, v = .int n) ∨ Exact v) := by
    intro hnumber hno
    rw [hnumber, hx]
    exact ⟨x.natural, rfl, (real_iff hx hdefined).trans (or_iff_right hno).symm⟩
  cases v with
  -- The text is that of the integer, so nothing is rounded.
  | int n =>
    refine ⟨Numeric.intText n, rfl, fun _ => .inl ⟨n, rfl⟩, fun _ => ?_⟩
    exact ⟨.int n, read_intText n, ⟨.int n, .int n, rfl, rfl, Scalar.same_self _⟩, nofun⟩
  | bool b => cases hfound
  | real x => exact hother rfl nofun
  | text s => exact hother rfl nofun
  | _ => cases hx

/-- Under the type of integers even an integer is written by way of a real. -/
theorem integer_faithful (h : (ValueType.definedReal? v).map (·.any (·.isIntegral)) = .ok true) :
    ∃ s, literal .integer v = .ok s ∧
      ((∃ c, Constant.read s = some c ∧ Means .integer v c) ↔ Exact v) := by
  obtain ⟨found, hfound, hany⟩ := map_eq_ok_iff.mp h
  cases found with
  | none => cases hany
  | some x =>
    have hintegral : x.isIntegral = true := hany
    have hx := (toReal_of_definedReal hfound).1
    refine ⟨Numeric.intText x.truncate, ?_, integer_iff hx hintegral⟩
    unfold literal
    dsimp only
    rw [hx]
    show orQuote v (Json.integerPart x >>= fun n => .ok (Numeric.intText n : Text)) = _
    rw [integerPart_of_isFinite (Bool.and_eq_true_iff.mp hintegral).1]
    rfl

end Numbers

/-! ## Truth values and texts -/

/-- A real stands for truth if it is one, for falsehood if it is zero. -/
theorem truthOf?_real {x : Binary64} (h : ValueType.isTruth (.real x) = true) :
    truthOf? (.real x) = some (meansTrue (.real x)) := by
  have hunits := Binary64.unitsPerOne_pos
  show (if (Scalar.real x).same (.int 1) then some true
    else if (Scalar.real x).same (.int 0) then some false else none) = some (!x.eqv 0)
  by_cases hone : (Scalar.real x).same (.int 1) = true
  · obtain ⟨hfinite, hvalue⟩ := same_int_iff.mp hone
    have hne : x.eqv 0 = false := by
      rw [← Bool.not_eq_true, Binary64.eqv_zero_iff hfinite]
      omega
    rw [if_pos hone, hne]
    rfl
  · -- A truth value that is not one is zero.
    have hzero : (Scalar.real x).same (.int 0) = true :=
      (Bool.or_eq_true_iff.mp h).resolve_right hone
    obtain ⟨hfinite, hvalue⟩ := same_int_iff.mp hzero
    have heq : x.eqv 0 = true := by
      rw [Binary64.eqv_zero_iff hfinite]
      omega
    rw [if_neg hone, if_pos hzero, heq]
    rfl

/-- A word for truth is no word for falsehood, and none is the numeral that scripts take for
truth beside the words. -/
theorem truthOf?_text {s : Text} (h : ValueType.isTruth (.text s) = true) :
    truthOf? (.text s) = some (meansTrue (.text s)) := by
  have hword : (ValueType.trueWords ++ ValueType.falseWords).contains (ValueType.word s)
      = true := h
  show (if ValueType.trueWords.contains (ValueType.word s) then some true
    else if ValueType.falseWords.contains (ValueType.word s) then some false else none)
    = some (ValueType.word s = "1" || ValueType.trueWords.contains (ValueType.word s))
  cases htrue : ValueType.trueWords.contains (ValueType.word s) with
  | true => rw [if_pos rfl, Bool.or_true]
  | false =>
    rw [List.contains_append, htrue, Bool.false_or] at hword
    have hone : ValueType.word s ≠ "1" := by
      intro hone
      rw [hone] at hword
      exact absurd hword (by decide)
    rw [if_neg Bool.false_ne_true, if_pos hword, Bool.or_false, decide_eq_false hone]

/-- A value that fits as a truth value is written as the one that it stands for. -/
theorem truthOf?_of_isTruth {v : Json} (h : ValueType.isTruth v = true) :
    truthOf? v = some (meansTrue v) := by
  cases v with
  | bool b => cases b <;> rfl
  | int n =>
    have hn : (n == 0 || n == 1) = true := h
    show (if n == 1 then some true else if n == 0 then some false else none) = some (n != 0)
    rcases Bool.or_eq_true_iff.mp hn with hzero | hone
    · rw [beq_iff_eq.mp hzero]
      rfl
    · rw [beq_iff_eq.mp hone]
      rfl
  | real x => exact truthOf?_real h
  | text s => exact truthOf?_text h
  | null => cases h
  | array items => cases h
  | object fields => cases h

/-- A text is written faithfully if its code points are. -/
theorem text_faithful {s : Text} :
    (∃ c, Constant.read (quote s) = some c ∧ ∃ s', Json.text s = .text s' ∧ c = .text s')
      ↔ ∀ s', Json.text s = .text s' → ∀ c ∈ s'.toList, c.toNat < 0x10000 := by
  rw [read_quote]
  constructor
  · rintro ⟨c, hc, s', hs', rfl⟩ s'' hs''
    cases hs'
    cases hs''
    have hlist := congrArg Text.toList (Constant.text.inj (Option.some.inj hc))
    exact flatMap_halves_eq_iff.mp hlist
  · intro h
    refine ⟨_, rfl, s, rfl, ?_⟩
    rw [flatMap_halves_eq_iff.mpr (h s rfl)]

/-! ## Values that fit -/

/-- What fits a type is written under it, and the literal stands for the value just if the value is
written faithfully. -/
theorem formatValue_faithful (t : ValueType) (v : Json)
    (h : valueProblem? v t.name = .ok none) :
    ∃ s, formatValue v t.name = .ok s ∧
      ((∃ c, Constant.read s = some c ∧ Means t v c) ↔ Faithful t v) := by
  have hfits := valueProblem?_eq_none_iff.mp h
  have hliteral : formatValue v t.name = literal t v := by
    unfold formatValue
    rw [t.ofName?_name]
    rfl
  -- Under a text type only texts fit.
  have htext : ValueType.fits .text v = .ok true → ∃ s, v = .text s := by
    intro hfits
    cases v with
    | text s => exact ⟨s, rfl⟩
    | _ => cases hfits
  rw [hliteral]
  cases t with
  | length => exact number_faithful hfits
  | number => exact number_faithful hfits
  | integer => exact integer_faithful hfits
  | yesNo =>
    have htruth : truthOf? v = some (meansTrue v) := truthOf?_of_isTruth (Except.ok.inj hfits)
    exact ⟨_, rfl, fun _ => trivial, fun _ => ⟨_, read_truthLiteral _, _, htruth, rfl⟩⟩
  | text =>
    obtain ⟨s, rfl⟩ := htext hfits
    exact ⟨_, rfl, text_faithful⟩
  | material =>
    obtain ⟨s, rfl⟩ := htext hfits
    exact ⟨_, rfl, text_faithful⟩

/-- An integer that is exact is the real that it is read as. -/
theorem value_of_exact_int {n : Int} {x : Binary64} (hx : Json.toReal (.int n) = .ok x)
    (h : Exact (.int n)) : x.value = n * Binary64.unitsPerOne := by
  obtain ⟨y, hy, -, hsame⟩ := (exact_iff hx).mp h
  cases hy
  exact (same_int_iff.mp hsame).2

/-- The integer after 2⁵³ is no real: it fits, and its neighbour is written. -/
theorem formatValue_faithful_neighbour :
    valueProblem? (.int 9007199254740993) ValueType.integer.name = .ok none ∧
      ∃ s, formatValue (.int 9007199254740993) ValueType.integer.name = .ok s ∧
        ¬∃ c, Constant.read s = some c ∧ Means .integer (.int 9007199254740993) c := by
  have hreal : Json.toReal (.int 9007199254740993) = .ok (.ofInt 9007199254740993) :=
    Json.toReal_int (by decide +kernel)
  have hproblem : valueProblem? (.int 9007199254740993) ValueType.integer.name = .ok none :=
    valueProblem?_eq_none_iff.mpr (fits_integer nofun hreal (by decide +kernel))
  have hvalue : (Binary64.ofInt 9007199254740993).value
      ≠ 9007199254740993 * (Binary64.unitsPerOne : Int) := by
    decide +kernel
  obtain ⟨s, hs, hfaithful⟩ :=
    formatValue_faithful .integer (.int 9007199254740993) hproblem
  exact ⟨hproblem, s, hs, fun hc => hvalue (value_of_exact_int hreal (hfaithful.mp hc))⟩

end Script

end FamilyDesign
