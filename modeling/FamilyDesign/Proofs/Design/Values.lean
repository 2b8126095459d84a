import FamilyDesign.Design.ValueType
import FamilyDesign.Proofs.Fallible

/-!
# Values of a type

What values fit a type, said of the values and not of how they are read.

* **`Json.Denotes`** — the real number that a value is or spells.
* **`ValueType.Suits`** — whether a value is one of a type.
* **`ValueType.fits_iff`** — a value fits a type just if it is one of that type.
-/

namespace FamilyDesign

open Numeric (Binary64)

/-- A type is found under its name. -/
theorem ValueType.ofName?_name (t : ValueType) : ofName? t.name = some t := by
  cases t <;> decide +kernel

/-- The type that is found under a name has that name. -/
theorem ValueType.name_of_ofName? {s : Text} {t : ValueType} (h : ofName? s = some t) :
    t.name = s := by
  have hname := List.find?_some h
  exact eq_of_beq hname

/-- A value is without a problem if it fits. -/
theorem valueProblem?_eq_none_iff {t : ValueType} {v : Json} :
    valueProblem? v t.name = .ok none ↔ t.fits v = .ok true := by
  unfold valueProblem?
  rw [t.ofName?_name]
  constructor
  · intro h
    obtain ⟨fits, hfits, hproblem⟩ := map_eq_ok_iff.mp h
    cases fits with
    | true => exact hfits
    | false => cases hproblem
  · intro h
    exact map_eq_ok_iff.mpr ⟨true, h, rfl⟩

/-! ## Numbers -/

/-- The real number that a value is or spells: an integer is the real nearest to it, if one is in
range, and a truth value is no number. -/
inductive Json.Denotes : Json → Binary64 → Prop
  | integer {n : Int} (inRange : (Binary64.ofInt n).isFinite = true) : Denotes (.int n) (.ofInt n)
  | real (x : Binary64) : Denotes (.real x) x
  | numeral {s : Text} {x : Binary64} (spelt : Numeric.freeReal? s = some x) : Denotes (.text s) x

namespace Json

variable {v : Json} {x : Binary64}

/-- An integer in range is read as the real nearest to it. -/
theorem toReal_int {n : Int} (h : (Binary64.ofInt n).isFinite = true) :
    toReal (.int n) = .ok (.ofInt n) := by
  unfold toReal realOfInt
  dsimp only
  rw [if_pos h]

/-- A value is read as the real that it denotes. -/
theorem Denotes.toReal (h : v.Denotes x) : v.toReal = .ok x := by
  cases h with
  | integer inRange => exact toReal_int inRange
  | real => rfl
  | numeral spelt =>
    unfold Json.toReal
    dsimp only
    rw [spelt]

/-- Only a truth value is read as a real number without being one. -/
theorem denotes_of_toReal (hbool : ∀ b, v ≠ .bool b) (h : v.toReal = .ok x) : v.Denotes x := by
  cases v with
  | bool b => exact absurd rfl (hbool b)
  -- an integer out of range is a fault
  | int n =>
    unfold Json.toReal realOfInt at h
    dsimp only at h
    split at h
    · next inRange =>
      cases h
      exact .integer inRange
    · cases h
  | real x' =>
    cases h
    exact .real x
  -- a text is read if it spells a number
  | text s =>
    unfold Json.toReal at h
    dsimp only at h
    split at h
    · next spelt =>
      cases h
      exact .numeral spelt
    · cases h
  | null => cases h
  | array items => cases h
  | object fields => cases h

/-- The reals that are read without truth values are those that are denoted. -/
theorem properReal?_eq_some_iff : v.properReal? = .ok (some x) ↔ v.Denotes x := by
  constructor
  · intro h
    unfold properReal? at h
    split at h
    · cases h
    · next hbool =>
      split at h
      · next hreal =>
        cases h
        exact denotes_of_toReal hbool hreal
      · split at h
        · cases h
        · cases h
  · intro h
    unfold properReal?
    split
    · cases h
    · rw [h.toReal]

end Json

/-- The same with undefined numbers left out. -/
theorem ValueType.definedReal?_eq_some_iff {v : Json} {x : Binary64} :
    definedReal? v = .ok (some x) ↔ v.Denotes x ∧ x.isUndefined = false := by
  rw [← Json.properReal?_eq_some_iff]
  constructor
  · intro h
    obtain ⟨proper, hproper, hfilter⟩ := map_eq_ok_iff.mp h
    obtain ⟨rfl, hdefined⟩ := Option.filter_eq_some_iff.mp hfilter
    exact ⟨hproper, by simpa using hdefined⟩
  · rintro ⟨hproper, hdefined⟩
    refine map_eq_ok_iff.mpr ⟨some x, hproper, Option.filter_some_pos ?_⟩
    rw [hdefined]
    rfl

/-! ## Values that fit -/

/-- A truth value, a number that equals 0 or 1, or a word for a truth value. -/
inductive Truthlike : Json → Prop
  | truth (b : Bool) : Truthlike (.bool b)
  | integer {n : Int} (bit : n = 0 ∨ n = 1) : Truthlike (.int n)
  | real {x : Binary64} (bit : (Scalar.real x).same (.int 0) = true ∨
      (Scalar.real x).same (.int 1) = true) : Truthlike (.real x)
  | word {s : Text} (listed : ValueType.word s ∈ ValueType.trueWords ++ ValueType.falseWords) :
      Truthlike (.text s)

/-- The test for values that stand for truth. -/
theorem isTruth_iff {v : Json} : ValueType.isTruth v = true ↔ Truthlike v := by
  constructor
  · intro h
    cases v with
    | bool b => exact .truth b
    | int n =>
      have hbit : (n == 0 || n == 1) = true := h
      exact .integer (by simpa using hbit)
    | real x => exact .real (Bool.or_eq_true_iff.mp h)
    | text s => exact .word (List.contains_iff_mem.mp h)
    | null => cases h
    | array items => cases h
    | object fields => cases h
  · intro h
    cases h with
    | truth b => cases b <;> rfl
    | integer bit => rcases bit with rfl | rfl <;> rfl
    | real bit => exact Bool.or_eq_true_iff.mpr bit
    | word listed => exact List.contains_iff_mem.mpr listed

/-- Whether a value is one of a type. Infinite numbers are lengths and numbers, and no integers. -/
def ValueType.Suits (t : ValueType) (v : Json) : Prop :=
  match t with
  | .length | .number => ∃ x, v.Denotes x ∧ x.isUndefined = false
  | .integer => ∃ x, v.Denotes x ∧ x.isIntegral = true
  | .yesNo => Truthlike v
  | .text | .material => ∃ s, v = .text s

/-- An integral number is defined. -/
theorem Numeric.Binary64.isUndefined_of_isIntegral {x : Binary64} (h : x.isIntegral = true) :
    x.isUndefined = false := by
  cases x with
  | nan shared => cases h
  | ranked negative rank bounded => rfl

/-- What fits a length or a number denotes a defined real. -/
theorem numeric_fits_iff {v : Json} : (ValueType.definedReal? v).map (·.isSome) = .ok true ↔
    ∃ x, v.Denotes x ∧ x.isUndefined = false := by
  constructor
  · intro h
    obtain ⟨found, hfound, hsome⟩ := map_eq_ok_iff.mp h
    obtain ⟨x, rfl⟩ := Option.isSome_iff_exists.mp hsome
    exact ⟨x, ValueType.definedReal?_eq_some_iff.mp hfound⟩
  · rintro ⟨x, hx⟩
    exact map_eq_ok_iff.mpr ⟨some x, ValueType.definedReal?_eq_some_iff.mpr hx, rfl⟩

/-- What fits an integer denotes a whole real; none of those is undefined. -/
theorem integer_fits_iff {v : Json} :
    (ValueType.definedReal? v).map (·.any (·.isIntegral)) = .ok true ↔
      ∃ x, v.Denotes x ∧ x.isIntegral = true := by
  constructor
  · intro h
    obtain ⟨found, hfound, hany⟩ := map_eq_ok_iff.mp h
    cases found with
    | none => cases hany
    | some x => exact ⟨x, (ValueType.definedReal?_eq_some_iff.mp hfound).1, hany⟩
  · rintro ⟨x, hx, hintegral⟩
    have hdefined := Binary64.isUndefined_of_isIntegral hintegral
    exact map_eq_ok_iff.mpr
      ⟨some x, ValueType.definedReal?_eq_some_iff.mpr ⟨hx, hdefined⟩, hintegral⟩

/-- **A value fits a type just if it is one of that type.** -/
theorem ValueType.fits_iff {t : ValueType} {v : Json} : t.fits v = .ok true ↔ t.Suits v := by
  have hstring : Except.ok v.text?.isSome = (.ok true : Except NumberFault Bool) ↔
      ∃ s, v = .text s := by
    cases v <;> simp [Json.text?]
  cases t with
  | length => exact numeric_fits_iff
  | number => exact numeric_fits_iff
  | integer => exact integer_fits_iff
  | yesNo =>
    show (Except.ok (isTruth v) : Except NumberFault Bool) = .ok true ↔ Truthlike v
    rw [Except.ok.injEq, isTruth_iff]
  | text => exact hstring
  | material => exact hstring

end FamilyDesign
