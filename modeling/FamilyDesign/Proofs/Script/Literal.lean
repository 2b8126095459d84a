import FamilyDesign.Script.Literal
import FamilyDesign.Proofs.Fallible
import FamilyDesign.Proofs.Text.Breaks

/-!
# When a literal is written

A value is written as a literal under any type, with one exception: an integer that is out of range
of the reals, or infinite, is refused. What is written stays on one line.

* **`formatValue_ok_iff`** — the exception is the only one.
* **`formatValue_cases`** — what is written is a quoted text, a truth value, a real or an integer.
* **`breaks_formatValue`** — a literal never breaks its line.
-/

namespace FamilyDesign.Script

/-! ## Numbers out of range -/

/-- Whether a value has no integer part: it is an infinite real or a numeral for one, or an integer
beyond the reals. -/
def isUnbounded (v : Json) : Bool :=
  match v.toReal with
  | .ok x => x.isInfinite
  | .error fault => fault.isRange

/-- Whether a value that is written under the name of a type is an integer out of range. -/
def OutOfRange (v : Json) (typeName : Text) : Prop :=
  ValueType.ofName? typeName = some .integer ∧ isUnbounded v = true

/-- A number that cannot be written is quoted, unless it is out of range. -/
theorem orQuote_ok_iff {v : Json} {written : Except NumberFault Text} :
    (∃ t, orQuote v written = .ok t) ↔ ∀ fault, written = .error fault → fault.isRange = false := by
  cases written with
  | ok t => simp [orQuote]
  | error fault => cases h : fault.isRange <;> simp [orQuote, h]

/-- A number is written whatever its size. -/
theorem isRange_of_number {v : Json} {fault : NumberFault} (h : number v = .error fault) :
    fault.isRange = false := by
  cases v with
  | bool b => cases h
  | int n => cases h
  | real x => cases h
  | null => cases h; rfl
  | array items => cases h; rfl
  | object fields => cases h; rfl
  | text s =>
    have hreal := map_eq_error_iff.mp h
    unfold Json.toReal at hreal
    dsimp only at hreal
    split at hreal
    · cases hreal
    · cases hreal
      rfl

/-- The integer part of a real number is out of range if the number is infinite. -/
theorem isRange_of_integerPart {x : Numeric.Binary64} {fault : NumberFault}
    (h : Json.integerPart x = .error fault) : fault.isRange = x.isInfinite := by
  unfold Json.integerPart at h
  cases x with
  | nan shared => cases h; rfl
  | ranked negative rank bound =>
    split at h
    · next hundefined => cases hundefined
    · split at h
      · next hinfinite =>
        cases h
        exact hinfinite.symm
      · cases h

/-- Infinity has no integer part. -/
theorem integerPart_of_isInfinite {x : Numeric.Binary64} (h : x.isInfinite = true) :
    Json.integerPart x = .error .infiniteInteger := by
  cases x with
  | nan shared => cases h
  | ranked negative rank bound =>
    unfold Json.integerPart
    rw [h]
    rfl

/-- A finite number is truncated. -/
theorem integerPart_of_isFinite {x : Numeric.Binary64} (h : x.isFinite = true) :
    Json.integerPart x = .ok x.truncate := by
  cases x with
  | nan shared => cases h
  | ranked negative rank bound =>
    have hinfinite : (Numeric.Binary64.ranked negative rank bound).isInfinite = false :=
      beq_eq_false_iff_ne.mpr (bne_iff_ne.mp h)
    unfold Json.integerPart
    rw [hinfinite]
    rfl

/-- **An integer literal is written unless the value is unbounded.** -/
theorem integer_ok_iff {v : Json} :
    (∃ t, literal .integer v = .ok t) ↔ isUnbounded v = false := by
  unfold literal isUnbounded
  dsimp only
  rw [orQuote_ok_iff]
  cases h : v.toReal with
  | error fault =>
    constructor
    · intro hall
      exact hall fault rfl
    · intro hrange fault' heq
      cases heq
      exact hrange
  | ok x =>
    show (∀ fault, (Json.integerPart x >>= fun n => .ok (Numeric.intText n : Text)) = .error fault →
      fault.isRange = false) ↔ x.isInfinite = false
    constructor
    · intro hall
      cases hinfinite : x.isInfinite with
      | false => rfl
      | true =>
        have hrange := hall .infiniteInteger
          (bind_eq_error_iff.mpr (.inl (integerPart_of_isInfinite hinfinite)))
        cases hrange
    · -- Of the faults of an integer part only that of infinity is one of range.
      intro hfinite fault heq
      rcases bind_eq_error_iff.mp heq with hpart | ⟨n, -, hnone⟩
      · rw [isRange_of_integerPart hpart, hfinite]
      · cases hnone

/-- A literal is written unless its value is an integer out of range. -/
theorem formatValue_ok_iff {v : Json} {typeName : Text} :
    (∃ t, formatValue v typeName = .ok t) ↔ ¬OutOfRange v typeName := by
  have hnumber : ∃ t, orQuote v (number v) = .ok t :=
    orQuote_ok_iff.mpr fun fault => isRange_of_number
  unfold formatValue OutOfRange
  cases ValueType.ofName? typeName with
  | none => simp [literal]
  | some t =>
    cases t with
    | length => simpa [literal] using hnumber
    | number => simpa [literal] using hnumber
    | integer => simpa using integer_ok_iff
    | yesNo => simp [literal]
    | text => simp [literal]
    | material => simp [literal]

/-! ## Kinds of literals -/

section

variable {motive : Text → Prop}

/-- A number is written as an integer or as a real. -/
theorem number_cases (natural : ∀ x : Numeric.Binary64, motive x.natural)
    (integer : ∀ n, motive (Numeric.intText n)) {v : Json} {written : Text}
    (h : number v = .ok written) : motive written := by
  unfold number at h
  split at h
  · next b =>
    have hbit : (if b then "1" else "0" : Text) = Numeric.intText (if b then 1 else 0) := by
      cases b <;> rfl
    cases h
    rw [hbit]
    exact integer _
  · cases h
    exact integer _
  · obtain ⟨x, -, rfl⟩ := map_eq_ok_iff.mp h
    exact natural x

theorem quoteValue_cases (quoted : ∀ s, motive (quote s)) (v : Json) :
    motive (quoteValue v) := by
  unfold quoteValue
  split <;> exact quoted _

/-- What is no number is quoted. -/
theorem orQuote_cases (quoted : ∀ s, motive (quote s)) {v : Json}
    {result : Except NumberFault Text} (hresult : ∀ t, result = .ok t → motive t) {written : Text}
    (h : orQuote v result = .ok written) : motive written := by
  cases result with
  | ok t =>
    cases h
    exact hresult _ rfl
  | error fault =>
    unfold orQuote at h
    dsimp only at h
    split at h
    · cases h
    · cases h
      exact quoteValue_cases quoted v

/-- What holds of every kind of literal holds of what a value is written as. -/
theorem formatValue_cases (quoted : ∀ s, motive (quote s))
    (truth : ∀ b, motive (truthLiteral b)) (natural : ∀ x : Numeric.Binary64, motive x.natural)
    (integer : ∀ n, motive (Numeric.intText n)) {v : Json} {typeName written : Text}
    (h : formatValue v typeName = .ok written) : motive written := by
  unfold formatValue literal at h
  split at h
  · exact orQuote_cases quoted (fun _ => number_cases natural integer) h
  · exact orQuote_cases quoted (fun _ => number_cases natural integer) h
  · refine orQuote_cases quoted (fun t ht => ?_) h
    obtain ⟨x, -, hx⟩ := bind_eq_ok_iff.mp ht
    obtain ⟨n, -, hn⟩ := bind_eq_ok_iff.mp hx
    cases hn
    exact integer n
  · cases h
    exact truth _
  · cases h
    exact quoteValue_cases quoted v
  · cases h
    exact quoteValue_cases quoted v

end

/-! ## Literals on one line -/

@[simp] theorem breaks_truthLiteral (b : Bool) : (truthLiteral b).breaks = 0 := by
  cases b <;> decide +kernel

/-- A literal stays on one line. -/
theorem breaks_formatValue {v : Json} {typeName t : Text} (h : formatValue v typeName = .ok t) :
    t.breaks = 0 :=
  formatValue_cases (motive := (·.breaks = 0)) Text.breaks_jsonQuote breaks_truthLiteral (by simp)
    (by simp) h

end FamilyDesign.Script
