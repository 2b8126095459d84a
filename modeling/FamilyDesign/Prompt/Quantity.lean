import FamilyDesign.Length.Unit
import FamilyDesign.Prompt.Token

/-!
# Quantities in a prompt

A quantity is a number with a unit of length right behind it, or with one hyphen in between, as in
`12-foot`.
-/

namespace FamilyDesign.Prompt

/-- A number with its unit, from token `start` to token `stop`. -/
structure Quantity where
  value : Numeric.Binary64
  unit : Text
  start : Nat
  stop : Nat
deriving DecidableEq

/-- The quantity as messages show it. -/
def Quantity.label (q : Quantity) : Text :=
  q.value.general ++ " " ++ q.unit

/-- The number that a number token spells. -/
def Token.value (token : Token) : Numeric.Binary64 :=
  (Numeric.freeReal? token.text).getD 0

/-- Whether a token is a unit of length. -/
def Token.isUnit (token : Token) : Bool :=
  (token.kind == .word || token.kind == .symbol) && (LengthUnit.parse? token.text).isSome

/-- The tokens after one hyphen at the front, or the same tokens if there is none. -/
def skipHyphen : List Token → List Token
  | token :: rest => if token.text = "-" then rest else token :: rest
  | [] => []

/-- The unit that belongs to a number ahead of these tokens, and the tokens after it. -/
def unitAhead? (tokens : List Token) : Option (Token × List Token) :=
  match skipHyphen tokens with
  | token :: rest => if token.isUnit then some (token, rest) else none
  | [] => none

theorem length_skipHyphen_le (tokens : List Token) :
    (skipHyphen tokens).length ≤ tokens.length := by
  unfold skipHyphen
  split
  · split <;> simp
  · simp

theorem length_lt_of_unitAhead? {tokens rest : List Token} {unit : Token}
    (h : unitAhead? tokens = some (unit, rest)) : rest.length < tokens.length := by
  unfold unitAhead? at h
  have hle := length_skipHyphen_le tokens
  split at h
  · rename_i token more heq
    rw [heq] at hle
    split at h
    · simp only [Option.some.injEq, Prod.mk.injEq] at h
      simp only [List.length_cons] at hle
      rw [← h.2]
      omega
    · simp at h
  · simp at h

/-- The quantities among tokens, from the left. -/
def quantities : List Token → List Quantity
  | [] => []
  | token :: rest =>
    if token.kind = .number then
      match _h : unitAhead? rest with
      | some (unit, after) => ⟨token.value, unit.text, token.index, unit.index⟩ :: quantities after
      | none => quantities rest
    else quantities rest
termination_by tokens => tokens.length
decreasing_by
  · have := length_lt_of_unitAhead? _h
    simp
    omega
  · simp
  · simp

end FamilyDesign.Prompt
