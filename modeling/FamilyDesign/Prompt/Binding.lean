import FamilyDesign.Prompt.Keyword
import FamilyDesign.Prompt.Quantity

/-!
# Binding quantities to dimensions

A quantity belongs to a dimension if one of its keywords stands before or behind it with at most
three words and nothing else in between. The nearest keyword counts, on equal distance the one
behind. Dimensions choose in a fixed order: each takes the leftmost quantity in reach that none
before has taken, or the leftmost in reach if all are taken.
-/

namespace FamilyDesign.Prompt

/-- The greatest number of words between a quantity and its keyword. -/
def reach : Nat := 3

/-- A quantity bound to a dimension by a keyword at a distance, `after` the quantity or before. -/
structure Binding where
  quantity : Quantity
  keyword : Keyword
  gap : Nat
  after : Bool
deriving DecidableEq

/-- The binding as messages show it: quantity and phrase in their order. -/
def Binding.label (b : Binding) : Text :=
  if b.after then b.quantity.label ++ " " ++ b.keyword.phrase
  else b.keyword.phrase ++ " " ++ b.quantity.label

/-- The number of tokens strictly between two positions, if it is in reach and all of them are
words. -/
def wordsBetween? (tokens : List Token) (low high : Nat) : Option Nat :=
  let gap := high - (low + 1)
  if gap ≤ reach ∧ ((tokens.drop (low + 1)).take gap).all (·.kind == .word) then some gap else none

/-- The binding of a quantity by one keyword, if it is in reach. -/
def bindKeyword? (tokens : List Token) (quantity : Quantity) (keyword : Keyword) :
    Option Binding :=
  if quantity.stop < keyword.start then
    (wordsBetween? tokens quantity.stop keyword.start).map (⟨quantity, keyword, ·, true⟩)
  else if keyword.stop < quantity.start then
    (wordsBetween? tokens keyword.stop quantity.start).map (⟨quantity, keyword, ·, false⟩)
  else none

/-- Whether the first binding is to be preferred: fewer words between, or as many and the keyword
behind the quantity where the other has it before. -/
def Binding.nearer (a b : Binding) : Bool :=
  a.gap < b.gap || (a.gap == b.gap && a.after && !b.after)

/-- The nearest binding, the first one among equals. -/
def nearest? : List Binding → Option Binding
  | [] => none
  | b :: rest => some (rest.foldl (fun best b => if b.nearer best then b else best) b)

/-- The binding of a quantity to a dimension. -/
def bind? (tokens : List Token) (hits : List Keyword) (dimension : Dimension)
    (quantity : Quantity) : Option Binding :=
  nearest? ((hits.filter (·.dimension == dimension)).filterMap (bindKeyword? tokens quantity))

/-- The choice of a dimension among its bindings, given the start positions of the quantities
already taken. -/
def choose? (taken : List Nat) (candidates : List Binding) : Option Binding :=
  match candidates.find? (!taken.contains ·.quantity.start) with
  | some b => some b
  | none => candidates.head?

/-- The bindings of the dimensions in order, given the quantities already taken. -/
def bindAll (candidates : Dimension → List Binding) (taken : List Nat) :
    List Dimension → List (Dimension × Binding)
  | [] => []
  | d :: rest =>
    match choose? taken (candidates d) with
    | some b => (d, b) :: bindAll candidates (b.quantity.start :: taken) rest
    | none => bindAll candidates taken rest

/-- The dimensions that a prompt sets, each with its binding. -/
def bindings (prompt : Text) : List (Dimension × Binding) :=
  let tokens := tokenize prompt
  let hits := keywords tokens
  let found := quantities tokens
  bindAll (fun d => found.filterMap (bind? tokens hits d)) [] Dimension.all

end FamilyDesign.Prompt
