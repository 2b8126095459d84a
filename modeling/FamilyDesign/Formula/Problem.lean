import FamilyDesign.Formula.Token

/-!
# Problems of a formula

A formula is checked for its names and for its syntax, token by token from the left; nothing is
evaluated. The scan remembers how many parentheses are open and what stands just before: an operator
needs an operand on its left, except for a minus, and a formula may not end with an operator.
-/

namespace FamilyDesign.Formula

/-- What is wrong with a formula. -/
inductive Problem
  | empty
  | noOperator
  | unexpected (text : Text)
  | undefinedName (name : Text)
  | selfReference
  | unbalanced
  | missingLeft (operator : Text)
  | endsWithOperator
deriving DecidableEq

/-- The wording of a problem. -/
def Problem.message : Problem → Text
  | empty => "Empty formula"
  | noOperator => "Formula contains no valid operators"
  | unexpected text => "Unexpected character: " ++ text
  | undefinedName name => "Undefined parameter reference: " ++ name
  | selfReference => "Formula references its own parameter"
  | unbalanced => "Unbalanced parentheses"
  | missingLeft operator => "Operator '" ++ operator ++ "' is missing a left operand"
  | endsWithOperator => "Formula ends with an operator"

/-- The place between two tokens: ahead of a new operand, at the start or behind an opening
parenthesis or a comma; behind an operator; or behind an operand. -/
inductive Place
  | fresh
  | afterOperator
  | afterOperand
deriving DecidableEq

/-- The place behind a token. -/
def TokenKind.placeAfter : TokenKind → Place
  | .operator => .afterOperator
  | .opening | .comma => .fresh
  | .number | .name | .closing | .other => .afterOperand

/-- Whether an operator at a place lacks its left operand; a minus has none of need. -/
def lacksLeft (place : Place) (token : Token) : Bool :=
  token.kind == .operator && token.text != "-" && place != .afterOperand

/-- The problems of the syntax of `tokens` where `depth` parentheses are open. -/
def syntaxProblems : Nat → Place → List Token → List Problem
  | depth, place, [] =>
    (if 0 < depth then [.unbalanced] else [])
      ++ (if place = .afterOperator then [.endsWithOperator] else [])
  | depth, place, token :: rest =>
    (if lacksLeft place token then [.missingLeft token.text] else [])
      ++ (if token.kind = .closing ∧ depth = 0 then [.unbalanced] else [])
      ++ syntaxProblems
        (match token.kind with
          | .opening => depth + 1
          | .closing => depth - 1
          | _ => depth)
        token.kind.placeAfter rest

/-- The problem of a token on its own, if it has one. -/
def tokenProblem? (known : List Text) (token : Token) : Option Problem :=
  if token.kind = .other then some (.unexpected token.text)
  else if token.isReference && !known.contains token.text then some (.undefinedName token.text)
  else none

/-- The problems of a formula in which the `known` names may occur; none if it is valid. -/
def problems (formula : Text) (known : List Text) : List Problem :=
  if Text.isAllBlank formula then [.empty]
  else
    let ts := tokens formula
    (if ts.any (·.kind == .operator) then [] else [.noOperator])
      ++ ts.filterMap (tokenProblem? known) ++ syntaxProblems 0 .fresh ts

/-- The problems of the formula of a parameter, which may not refer to that parameter. -/
def problemsOf (parameterName formula : Text) (known : List Text) : List Problem :=
  problems formula known
    ++ (if (references formula).contains parameterName then [.selfReference] else [])

end FamilyDesign.Formula
