import FamilyDesign.Text.Blank
import FamilyDesign.Text.Case
import FamilyDesign.Text.Digit

/-!
# Tokens of a formula

A formula falls into numbers, names, operators, parentheses and commas; any other character is a
token of its own, and blanks only separate. Names are of ASCII letters, digits and underscores.
`takeToken_append` says that scanning loses no character.
-/

namespace FamilyDesign.Formula

/-- The kind of a token. -/
inductive TokenKind
  | number
  | name
  | operator
  | opening
  | closing
  | comma
  | other
deriving DecidableEq

/-- What a kind is called; both parentheses are of one sort. -/
def TokenKind.label : TokenKind → Text
  | number => "number"
  | name => "name"
  | operator => "op"
  | opening | closing => "paren"
  | comma => "comma"
  | other => "other"

/-- A token of a formula. -/
structure Token where
  kind : TokenKind
  text : Text
deriving DecidableEq

/-- A character that a name may start with. -/
def startsName (c : CodePoint) : Bool :=
  c.isAlpha || c == '_'

/-- A character of a name. -/
def inName (c : CodePoint) : Bool :=
  startsName c || c.isDigit

/-- An operator of one character. -/
def isOperator (c : CodePoint) : Bool :=
  ("-+*/^<>=" : Text).toList.contains c

/-- Whether an operator of two characters starts with `c` if an equality sign follows. -/
def joinsEquality (c : CodePoint) : Bool :=
  ("<>=!" : Text).toList.contains c

/-- The fraction of a number: a point and the digits behind it, if there are any. -/
def splitFraction : List CodePoint → List CodePoint × List CodePoint
  | '.' :: rest =>
    ('.' :: rest.takeWhile Text.isDecimalDigit, rest.dropWhile Text.isDecimalDigit)
  | rest => ([], rest)

/-- Whether digits follow directly. -/
def digitAhead (rest : List CodePoint) : Bool :=
  rest.head?.any Text.isDecimalDigit

/-- The token of symbols that starts with `c` ahead of `rest`, and what follows it. -/
def takeSymbol (c : CodePoint) (rest : List CodePoint) :
    TokenKind × List CodePoint × List CodePoint :=
  if joinsEquality c && rest.head? == some (.char '=') then (.operator, [c, '='], rest.drop 1)
  else if isOperator c then (.operator, [c], rest)
  else if c = '(' then (.opening, [c], rest)
  else if c = ')' then (.closing, [c], rest)
  else if c = ',' then (.comma, [c], rest)
  else (.other, [c], rest)

/-- The token that starts with `c` ahead of `rest`, and what follows it. -/
def takeToken (c : CodePoint) (rest : List CodePoint) :
    TokenKind × List CodePoint × List CodePoint :=
  if Text.isDecimalDigit c then
    let (fraction, after) := splitFraction (rest.dropWhile Text.isDecimalDigit)
    (.number, c :: (rest.takeWhile Text.isDecimalDigit ++ fraction), after)
  else if c == '.' && digitAhead rest then
    (.number, c :: rest.takeWhile Text.isDecimalDigit, rest.dropWhile Text.isDecimalDigit)
  else if startsName c then (.name, c :: rest.takeWhile inName, rest.dropWhile inName)
  else takeSymbol c rest

theorem splitFraction_append (cs : List CodePoint) :
    (splitFraction cs).1 ++ (splitFraction cs).2 = cs := by
  unfold splitFraction
  split <;> simp

theorem takeSymbol_append (c : CodePoint) (rest : List CodePoint) :
    (takeSymbol c rest).2.1 ++ (takeSymbol c rest).2.2 = c :: rest := by
  unfold takeSymbol
  split
  · rename_i h
    cases rest with
    | nil => simp at h
    | cons d rest =>
      simp only [List.head?_cons, Bool.and_eq_true, beq_iff_eq, Option.some.injEq] at h
      simp [h.2]
  · repeat' split
    all_goals simp

/-- A token and what follows it are the text. -/
theorem takeToken_append (c : CodePoint) (rest : List CodePoint) :
    (takeToken c rest).2.1 ++ (takeToken c rest).2.2 = c :: rest := by
  unfold takeToken
  split
  · simp [splitFraction_append]
  · split
    · simp
    · split
      · simp
      · exact takeSymbol_append c rest

theorem takeToken_ne_nil (c : CodePoint) (rest : List CodePoint) : (takeToken c rest).2.1 ≠ [] := by
  unfold takeToken takeSymbol
  repeat' split
  all_goals simp

theorem length_takeToken_le (c : CodePoint) (rest : List CodePoint) :
    (takeToken c rest).2.2.length ≤ rest.length := by
  have happ := congrArg List.length (takeToken_append c rest)
  have hne := List.length_pos_iff.2 (takeToken_ne_nil c rest)
  simp only [List.length_append, List.length_cons] at happ
  omega

/-- The kinds and characters of the tokens of a formula. -/
def scan : List CodePoint → List (TokenKind × List CodePoint)
  | [] => []
  | c :: rest =>
    if Text.isBlank c then scan rest
    else
      let token := takeToken c rest
      (token.1, token.2.1) :: scan token.2.2
termination_by cs => cs.length
decreasing_by
  · simp
  · have := length_takeToken_le c rest
    simp
    omega

/-- The tokens of a formula. -/
def tokens (formula : Text) : List Token :=
  (scan formula.toList).map fun (kind, cs) => ⟨kind, Text.ofList cs⟩

/-- The functions that formulas may call. -/
def functions : List Text := [
  "if", "and", "or", "not", "abs", "sqrt", "round", "roundup", "rounddown", "min", "max", "exp",
  "log", "ln", "sin", "cos", "tan", "asin", "acos", "atan", "pi"]

/-- Whether a token is the name of a parameter: a name that is no function in any case. -/
def Token.isReference (token : Token) : Bool :=
  token.kind == .name && !functions.contains (Text.lower token.text)

/-- The parameters that a formula refers to, each occurrence in its place. -/
def references (formula : Text) : List Text :=
  ((tokens formula).filter Token.isReference).map (·.text)

end FamilyDesign.Formula
