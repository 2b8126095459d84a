import FamilyDesign.Text.Blank
import FamilyDesign.Text.Case
import FamilyDesign.Text.Digit

/-!
# Tokens of a prompt

A prompt in lower case falls into numbers, words of ASCII letters, the marks for feet and inches,
and single other characters; blanks only separate. Every character that is not a blank belongs to
exactly one token.
-/

namespace FamilyDesign.Prompt

/-- The kind of a token. -/
inductive TokenKind
  | number
  | word
  | symbol
  | punct
deriving DecidableEq

/-- The name of a kind. -/
def TokenKind.name : TokenKind → Text
  | number => "number"
  | word => "word"
  | symbol => "symbol"
  | punct => "punct"

/-- A token with its position among the tokens. -/
structure Token where
  text : Text
  kind : TokenKind
  index : Nat
deriving DecidableEq

/-- A letter of a word. -/
def isWordLetter (c : CodePoint) : Bool :=
  'a' ≤ c && c ≤ 'z'

/-- The mark for feet or inches. -/
def isUnitMark (c : CodePoint) : Bool :=
  c == '\'' || c == '"'

/-- The fraction at the front of what follows a number's digits: a point with digits behind it. -/
def splitFraction : List CodePoint → List CodePoint × List CodePoint
  | '.' :: rest =>
    let digits := rest.takeWhile Text.isDecimalDigit
    if digits.isEmpty then ([], '.' :: rest)
    else ('.' :: digits, rest.dropWhile Text.isDecimalDigit)
  | rest => ([], rest)

/-- The token that starts with the character `c` ahead of `rest`, and what follows it. -/
def takeToken (c : CodePoint) (rest : List CodePoint) :
    TokenKind × List CodePoint × List CodePoint :=
  if Text.isDecimalDigit c then
    let (fraction, after) := splitFraction (rest.dropWhile Text.isDecimalDigit)
    (.number, c :: (rest.takeWhile Text.isDecimalDigit ++ fraction), after)
  else if isWordLetter c then
    (.word, c :: rest.takeWhile isWordLetter, rest.dropWhile isWordLetter)
  else if isUnitMark c then (.symbol, [c], rest)
  else (.punct, [c], rest)

theorem splitFraction_append (cs : List CodePoint) :
    (splitFraction cs).1 ++ (splitFraction cs).2 = cs := by
  unfold splitFraction
  split
  · dsimp only
    split <;> simp
  · simp

/-- A token and what follows it are the text. -/
theorem takeToken_append (c : CodePoint) (rest : List CodePoint) :
    (takeToken c rest).2.1 ++ (takeToken c rest).2.2 = c :: rest := by
  unfold takeToken
  split
  · simp [splitFraction_append]
  · split
    · simp
    · split <;> simp

theorem takeToken_ne_nil (c : CodePoint) (rest : List CodePoint) : (takeToken c rest).2.1 ≠ [] := by
  unfold takeToken
  split
  · simp
  · split
    · simp
    · split <;> simp

theorem length_takeToken_le (c : CodePoint) (rest : List CodePoint) :
    (takeToken c rest).2.2.length ≤ rest.length := by
  have happ := congrArg List.length (takeToken_append c rest)
  have hne := List.length_pos_iff.2 (takeToken_ne_nil c rest)
  simp only [List.length_append, List.length_cons] at happ
  omega

/-- The kinds and characters of the tokens of a text in lower case. -/
def scan : List CodePoint → List (TokenKind × List CodePoint)
  | [] => []
  | c :: rest =>
    if Text.isBlank c then scan rest
    else
      let token := takeToken c rest
      (token.1, token.2.1) :: scan token.2.2
termination_by cs => cs.length
decreasing_by
  · simp
  · have := length_takeToken_le c rest
    simp
    omega

/-- The tokens of a prompt. -/
def tokenize (prompt : Text) : List Token :=
  (scan (Text.lower prompt).toList).mapIdx fun i (kind, cs) => ⟨Text.ofList cs, kind, i⟩

end FamilyDesign.Prompt
