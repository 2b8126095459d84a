import FamilyDesign.Numeric.Binary64
import FamilyDesign.Text.Blank
import FamilyDesign.Text.Digit

/-!
# Reading numerals

The grammar of a decimal numeral is a sign, digits with an optional point, and an optional
exponent; the words for infinity and for an undefined number count as numerals too. Texts reach the
grammar in two ways. A *free* numeral may have blanks around it, digits of any script and single
underscores between digits. A *field* numeral, in a document that is being loaded, is read more
narrowly. Integers have the same two readings.
-/

namespace FamilyDesign.Numeric

/-- The number that ASCII digits spell, going on from `start`. -/
def spell (start : Nat) (digits : List CodePoint) : Nat :=
  digits.foldl (fun n c => n * 10 + (c.toNat - '0'.toNat)) start

/-- The sign at the front, `true` for a minus, and what follows it. -/
def splitSign : List CodePoint → Bool × List CodePoint
  | '-' :: rest => (true, rest)
  | '+' :: rest => (false, rest)
  | cs => (false, cs)

/-- The exponent that `cs` spells after its mark, or 0 if nothing is left. -/
def readExponent : List CodePoint → Option Int
  | [] => some 0
  | mark :: rest =>
    if mark = 'e' ∨ mark = 'E' then
      let (negative, digits) := splitSign rest
      if digits.isEmpty || !digits.all CodePoint.isDigit then none
      else some (if negative then -(spell 0 digits : Int) else spell 0 digits)
    else none

/-- The number that an unsigned decimal numeral spells. -/
def readMagnitude (negative : Bool) (cs : List CodePoint) : Option Binary64 :=
  let whole := cs.takeWhile CodePoint.isDigit
  let rest := cs.dropWhile CodePoint.isDigit
  let (fraction, rest) :=
    match rest with
    | '.' :: tail => (tail.takeWhile CodePoint.isDigit, tail.dropWhile CodePoint.isDigit)
    | _ => ([], rest)
  if whole.isEmpty && fraction.isEmpty then none
  else
    (readExponent rest).map fun e =>
      Binary64.ofDecimal negative (spell (spell 0 whole) fraction) (e - fraction.length)

/-- The number that a numeral spells: a decimal, or one of the words `inf`, `infinity` and `nan` in
any case. -/
def readReal (cs : List CodePoint) : Option Binary64 :=
  let (negative, body) := splitSign cs
  let word := Text.ofList (body.map CodePoint.toLower)
  if word = "inf" ∨ word = "infinity" then some (Binary64.infinity negative)
  else if word = "nan" then some .undefined
  else readMagnitude negative body

/-- The integer that a sign and digits spell. -/
def readInt (cs : List CodePoint) : Option Int :=
  let (negative, digits) := splitSign cs
  if digits.isEmpty || !digits.all CodePoint.isDigit then none
  else some (if negative then -(spell 0 digits : Int) else spell 0 digits)

/-- The text without its underscores, if each stands between two digits; `previous` is whether a
digit stands just before. -/
def dropUnderscores (previous : Bool) : List CodePoint → Option (List CodePoint)
  | [] => some []
  | '_' :: rest =>
    match rest with
    | next :: _ => if previous && next.isDigit then dropUnderscores false rest else none
    | [] => none
  | c :: rest => (dropUnderscores c.isDigit rest).map (c :: ·)

/-- A free numeral in plain form: ASCII digits, no blanks around it, no underscores. -/
def plainNumeral (s : Text) : Option (List CodePoint) :=
  dropUnderscores false (Text.stripWhile Text.isNumeralBlank (s.toList.map Text.asciiDigit))

/-- The number that a free numeral spells. -/
def freeReal? (s : Text) : Option Binary64 :=
  (plainNumeral s).bind readReal

/-- The most digits that an integer in a text may have. -/
def longestInteger : Nat := 4300

/-- The integer that a free numeral spells, unless it has too many digits. -/
def freeInt? (s : Text) : Option Int :=
  (plainNumeral s).bind fun cs =>
    if longestInteger < (splitSign cs).2.length then none else readInt cs

/-- The text without its underscores, if it has any, neither starts nor ends with one and has no
two in a row. -/
def withoutSingleUnderscores (cs : List CodePoint) : Option (List CodePoint) :=
  let pairs := cs.zip (cs.drop 1)
  if !cs.contains '_' || cs.head? == some (.char '_') || cs.getLast? == some (.char '_')
      || pairs.any (fun (a, b) => a == '_' && b == '_') then none
  else some (cs.filter (· != '_'))

/-- The number that a field numeral spells: blanks around it are ignored; a text with single
underscores is read without them, then blanks are not. -/
def fieldReal? (s : Text) : Option Binary64 :=
  match readReal (Text.stripWhile Text.isNumeralBlank s.toList) with
  | some x => some x
  | none => (withoutSingleUnderscores s.toList).bind readReal

/-- The integer spelled by a minus and digits without leading zeros, of at most as many characters
as an integer may have digits. -/
def strictInt? (cs : List CodePoint) : Option Int :=
  match splitSign cs with
  | (_, '0' :: _ :: _) => none
  | (_, digits) =>
    if cs.head? == some (.char '+') || digits.isEmpty || longestInteger < cs.length then none
    else readInt cs

/-- A numeral from what follows its leading zeros on: a digit, a minus, or a point with the
character before it. Underscores behind the first zero count as zeros. Of leading zeros alone the
last one stays. `none` if it does not start like a numeral. -/
def dropLeadingZeros : List CodePoint → Option (List CodePoint)
  | '0' :: rest => go '0' rest
  | c :: rest => if c.isDigit || c == '-' then some (c :: rest) else none
  | [] => none
where
  go (previous : CodePoint) : List CodePoint → Option (List CodePoint)
    | [] => some [previous]
    | '.' :: rest => some (previous :: '.' :: rest)
    | c :: rest =>
      if c == '0' || c == '_' then go c rest
      else if c.isDigit || c == '-' then some (c :: rest)
      else none

/-- A numeral without a leading plus, which no minus may follow, and without leading zeros; a minus
at its front stays. -/
def withoutLeadingZeros : List CodePoint → Option (List CodePoint)
  | '+' :: '-' :: _ => none
  | '+' :: rest => dropLeadingZeros rest
  | '-' :: rest => (dropLeadingZeros rest).map ('-' :: ·)
  | cs => dropLeadingZeros cs

/-- The text up to its point, if zeros follow the point and nothing else. -/
def dropZeroFraction (cs : List CodePoint) : List CodePoint :=
  let whole := cs.takeWhile fun c : CodePoint => c != '.'
  match cs.drop whole.length with
  | '.' :: fraction => if !fraction.isEmpty && fraction.all (· == '0') then whole else cs
  | _ => cs

/-- The integer that a field numeral spells: first as it stands, then without a leading plus,
leading zeros, a fraction of zeros and single underscores. -/
def fieldInt? (s : Text) : Option Int :=
  let trimmed := Text.stripWhile Text.isNumeralBlank s.toList
  match strictInt? trimmed with
  | some n => some n
  | none =>
    (withoutLeadingZeros trimmed).bind fun cs =>
      let whole := dropZeroFraction cs
      strictInt? ((withoutSingleUnderscores whole).getD whole)

end FamilyDesign.Numeric
