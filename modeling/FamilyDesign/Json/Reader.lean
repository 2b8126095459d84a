import FamilyDesign.Json.Limit
import FamilyDesign.Text.Digit

/-!
# Reading JSON

A reader for JSON texts that also takes the words `NaN`, `Infinity` and `-Infinity` as numbers.
Where the text is wrong, the fault names what was expected and where: it holds the number of
characters from the place to the end of the text. A limit that the text exceeds is a fault too,
wherever the text is wrong behind it.
-/

namespace FamilyDesign.Json

/-- What a reader misses or refuses at a place of the text. -/
inductive Complaint
  | expectedName
  | expectedColon
  | expectedComma
  | expectedValue
  | extraData
  | unterminatedText
  | controlCharacter
  | badEscape
  | badUnitEscape
deriving DecidableEq

/-- The wording of a complaint. -/
def Complaint.message : Complaint → Text
  | expectedName => "Expecting property name enclosed in double quotes"
  | expectedColon => "Expecting ':' delimiter"
  | expectedComma => "Expecting ',' delimiter"
  | expectedValue => "Expecting value"
  | extraData => "Extra data"
  | unterminatedText => "Unterminated string starting at"
  | controlCharacter => "Invalid control character at"
  | badEscape => "Invalid \\escape"
  | badUnitEscape => "Invalid \\uXXXX escape"

/-- Why a text is not read: a complaint at the place that is `remaining` characters from its end, or
a limit. -/
inductive Fault
  | misplaced (complaint : Complaint) (remaining : Nat)
  | beyond (limit : Limit)
deriving DecidableEq

/-- A complaint at the start of `rest`. -/
def Fault.at {α : Type} (complaint : Complaint) (rest : List CodePoint) : Except Fault α :=
  .error (.misplaced complaint rest.length)

/-- A character that may stand between tokens. -/
def isSeparator (c : CodePoint) : Bool :=
  c == ' ' || c == '\t' || c == '\n' || c == '\r'

/-- The text from the next token on. -/
def skipSeparators (cs : List CodePoint) : List CodePoint :=
  cs.dropWhile isSeparator

/-- The 16-bit unit that four hexadecimal digits spell, and what follows. At least one character
must follow, since the text has still to be closed. -/
def readUnit? : List CodePoint → Option (Nat × List CodePoint)
  | a :: b :: c :: d :: e :: rest => do
    let a ← Text.hexValue? a
    let b ← Text.hexValue? b
    let c ← Text.hexValue? c
    let d ← Text.hexValue? d
    some (((a * 16 + b) * 16 + c) * 16 + d, e :: rest)
  | _ => none

/-- The code point that a unit escape denotes, given the text behind its `u`, and what follows: two
escapes that form a surrogate pair denote one character. -/
def readUnitEscape (cs : List CodePoint) : Except Fault (CodePoint × List CodePoint) :=
  match readUnit? cs with
  | none => .error (.misplaced .badUnitEscape (cs.length + 1))
  | some (high, rest) =>
    if 0xD800 ≤ high ∧ high < 0xDC00 ∧ 6 < rest.length then
      match rest with
      | '\\' :: 'u' :: tail =>
        match readUnit? tail with
        | none => .error (.misplaced .badUnitEscape (tail.length + 1))
        | some (low, after) =>
          if 0xDC00 ≤ low ∧ low < 0xE000 then
            .ok (CodePoint.ofNat (0x10000 + (high - 0xD800) * 0x400 + (low - 0xDC00)), after)
          else .ok (CodePoint.ofNat high, rest)
      | _ => .ok (CodePoint.ofNat high, rest)
    else .ok (CodePoint.ofNat high, rest)

/-- The character that a one-letter escape denotes. -/
def simpleEscape? (c : CodePoint) : Option CodePoint :=
  match c with
  | '"' => some '"'
  | '\\' => some '\\'
  | '/' => some '/'
  | 'b' => some (CodePoint.ofNat 0x08)
  | 'f' => some (CodePoint.ofNat 0x0C)
  | 'n' => some '\n'
  | 'r' => some '\r'
  | 't' => some '\t'
  | _ => none

/-- The characters up to the closing quote, and what follows it. `opened` is the number of
characters from the opening quote on. Each round consumes a character, so `fuel` may be the number
of characters left. -/
def readCharacters (opened : Nat) :
    Nat → List CodePoint → Except Fault (List CodePoint × List CodePoint)
  | 0, _ => .error (.misplaced .unterminatedText opened)
  | _, [] => .error (.misplaced .unterminatedText opened)
  | fuel + 1, c :: rest =>
    if c = '"' then .ok ([], rest)
    else if c = '\\' then
      match rest with
      | [] => .error (.misplaced .unterminatedText opened)
      | 'u' :: tail => do
        let (decoded, after) ← readUnitEscape tail
        let (more, after) ← readCharacters opened fuel after
        .ok (decoded :: more, after)
      | letter :: tail =>
        match simpleEscape? letter with
        | none => .error (.misplaced .badEscape (rest.length + 1))
        | some decoded => do
          let (more, after) ← readCharacters opened fuel tail
          .ok (decoded :: more, after)
    else if c.toNat < 0x20 then .error (.misplaced .controlCharacter (rest.length + 1))
    else do
      let (more, after) ← readCharacters opened fuel rest
      .ok (c :: more, after)

/-- The text whose opening quote has just been passed, and what follows it. -/
def readText (cs : List CodePoint) : Except Fault (Text × List CodePoint) := do
  let (chars, rest) ← readCharacters (cs.length + 1) (cs.length + 1) cs
  .ok (Text.ofList chars, rest)

/-- The fraction at the front: digits behind a point, at least one. -/
def splitFraction (cs : List CodePoint) : List CodePoint × List CodePoint :=
  match cs with
  | '.' :: tail =>
    let digits := tail.takeWhile CodePoint.isDigit
    if digits.isEmpty then ([], cs) else (digits, tail.dropWhile CodePoint.isDigit)
  | _ => ([], cs)

/-- The exponent at the front, if digits follow its mark. -/
def splitExponent (cs : List CodePoint) : Option Int × List CodePoint :=
  match cs with
  | mark :: tail =>
    if mark = 'e' ∨ mark = 'E' then
      let (negative, body) := Numeric.splitSign tail
      let digits := body.takeWhile CodePoint.isDigit
      if digits.isEmpty then (none, cs)
      else
        let e : Int := Numeric.spell 0 digits
        (some (if negative then -e else e), body.dropWhile CodePoint.isDigit)
    else (none, cs)
  | [] => (none, cs)

/-- The integer that digits spell, unless they are too many. -/
def readInteger (negative : Bool) (digits : List CodePoint) : Except Fault Json :=
  if Numeric.longestInteger < digits.length then .error (.beyond (.digitsRead digits.length))
  else
    let n : Int := Numeric.spell 0 digits
    .ok (int (if negative then -n else n))

/-- The number at the front, and what follows it. An integer has no leading zeros; a point or an
exponent makes a real. -/
def readNumber (cs : List CodePoint) : Except Fault (Json × List CodePoint) :=
  let (negative, body) :=
    match cs with
    | '-' :: tail => (true, tail)
    | _ => (false, cs)
  let (whole, rest) : List CodePoint × List CodePoint :=
    match body with
    | '0' :: tail => (['0'], tail)
    | _ => (body.takeWhile CodePoint.isDigit, body.dropWhile CodePoint.isDigit)
  if whole.isEmpty then Fault.at .expectedValue cs
  else
    let (fraction, rest) := splitFraction rest
    let (exponent, rest) := splitExponent rest
    if fraction.isEmpty && exponent.isNone then
      (readInteger negative whole).map (·, rest)
    else
      let digits := Numeric.spell (Numeric.spell 0 whole) fraction
      .ok (real (.ofDecimal negative digits (exponent.getD 0 - fraction.length)), rest)

/-- The word values. -/
def words : Entries Json := [
  ("null", null), ("true", bool true), ("false", bool false), ("NaN", real .sharedUndefined),
  ("Infinity", real (.infinity false)), ("-Infinity", real (.infinity true))]

/-- The word or number at the front, and what follows it. -/
def readScalar (cs : List CodePoint) : Except Fault (Json × List CodePoint) :=
  match words.find? fun (word, _) => word.toList.isPrefixOf cs with
  | some (word, v) => .ok (v, cs.drop word.length)
  | none => readNumber cs

/-- Passes a place at which so many arrays and objects are open, unless one more is too many. -/
def checkNesting (opened : Nat) (limit : Limit) : Except Fault Unit :=
  if opened < deepestNesting then .ok () else .error (.beyond limit)

mutual

/-- The value at the front, inside so many arrays and objects, and what follows it. Nesting consumes
characters, so `fuel` may be the number of characters left. -/
def readValue (opened : Nat) : Nat → List CodePoint → Except Fault (Json × List CodePoint)
  | 0, cs => Fault.at .expectedValue cs
  | fuel + 1, cs =>
    match cs with
    | [] => Fault.at .expectedValue cs
    | '"' :: rest => do
      let (s, rest) ← readText rest
      .ok (text s, rest)
    | '[' :: rest => do
      checkNesting opened .arraysRead
      match skipSeparators rest with
      | ']' :: rest => .ok (array [], rest)
      | rest =>
        let (items, rest) ← readItems (opened + 1) fuel rest
        .ok (array items, rest)
    | '{' :: rest => do
      checkNesting opened .objectsRead
      match skipSeparators rest with
      | '}' :: rest => .ok (object [], rest)
      | rest =>
        let (fields, rest) ← readFields (opened + 1) fuel rest
        .ok (object (Entries.ofPairs fields), rest)
    | cs => readScalar cs

/-- The items from a first one up to the closing bracket, and what follows it. -/
def readItems (opened : Nat) : Nat → List CodePoint → Except Fault (List Json × List CodePoint)
  | 0, cs => Fault.at .expectedValue cs
  | fuel + 1, cs => do
    let (v, rest) ← readValue opened fuel cs
    match skipSeparators rest with
    | ']' :: rest => .ok ([v], rest)
    | ',' :: rest =>
      let (more, rest) ← readItems opened fuel (skipSeparators rest)
      .ok (v :: more, rest)
    | rest => Fault.at .expectedComma rest

/-- The fields from a first one up to the closing brace, and what follows it. -/
def readFields (opened : Nat) :
    Nat → List CodePoint → Except Fault (List (Text × Json) × List CodePoint)
  | 0, cs => Fault.at .expectedName cs
  | fuel + 1, cs =>
    match cs with
    | '"' :: rest => do
      let (key, rest) ← readText rest
      match skipSeparators rest with
      | ':' :: rest =>
        let (v, rest) ← readValue opened fuel (skipSeparators rest)
        match skipSeparators rest with
        | '}' :: rest => .ok ([(key, v)], rest)
        | ',' :: rest =>
          let (more, rest) ← readFields opened fuel (skipSeparators rest)
          .ok ((key, v) :: more, rest)
        | rest => Fault.at .expectedComma rest
      | rest => Fault.at .expectedColon rest
    | _ => Fault.at .expectedName cs

end

/-- The value that a whole text holds. -/
def readChars (cs : List CodePoint) : Except Fault Json := do
  let (v, rest) ← readValue 0 (cs.length + 1) (skipSeparators cs)
  match skipSeparators rest with
  | [] => .ok v
  | rest => Fault.at .extraData rest

/-- The wording of a fault in a text, a complaint with its place: line and column count from 1,
characters from 0. -/
def Fault.message (cs : List CodePoint) : Fault → Text
  | misplaced complaint remaining =>
    let place := cs.length - remaining
    let before := cs.take place
    let line := before.count (.char '\n') + 1
    let column := (before.reverse.takeWhile fun c : CodePoint => c != '\n').length + 1
    complaint.message ++ s!": line {line} column {column} (char {place})"
  | beyond limit => limit.message

/-- The limit that a text exceeds, if that is the fault. -/
def Fault.limit? : Fault → Option Limit
  | misplaced .. => none
  | beyond limit => some limit

/-- The value that a text holds. -/
def read (s : Text) : Except Fault Json := readChars s.toList

end FamilyDesign.Json
