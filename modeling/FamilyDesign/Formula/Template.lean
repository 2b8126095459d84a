import FamilyDesign.Numeric.Notation
import FamilyDesign.Numeric.Numeral
import FamilyDesign.Text.Escape
import FamilyDesign.Text.IdentifierTable

/-!
# Replacement templates

What takes the place of a word is a template: a backslash starts an escape, which stands for a
control character, for a character by its octal code, or for the replaced word itself. There are no
other groups to refer to. A template falls into units of one character or of a backslash and the
character behind it, and is read with one unit of look-ahead, so a lone backslash at the end is
noticed before the unit ahead of it is understood.
-/

namespace FamilyDesign.Formula.Template

/-- What is wrong with a template. -/
inductive Complaint
  | loneBackslash
  | missingOpening
  | missingName
  | unterminatedName
  | badName (name : List CodePoint)
  | badGroup (number : Nat)
  | octalRange (escape : List CodePoint)
  | badEscape (escape : List CodePoint)
deriving DecidableEq

/-- The wording of a complaint. -/
def Complaint.message : Complaint → Text
  | loneBackslash => "bad escape (end of pattern)"
  | missingOpening => "missing <"
  | missingName => "missing group name"
  | unterminatedName => "missing >, unterminated name"
  | badName name => "bad character in group name " ++ Text.shown (Text.ofList name)
  | badGroup number => "invalid group reference " ++ Numeric.intText number
  | octalRange escape =>
    "octal escape value " ++ Text.ofList escape ++ " outside of range 0-0o377"
  | badEscape escape => "bad escape " ++ Text.ofList escape

/-- Why a template cannot be used: a complaint at the place that `remaining` characters from the end
of the template, or a name that no group has. -/
inductive Fault
  | wrong (complaint : Complaint) (remaining : Nat)
  | unknownName (name : List CodePoint)
deriving DecidableEq

/-- The wording of a fault in a template, with its place: characters count from 0, and where the
template has lines, lines and columns count from 1. -/
def Fault.message (template : List CodePoint) : Fault → Text
  | unknownName name => "unknown group name " ++ Text.shown (Text.ofList name)
  | wrong complaint remaining =>
    let place := template.length - remaining
    let before := template.take place
    let line := before.count (.char '\n') + 1
    let column := (before.reverse.takeWhile fun c : CodePoint => c != '\n').length + 1
    complaint.message ++ s!" at position {place}"
      ++ (if template.contains '\n' then s!" (line {line}, column {column})" else "")

/-- A complaint at the start of `rest`. -/
def complain {α : Type} (complaint : Complaint) (rest : List CodePoint) : Except Fault α :=
  .error (.wrong complaint rest.length)

/-- The text `rest` ahead of which a unit has been read, unless a lone backslash is all of it. -/
def lookAhead (rest : List CodePoint) : Except Fault (List CodePoint) :=
  if rest = [.char '\\'] then complain .loneBackslash rest else .ok rest

/-- The next unit, and what follows it. -/
def unit? : List CodePoint → Option (List CodePoint × List CodePoint)
  | [] => none
  | '\\' :: c :: rest => some (['\\', c], rest)
  | c :: rest => some ([c], rest)

/-- A digit of an octal number. -/
def isOctal (c : CodePoint) : Bool :=
  '0' ≤ c && c ≤ '7'

/-- The number that octal digits spell. -/
def octal (digits : List CodePoint) : Nat :=
  digits.foldl (fun n c => n * 8 + (c.toNat - '0'.toNat)) 0

/-- The name up to the closing angle bracket and what follows the bracket, where `name` has been
read already. Each round consumes a character, so `fuel` may be the number of characters left. -/
def readName :
    Nat → List CodePoint → List CodePoint → Except Fault (List CodePoint × List CodePoint)
  | 0, name, rest => complain .unterminatedName (name ++ rest)
  | fuel + 1, name, rest =>
    match unit? rest with
    | none =>
      if name.isEmpty then complain .missingName rest else complain .unterminatedName (name ++ rest)
    | some (unit, after) => do
      let after ← lookAhead after
      if unit = [.char '>'] then
        if name.isEmpty then complain .missingName rest else .ok (name, after)
      else readName fuel (name ++ unit) after

/-- The replaced word for the group of a name; `start` is the template from the name on. -/
def resolveName (word name start : List CodePoint) : Except Fault (List CodePoint) :=
  if Text.isIdentifier name then .error (.unknownName name)
  else
    match Numeric.freeInt? (Text.ofList name) with
    | some (.ofNat 0) => .ok word
    | some (.ofNat n) => complain (.badGroup n) start
    | _ => complain (.badName name) start

/-- What a group reference by name stands for; `rest` is what follows its `g`. -/
def expandName (word rest : List CodePoint) : Except Fault (List CodePoint × List CodePoint) :=
  match rest with
  | '<' :: start => do
    let start ← lookAhead start
    let (name, after) ← readName (start.length + 1) [] start
    .ok (← resolveName word name start, after)
  | _ => complain .missingOpening rest

/-- Up to `count` octal digits at the front, and what follows them. -/
def readOctal : Nat → List CodePoint → Except Fault (List CodePoint × List CodePoint)
  | count + 1, c :: rest =>
    if isOctal c then do
      let rest ← lookAhead rest
      let (digits, rest) ← readOctal count rest
      .ok (c :: digits, rest)
    else .ok ([], c :: rest)
  | _, rest => .ok ([], rest)

/-- What an escape that starts with a zero stands for. -/
def expandZero (rest : List CodePoint) : Except Fault (List CodePoint × List CodePoint) := do
  let (digits, rest) ← readOctal 2 rest
  .ok ([CodePoint.ofNat (octal digits % 256)], rest)

/-- What an escape that starts with another digit stands for: three octal digits are a character,
anything else would be a group that does not exist. -/
def expandDigit (first : CodePoint) (rest : List CodePoint) :
    Except Fault (List CodePoint × List CodePoint) :=
  match rest with
  | second :: tail =>
    if second.isDigit then do
      let tail ← lookAhead tail
      match tail with
      | third :: after =>
        if isOctal first && isOctal second && isOctal third then do
          let after ← lookAhead after
          let code := octal [first, second, third]
          if 255 < code then
            complain (.octalRange ['\\', first, second, third])
              ('\\' :: first :: second :: third :: after)
          else .ok ([CodePoint.ofNat code], after)
        else complain (.badGroup (Numeric.spell 0 [first, second])) (first :: rest)
      | [] => complain (.badGroup (Numeric.spell 0 [first, second])) (first :: rest)
    else complain (.badGroup (Numeric.spell 0 [first])) (first :: rest)
  | [] => complain (.badGroup (Numeric.spell 0 [first])) (first :: rest)

/-- What an escape of one letter stands for. -/
def simpleEscape? (c : CodePoint) : Option CodePoint :=
  match c with
  | 'a' => some (CodePoint.ofNat 0x07)
  | 'b' => some (CodePoint.ofNat 0x08)
  | 'f' => some (CodePoint.ofNat 0x0C)
  | 'n' => some '\n'
  | 'r' => some '\r'
  | 't' => some '\t'
  | 'v' => some (CodePoint.ofNat 0x0B)
  | '\\' => some '\\'
  | _ => none

/-- What the escape of a backslash and `c` stands for, and what follows it. -/
def expandEscape (word : List CodePoint) (c : CodePoint) (rest : List CodePoint) :
    Except Fault (List CodePoint × List CodePoint) :=
  if c = 'g' then expandName word rest
  else if c = '0' then expandZero rest
  else if c.isDigit then expandDigit c rest
  else
    match simpleEscape? c with
    | some decoded => .ok ([decoded], rest)
    | none =>
      if c.isAlpha then complain (.badEscape ['\\', c]) ('\\' :: c :: rest)
      else .ok (['\\', c], rest)

/-- The template with its escapes expanded. Each round consumes a character, so `fuel` may be the
number of characters. -/
def expandFrom (word : List CodePoint) : Nat → List CodePoint → Except Fault (List CodePoint)
  | 0, _ => .ok []
  | fuel + 1, template =>
    match unit? template with
    | none => .ok []
    | some (unit, rest) => do
      let rest ← lookAhead rest
      let (part, rest) ←
        match unit with
        | ['\\', c] => expandEscape word c rest
        | _ => .ok (unit, rest)
      .ok (part ++ (← expandFrom word fuel rest))

/-- What a template stands for in the place of a word. -/
def expand (word template : List CodePoint) : Except Fault (List CodePoint) := do
  expandFrom word template.length (← lookAhead template)

end FamilyDesign.Formula.Template
