import FamilyDesign.Text.Basic
import FamilyDesign.Text.PrintableTable

/-!
# Escaped text

Two ways to write a text as a literal in ASCII or in one line: the double quoted form of JSON, and
the quoted form in which the program shows a text inside a message. In both every control
character is escaped, so a literal never spans lines.
-/

namespace FamilyDesign.Text

/-- A hexadecimal digit in lower case. -/
def hexDigit (n : Nat) : CodePoint :=
  let digit := n % 16
  Char.ofNat (if digit < 10 then '0'.toNat + digit else 'a'.toNat + (digit - 10))

/-- The last `width` hexadecimal digits of `n`, highest first. -/
def hexDigits (width n : Nat) : List CodePoint :=
  (List.range width).map fun i => hexDigit (n >>> (4 * (width - 1 - i)))

/-- A 16-bit unit as a backslash, a `u` and four hexadecimal digits. -/
def unitEscape (n : Nat) : List CodePoint :=
  '\\' :: 'u' :: hexDigits 4 n

/-- A code point beyond ASCII, or a control character, as escapes: one beyond 16 bits is written as
a surrogate pair. -/
def unitEscapes (c : CodePoint) : List CodePoint :=
  let n := c.toNat
  if n < 0x10000 then unitEscape n
  else unitEscape (0xD800 + (n - 0x10000) / 0x400) ++ unitEscape (0xDC00 + (n - 0x10000) % 0x400)

/-- A character of a JSON string: printable ASCII other than the quote and the backslash stands for
itself. -/
def jsonEscapeChar (c : CodePoint) : List CodePoint :=
  match c with
  | '"' => ['\\', '"']
  | '\\' => ['\\', '\\']
  | '\n' => ['\\', 'n']
  | '\r' => ['\\', 'r']
  | '\t' => ['\\', 't']
  | _ =>
    let n := c.toNat
    if n = 0x08 then ['\\', 'b']
    else if n = 0x0C then ['\\', 'f']
    else if 0x20 ≤ n ∧ n < 0x7F then [c]
    else unitEscapes c

/-- The characters of a JSON string literal, quotes included. -/
def jsonQuoted (cs : List CodePoint) : List CodePoint :=
  .char '"' :: (cs.flatMap jsonEscapeChar ++ [.char '"'])

/-- The JSON string literal of a text. -/
def jsonQuote (s : Text) : Text :=
  Text.ofList (jsonQuoted s.toList)

/-- The quote that surrounds a shown text: single, unless only a double one needs no escape. -/
def shownQuote (cs : List CodePoint) : CodePoint :=
  if cs.contains '\'' && !cs.contains '"' then '"' else '\''

/-- A character of a shown text inside the given quotes. -/
def shownChar (quote c : CodePoint) : List CodePoint :=
  let n := c.toNat
  if c = quote ∨ c = '\\' then ['\\', c]
  else if c = '\n' then ['\\', 'n']
  else if c = '\r' then ['\\', 'r']
  else if c = '\t' then ['\\', 't']
  else if 0x20 ≤ n ∧ n < 0x7F then [c]
  else if isPrintable c then [c]
  else if n < 0x100 then '\\' :: 'x' :: hexDigits 2 n
  else if n < 0x10000 then unitEscape n
  else '\\' :: 'U' :: hexDigits 8 n

/-- A text in quotes, as messages show it. -/
def shown (s : Text) : Text :=
  let cs := s.toList
  let quote := shownQuote cs
  Text.ofList (quote :: (cs.flatMap (shownChar quote) ++ [quote]))

end FamilyDesign.Text
