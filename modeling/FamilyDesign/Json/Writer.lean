import FamilyDesign.Json.Value
import FamilyDesign.Numeric.Notation
import FamilyDesign.Text.Escape
import FamilyDesign.Text.Search

/-!
# Writing JSON

Values as text: on one line, with a space behind commas and colons, or indented by two spaces a
level. Texts are in ASCII, reals in natural notation with the words `NaN`, `Infinity` and
`-Infinity`. The third form is the one in which messages and scripts show a value.

The writers set no limit on the digits of an integer: one with too many to be written has too many
to be read as well, so no text holds it.
-/

namespace FamilyDesign.Json

/-- A real number in a JSON text. -/
def realText (x : Numeric.Binary64) : Text :=
  if x.isUndefined then "NaN"
  else if x.isInfinite then (if x.isNegative then "-Infinity" else "Infinity")
  else x.natural

/-- Brackets around parts that stand on one line. -/
def inline (opening closing : Text) (parts : List Text) : Text :=
  opening ++ Text.joinWith ", " parts ++ closing

mutual

/-- The value on one line. -/
def compact : Json → Text
  | null => "null"
  | bool b => if b then "true" else "false"
  | int n => Numeric.intText n
  | real x => realText x
  | text s => Text.jsonQuote s
  | array items => inline "[" "]" (compactItems items)
  | object fields => inline "\x7b" "\x7d" (compactFields fields)

/-- Each item on one line. -/
def compactItems : List Json → List Text
  | [] => []
  | v :: rest => compact v :: compactItems rest

/-- Each field on one line. -/
def compactFields : Fields → List Text
  | [] => []
  | (k, v) :: rest => (Text.jsonQuote k ++ ": " ++ compact v) :: compactFields rest

end

/-- A new line at the given depth. -/
def lineStart (depth : Nat) : Text :=
  "\n" ++ Text.ofList (List.replicate (2 * depth) ' ')

/-- Brackets at the given depth around parts on lines of their own, one level deeper. -/
def block (opening closing : Text) (depth : Nat) (parts : List Text) : Text :=
  if parts.isEmpty then opening ++ closing
  else
    opening ++ lineStart (depth + 1) ++ Text.joinWith ("," ++ lineStart (depth + 1)) parts
      ++ lineStart depth ++ closing

mutual

/-- The value at a depth, its parts on lines of their own. -/
def indentedAt (depth : Nat) : Json → Text
  | array items => block "[" "]" depth (indentedItems (depth + 1) items)
  | object fields => block "\x7b" "\x7d" depth (indentedFields (depth + 1) fields)
  | null => "null"
  | bool b => if b then "true" else "false"
  | int n => Numeric.intText n
  | real x => realText x
  | text s => Text.jsonQuote s

/-- Each item at a depth. -/
def indentedItems (depth : Nat) : List Json → List Text
  | [] => []
  | v :: rest => indentedAt depth v :: indentedItems depth rest

/-- Each field at a depth. -/
def indentedFields (depth : Nat) : Fields → List Text
  | [] => []
  | (k, v) :: rest =>
    (Text.jsonQuote k ++ ": " ++ indentedAt depth v) :: indentedFields depth rest

end

/-- The value over several lines. -/
def indented (v : Json) : Text := indentedAt 0 v

mutual

/-- The value as messages and scripts show it: words with a capital, texts in quotes. -/
def shown : Json → Text
  | null => "None"
  | bool b => if b then "True" else "False"
  | int n => Numeric.intText n
  | real x => x.natural
  | text s => Text.shown s
  | array items => inline "[" "]" (shownItems items)
  | object fields => inline "\x7b" "\x7d" (shownFields fields)

/-- Each item shown. -/
def shownItems : List Json → List Text
  | [] => []
  | v :: rest => shown v :: shownItems rest

/-- Each field shown. -/
def shownFields : Fields → List Text
  | [] => []
  | (k, v) :: rest => (Text.shown k ++ ": " ++ shown v) :: shownFields rest

end

/-- The text of a value: a text as it is, anything else as it is shown. -/
def plain : Json → Text
  | text s => s
  | v => v.shown

end FamilyDesign.Json
