import FamilyDesign.Document.Checked
import FamilyDesign.Json.Value
import FamilyDesign.Numeric.Numeral

/-!
# Fields of a document

How a value of a document becomes a value of a declared kind. Numbers, truth values and integers
may be written as each other or as numerals; texts, lists and objects must be just that. A field has
a wire name and a plain name, of which the wire name wins; fields that nobody asks for are kept.
-/

namespace FamilyDesign.Document

open Numeric (Binary64)

-- Powers are those of the core library, whatever algebra is imported beside this module.
attribute [local instance (1100)] instPowNat

/-- A real number: a number, a truth value or a field numeral. -/
def asReal : Json → Checked Binary64
  | .real x => .valid x
  | .int n => if (Binary64.ofInt n).isFinite then .valid (Binary64.ofInt n) else .wrong
  | .bool b => .valid (if b then 1 else 0)
  | .text s => .ofOption (Numeric.fieldReal? s)
  | _ => .wrong

/-- Whether a real is an integer below 2⁶³ in magnitude. -/
def isSmallIntegral (x : Binary64) : Bool :=
  x.isIntegral && x.truncate.natAbs < 2 ^ (63 : Nat)

/-- An integer: an integer, a small real without fraction, a truth value or a field numeral. -/
def asInt : Json → Checked Int
  | .int n => .valid n
  | .real x => if isSmallIntegral x then .valid x.truncate else .wrong
  | .bool b => .valid (if b then 1 else 0)
  | .text s => .ofOption (Numeric.fieldInt? s)
  | _ => .wrong

/-- The words for true. -/
def trueWords : List Text := ["1", "on", "t", "true", "y", "yes"]

/-- The words for false. -/
def falseWords : List Text := ["0", "off", "f", "false", "n", "no"]

/-- The truth value that a word stands for, in any case. -/
def flagOfWord? (s : Text) : Option Bool :=
  let word := Text.ofList (s.toList.map CodePoint.toLower)
  if word ∈ trueWords then some true else if word ∈ falseWords then some false
  else none

/-- A truth value: itself, 0 or 1, or a word for one. -/
def asFlag : Json → Checked Bool
  | .bool b => .valid b
  | .int n => if n = 0 then .valid false else if n = 1 then .valid true else .wrong
  | .real x => if x.eqv 0 then .valid false else if x.eqv 1 then .valid true else .wrong
  | .text s => .ofOption (flagOfWord? s)
  | _ => .wrong

/-- A text. -/
def asText : Json → Checked Text
  | .text s => .valid s
  | _ => .wrong

/-- Any value. -/
def asAny (v : Json) : Checked Json := .valid v

/-- A value that may be absent. -/
def asOptional {α : Type} (read : Json → Checked α) : Json → Checked (Option α)
  | .null => .valid none
  | v => (read v).map some

/-- A list of values. -/
def asList {α : Type} (read : Json → Checked α) : Json → Checked (List α)
  | .array items => Checked.all (items.map read)
  | _ => .wrong

/-- The fields of an object. -/
def asFields : Json → Checked Fields
  | .object fields => .valid fields
  | _ => .wrong

/-- A value read from the fields of an object. -/
def asRecord {α : Type} (read : Fields → Checked α) : Json → Checked α
  | .object fields => read fields
  | _ => .wrong

/-- The two names of a field. -/
structure Name where
  wire : Text
  plain : Text

/-- A field whose two names are one. -/
def Name.same (name : Text) : Name := ⟨name, name⟩

/-- The key under which a field stands, and its value. -/
def Name.find? (name : Name) (fields : Fields) : Option (Text × Json) :=
  match fields.lookup name.wire with
  | some v => some (name.wire, v)
  | none => (fields.lookup name.plain).map (name.plain, ·)

/-- A field of an object, or its default if it is absent. -/
def Name.load {α : Type} (name : Name) (default : α) (read : Json → Checked α)
    (fields : Fields) : Checked α :=
  match name.find? fields with
  | some (key, v) => (read v).under key
  | none => .valid default

/-- A field that an object must have. -/
def required {α : Type} (key : Text) (read : Json → Checked α) (fields : Fields) : Checked α :=
  match fields.lookup key with
  | some v => (read v).under key
  | none => Checked.wrong.under key

/-- The fields under none of the keys that the names stand for. -/
def unasked (names : List Name) (fields : Fields) : Fields :=
  let used := names.filterMap fun name => (name.find? fields).map (·.1)
  fields.filter fun (key, _) => !used.contains key

/-- What is loaded from an object that keeps the fields under none of the names. It is wrong as a
whole if the key of such a field holds half of a surrogate pair. -/
def keepingExtras {α : Type} (names : List Name) (fields : Fields) (loaded : Checked α) :
    Checked α :=
  if (unasked names fields).any fun (key, _) => key.holdsHalf then .wrong else loaded

mutual

/-- A value without the numbers that JSON cannot write: they become `null`. -/
def writable : Json → Json
  | .real x => if x.isFinite then .real x else .null
  | .array items => .array (writableItems items)
  | .object fields => .object (writableFields fields)
  | v => v

/-- Each item without them. -/
def writableItems : List Json → List Json
  | [] => []
  | v :: rest => writable v :: writableItems rest

/-- Each field without them. -/
def writableFields : Fields → Fields
  | [] => []
  | (key, v) :: rest => (key, writable v) :: writableFields rest

end

/-- The fields of a dictionary, going on from those that are written already. In a key, replacement
characters stand for half of a surrogate pair. Of fields that get one key the last one stays, in the
place of the first. -/
def dictionaryFrom (written : Fields) : Fields → Fields
  | [] => written
  | (key, v) :: rest => dictionaryFrom (written.put key.toString (writable v)) rest

/-- The fields of a dictionary, whose keys are declared to be texts. Unlike a key in a value of no
declared kind, such a key is written whatever it holds. -/
def dictionary (fields : Fields) : Fields := dictionaryFrom [] fields

/-- An absent value is written as `null`. -/
def optional {α : Type} (write : α → Json) : Option α → Json
  | some v => write v
  | none => .null

end FamilyDesign.Document
