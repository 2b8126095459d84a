import FamilyDesign.Text.Search

/-!
# Checked values

Loading a document reports every place that is wrong, in order, and not only the first. `Checked`
is a value or the list of such places; combining two checked values keeps the places of both.
-/

namespace FamilyDesign

/-- A place in a document: the keys and indexes that lead to it, from the outside. -/
abbrev Place := List Text

/-- A place with its steps joined by points. -/
def Place.text (place : Place) : Text :=
  Text.joinWith "." place

/-- A loaded value, or the places at which loading failed. -/
inductive Checked (α : Type)
  | valid (value : α)
  | invalid (places : List Place)

namespace Checked

variable {α β : Type}

/-- The value through a function. -/
def map (f : α → β) : Checked α → Checked β
  | valid v => valid (f v)
  | invalid places => invalid places

/-- A function applied to a value; the places of both sides are kept. -/
def apply (f : Checked (α → β)) (x : Checked α) : Checked β :=
  match f, x with
  | valid f, valid v => valid (f v)
  | valid _, invalid places => invalid places
  | invalid places, valid _ => invalid places
  | invalid before, invalid after => invalid (before ++ after)

instance : Functor Checked := ⟨Checked.map, fun a => Checked.map fun _ => a⟩

instance : Applicative Checked where
  pure := valid
  seq f x := apply f (x ())

/-- The value as part of a larger document, under a key. -/
def under (key : Text) : Checked α → Checked α
  | valid v => valid v
  | invalid places => invalid (places.map (key :: ·))

/-- A value that is wrong as a whole. -/
def wrong : Checked α := invalid [[]]

/-- The value, or what is wrong about it if there is none. -/
def ofOption : Option α → Checked α
  | some v => valid v
  | none => wrong

/-- The items of a list from an index on, each under its index. -/
def allFrom (index : Nat) : List (Checked α) → Checked (List α)
  | [] => valid []
  | x :: rest => List.cons <$> x.under (toString index) <*> allFrom (index + 1) rest

/-- The items of a list, each under its index. -/
def all (items : List (Checked α)) : Checked (List α) :=
  allFrom 0 items

/-- The value, if it is valid. -/
def toOption : Checked α → Option α
  | valid v => some v
  | invalid _ => none

/-- The value, or the places that are wrong. -/
def toExcept : Checked α → Except (List Place) α
  | valid v => .ok v
  | invalid places => .error places

end Checked

end FamilyDesign
