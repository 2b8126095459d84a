import FamilyDesign.Text.CodePoint

/-!
# Texts

A text is a sequence of code points. `toString` gives the nearest string, in which no half of a
surrogate pair can stand; `toString_ofString` says that a string comes back from its text.
-/

namespace FamilyDesign

/-- A text: its code points in order. -/
structure Text where
  ofList ::
  toList : List CodePoint
deriving DecidableEq

namespace Text

/-- The text of a string. -/
def ofString (s : String) : Text := ⟨s.toList.map .char⟩

instance : Coe String Text := ⟨ofString⟩

/-- The text of characters. -/
def ofChars (cs : List Char) : Text := ⟨cs.map .char⟩

instance : Inhabited Text := ⟨⟨[]⟩⟩

instance : Append Text := ⟨fun s t => ⟨s.toList ++ t.toList⟩⟩

/-- Whether a text has no code points. -/
def isEmpty (s : Text) : Bool := s.toList.isEmpty

/-- The number of code points. -/
def length (s : Text) : Nat := s.toList.length

/-- Whether a text holds half of a surrogate pair on its own. -/
def holdsHalf (s : Text) : Bool := s.toList.any (·.isHalf)

/-- The replacement character. -/
def replacement : Char := Char.ofNat 0xFFFD

/-- A code point in a string. Half of a surrogate pair would take three bytes, of which none is part
of a character, so a replacement character stands for each. -/
def stringChars : CodePoint → List Char
  | .char c => [c]
  | .half _ => [replacement, replacement, replacement]

/-- The string nearest to a text. -/
def toString (s : Text) : String := String.ofList (s.toList.flatMap stringChars)

/-- Whether one text comes before another: at the first code points that differ the smaller one
decides. -/
def before (s t : Text) : Bool := s.toList.map (·.toNat) < t.toList.map (·.toNat)

@[simp] theorem toList_append (s t : Text) : (s ++ t).toList = s.toList ++ t.toList := rfl

@[simp] theorem toList_ofString (s : String) : (ofString s).toList = s.toList.map .char := rfl

theorem toString_ofString (s : String) : (ofString s).toString = s := by
  have h : (s.toList.map CodePoint.char).flatMap stringChars = s.toList := by
    induction s.toList with
    | nil => rfl
    | cons c rest ih => simp_all [stringChars]
  simp [toString, h]

theorem holdsHalf_ofString (s : String) : (ofString s).holdsHalf = false := by
  simp [holdsHalf]

end Text

end FamilyDesign
