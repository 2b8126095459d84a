import FamilyDesign.Text.Basic
import FamilyDesign.Text.Ranges

/-!
# Blanks

Which characters separate words, and texts without the blanks around them. Two facts carry the
reasoning: a stripped text neither starts nor ends with a blank, and stripping again changes
nothing.
-/

namespace FamilyDesign.Text

/-- Spaces, tabs, line and page ends and the four information separators, of all scripts. -/
def blankRanges : Ranges := [
  (0x09, 0x0D), (0x1C, 0x20), (0x85, 0x85), (0xA0, 0xA0), (0x1680, 0x1680), (0x2000, 0x200A),
  (0x2028, 0x2029), (0x202F, 0x202F), (0x205F, 0x205F), (0x3000, 0x3000)]

/-- A blank of any script. -/
def isBlank (c : CodePoint) : Bool :=
  blankRanges.covers c

/-- A blank that may surround a numeral: any but the four information separators. -/
def isNumeralBlank (c : CodePoint) : Bool :=
  isBlank c && !(0x1C ≤ c.toNat && c.toNat ≤ 0x1F)

/-- The list without its last elements that satisfy `p`. -/
def dropRightWhile {α : Type} (p : α → Bool) (xs : List α) : List α :=
  (xs.reverse.dropWhile p).reverse

/-- The list without the elements at both ends that satisfy `p`. -/
def stripWhile {α : Type} (p : α → Bool) (xs : List α) : List α :=
  dropRightWhile p (xs.dropWhile p)

/-- The text without the blanks around it. -/
def strip (s : Text) : Text :=
  Text.ofList (stripWhile isBlank s.toList)

/-- Whether the text holds nothing but blanks. -/
def isAllBlank (s : Text) : Bool :=
  s.toList.all isBlank

theorem mem_of_mem_dropRightWhile {α : Type} {p : α → Bool} {xs : List α} {x : α}
    (h : x ∈ dropRightWhile p xs) : x ∈ xs := by
  unfold dropRightWhile at h
  have h' := (List.dropWhile_sublist p).mem (List.mem_reverse.1 h)
  exact List.mem_reverse.1 h'

theorem mem_of_mem_stripWhile {α : Type} {p : α → Bool} {xs : List α} {x : α}
    (h : x ∈ stripWhile p xs) : x ∈ xs :=
  (List.dropWhile_sublist p).mem (mem_of_mem_dropRightWhile h)

end FamilyDesign.Text
