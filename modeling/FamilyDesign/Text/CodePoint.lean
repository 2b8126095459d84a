/-!
# Code points

The units of text. A JSON text may spell one half of a surrogate pair without the other, which is no
character, so a code point is a character or such a half. `toNat_inj` says that its number tells
which, `toNat_lt` and `toNat_ofNat` that the numbers below 110000 in base 16 are those of one.
-/

namespace FamilyDesign

/-- A code point: a character, or half of a surrogate pair, given by its distance from D800. -/
inductive CodePoint
  | char (c : Char)
  | half (offset : Fin 0x800)
deriving DecidableEq

namespace CodePoint

instance : Coe Char CodePoint := ⟨char⟩

instance : Inhabited CodePoint := ⟨char default⟩

/-- The number of a code point. -/
def toNat : CodePoint → Nat
  | char c => c.toNat
  | half offset => 0xD800 + offset

/-- Whether a number is that of half of a surrogate pair. -/
def isHalfNumber (n : Nat) : Prop := 0xD800 ≤ n ∧ n < 0xE000

instance (n : Nat) : Decidable (isHalfNumber n) := inferInstanceAs (Decidable (_ ∧ _))

/-- The code point of a number; a number that is none of a code point gives that of zero. -/
def ofNat (n : Nat) : CodePoint :=
  if h : isHalfNumber n then half ⟨n - 0xD800, by unfold isHalfNumber at h; omega⟩
  else char (Char.ofNat n)

instance : LE CodePoint := ⟨fun a b => a.toNat ≤ b.toNat⟩

instance : DecidableLE CodePoint := fun a b => inferInstanceAs (Decidable (a.toNat ≤ b.toNat))

/-- The character that a code point is. -/
def char? : CodePoint → Option Char
  | char c => some c
  | half _ => none

/-- Whether a code point is half of a surrogate pair. -/
def isHalf : CodePoint → Bool
  | char _ => false
  | half _ => true

/-- The code point through a function on characters; a half stays. -/
def map (f : Char → Char) : CodePoint → CodePoint
  | char c => char (f c)
  | half offset => half offset

/-- An ASCII digit. -/
def isDigit (c : CodePoint) : Bool := c.char?.any Char.isDigit

/-- An ASCII letter. -/
def isAlpha (c : CodePoint) : Bool := c.char?.any Char.isAlpha

/-- An ASCII letter or digit. -/
def isAlphanum (c : CodePoint) : Bool := c.char?.any Char.isAlphanum

/-- The lower case of an ASCII letter; anything else stays. -/
def toLower (c : CodePoint) : CodePoint := c.map Char.toLower

/-- The capital of an ASCII letter; anything else stays. -/
def toUpper (c : CodePoint) : CodePoint := c.map Char.toUpper

@[simp] theorem isHalf_char (c : Char) : (char c).isHalf = false := rfl

theorem not_isHalfNumber (c : Char) : ¬ isHalfNumber c.toNat := by
  have h : c.toNat.isValidChar := c.valid
  unfold isHalfNumber
  rcases h with h | h <;> omega

theorem ofNat_toNat (c : CodePoint) : ofNat c.toNat = c := by
  cases c with
  | char c => simp [ofNat, toNat, not_isHalfNumber]
  | half offset =>
    have h : isHalfNumber (0xD800 + offset) := ⟨by omega, by omega⟩
    simp [ofNat, toNat, h]

theorem toNat_inj {a b : CodePoint} : a.toNat = b.toNat ↔ a = b :=
  ⟨fun h => by rw [← ofNat_toNat a, ← ofNat_toNat b, h], fun h => h ▸ rfl⟩

theorem toNat_lt (c : CodePoint) : c.toNat < 0x110000 := by
  cases c with
  | char c =>
    have h : c.toNat.isValidChar := c.valid
    show c.toNat < 0x110000
    rcases h with h | h <;> omega
  | half offset =>
    show 0xD800 + (offset : Nat) < 0x110000
    omega

theorem toNat_ofNat {n : Nat} (h : n < 0x110000) : (ofNat n).toNat = n := by
  unfold ofNat
  split
  · next hn =>
    unfold isHalfNumber at hn
    simp only [toNat]
    omega
  · next hn =>
    have hv : n.isValidChar := by
      unfold isHalfNumber at hn
      unfold Nat.isValidChar
      omega
    show (Char.ofNat n).toNat = n
    rw [Char.ofNat, dif_pos hv]
    rfl

end CodePoint

end FamilyDesign
