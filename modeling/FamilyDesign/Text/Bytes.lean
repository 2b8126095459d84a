import FamilyDesign.Numeric.Notation
import FamilyDesign.Text.Escape

/-!
# Texts over bytes

The bytes of a text in UTF-8, and two ways to carry them in ASCII: base 64, and the percent form of
addresses, in which letters, digits and a few marks stand for themselves. A half of a surrogate pair
has no bytes: `utf8_ofString` says that nothing else stands in the way.
-/

namespace FamilyDesign.Text

/-- Halves of surrogate pairs that have no bytes: those that stand in a row from the first one of
the text on, and how many code points precede them. -/
structure EncodingFault where
  position : Nat
  halves : List CodePoint
deriving DecidableEq

/-- The wording of an encoding fault. -/
def EncodingFault.message (fault : EncodingFault) : Text :=
  let first := Numeric.intText fault.position
  let place : Text :=
    match fault.halves with
    | [half] => " '" ++ Text.ofList (unitEscape half.toNat) ++ "' in position " ++ first
    | halves => "s in position " ++ first ++ "-"
        ++ Numeric.intText (fault.position + halves.length - 1)
  "'utf-8' codec can't encode character" ++ place ++ ": surrogates not allowed"

/-- The bytes of a text. -/
def utf8 (s : Text) : Except EncodingFault (List UInt8) :=
  match s.toList.dropWhile (!·.isHalf) with
  | [] => .ok s.toString.toUTF8.toList
  | rest => .error ⟨s.length - rest.length, rest.takeWhile (·.isHalf)⟩

theorem utf8_ofString (s : String) : (ofString s).utf8 = .ok s.toUTF8.toList := by
  have h : (s.toList.map CodePoint.char).dropWhile (!·.isHalf) = [] := by
    induction s.toList with
    | nil => rfl
    | cons c rest ih => simp [ih]
  rw [utf8, toList_ofString, h, toString_ofString]

/-- The sixty-four digits. -/
def base64Digits : List Char :=
  "ABCDEFGHIJKLMNOPQRSTUVWXYZabcdefghijklmnopqrstuvwxyz0123456789+/".toList

/-- The digit of a number below sixty-four. -/
def base64Digit (n : Nat) : Char := base64Digits.getD (n % 64) 'A'

/-- Bytes in base 64: three at a time make four digits, and what is left over is filled up. -/
def base64 : List Nat → List Char
  | [] => []
  | [a] => [base64Digit (a / 4), base64Digit (a % 4 * 16), '=', '=']
  | [a, b] =>
    [base64Digit (a / 4), base64Digit (a % 4 * 16 + b / 16), base64Digit (b % 16 * 4), '=']
  | a :: b :: c :: rest =>
    base64Digit (a / 4) :: base64Digit (a % 4 * 16 + b / 16) :: base64Digit (b % 16 * 4 + c / 64)
      :: base64Digit c :: base64 rest

/-- A text in base 64. -/
def base64Of (s : Text) : Except EncodingFault Text :=
  s.utf8.map fun bytes => ofChars (base64 (bytes.map (·.toNat)))

/-- Whether a byte stands for itself in an address. -/
def isPlainByte (safe : List Char) (n : Nat) : Bool :=
  let c := Char.ofNat n
  n < 0x80 && (c.isAlphanum || ['_', '.', '-', '~'].contains c || safe.contains c)

/-- A byte in the percent form. -/
def percentByte (safe : List Char) (n : Nat) : List CodePoint :=
  if isPlainByte safe n then [Char.ofNat n] else .char '%' :: (hexDigits 2 n).map (·.toUpper)

/-- A text in the percent form, in which the `safe` characters stand for themselves too. -/
def percentOf (safe : List Char) (s : Text) : Except EncodingFault Text :=
  s.utf8.map fun bytes => Text.ofList (bytes.flatMap (percentByte safe ·.toNat))

theorem length_base64 (bytes : List Nat) :
    (base64 bytes).length = (bytes.length + 2) / 3 * 4 := by
  fun_induction base64 bytes with
  | case1 => rfl
  | case2 => simp
  | case3 => simp
  | case4 a b c rest ih =>
    simp only [List.length_cons, ih]
    omega

end FamilyDesign.Text
