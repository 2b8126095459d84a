import FamilyDesign.Json.Writer
import Mathlib.Data.List.Count

/-!
# Where texts break

How many newlines a text has, and with that how many lines. A literal and the notation of a number
have none, whatever they stand for, so a line made of them stays one line.

* **`Text.breaks`** — the newlines of a text, with one law per way to put texts together.
* **`breaks_jsonQuote`**, **`breaks_natural`**, **`breaks_intText`** — what never breaks.
* **`length_pieces_joinWith`** — texts that are joined by newlines have a line each, and one more
  for every break in one of them.
-/

namespace FamilyDesign

/-! ## Notations of numbers -/

namespace Numeric

/-- A character that the notation of a number may have. -/
def isNotation (c : Char) : Bool :=
  c.isDigit || ['-', '+', '.', 'e', 'i', 'n', 'f', 'a'].contains c

theorem isNotation_of_mem_decimalDigits {n : Nat} {c : Char} (h : c ∈ decimalDigits n) :
    isNotation c = true := by
  simp [isNotation, Nat.isDigit_of_mem_toDigits (by decide) (by decide) h]

theorem isNotation_of_mem_exponentMark {e : Int} {c : Char} (h : c ∈ exponentMark e) :
    isNotation c = true := by
  unfold exponentMark at h
  simp only [List.mem_cons] at h
  rcases h with rfl | rfl | h
  · rfl
  · split <;> rfl
  · split at h
    · rcases List.mem_cons.mp h with rfl | h
      · rfl
      · exact isNotation_of_mem_decimalDigits h
    · exact isNotation_of_mem_decimalDigits h

/-- A number with an exponent is written in notation characters. -/
theorem isNotation_of_mem_scientific {d : Decimal} {c : Char} (h : c ∈ d.scientific) :
    isNotation c = true := by
  have hdigits : ∀ c ∈ decimalDigits d.digits, isNotation c = true := fun c hc =>
    isNotation_of_mem_decimalDigits hc
  unfold Decimal.scientific at h
  generalize decimalDigits d.digits = ds at h hdigits
  match ds with
  | [] => exact isNotation_of_mem_exponentMark h
  | [digit] =>
    rcases List.mem_cons.mp h with rfl | h
    · exact hdigits c (by simp)
    · exact isNotation_of_mem_exponentMark h
  | first :: second :: rest =>
    simp only [List.mem_cons, List.mem_append] at h
    rcases h with rfl | rfl | (h | h) | h
    · exact hdigits c (by simp)
    · rfl
    · exact hdigits c (by simp [h])
    · exact hdigits c (by simp [h])
    · exact isNotation_of_mem_exponentMark h

theorem isNotation_of_mem_positional {d : Decimal} {c : Char} (h : c ∈ d.positional) :
    isNotation c = true := by
  -- what stands around the point is taken from the digits, with zeros ahead or behind
  have hzeros : ∀ count, c ∈ List.replicate count '0' → isNotation c = true := by
    intro count hc
    rw [List.eq_of_mem_replicate hc]
    rfl
  unfold Decimal.positional at h
  dsimp only at h
  split at h
  · rcases List.mem_append.mp h with h | h
    · exact isNotation_of_mem_decimalDigits h
    · exact hzeros _ h
  · have hpadded : ∀ count, c ∈ List.replicate count '0' ++ decimalDigits d.digits →
        isNotation c = true := by
      intro count hc
      rcases List.mem_append.mp hc with hc | hc
      · exact hzeros _ hc
      · exact isNotation_of_mem_decimalDigits hc
    rcases List.mem_append.mp h with h | h
    · exact hpadded _ (List.mem_of_mem_take h)
    · rcases List.mem_cons.mp h with rfl | h
      · rfl
      · exact hpadded _ (List.mem_of_mem_drop h)

theorem isNotation_of_mem_naturalDigits {d : Decimal} {c : Char}
    (h : c ∈ Binary64.naturalDigits d) : isNotation c = true := by
  unfold Binary64.naturalDigits at h
  split at h
  · exact isNotation_of_mem_scientific h
  · split at h
    · rcases List.mem_append.mp h with h | h
      · exact isNotation_of_mem_positional h
      · simp only [List.mem_cons, List.not_mem_nil, or_false] at h
        rcases h with rfl | rfl <;> rfl
    · exact isNotation_of_mem_positional h

/-- **Every number is written in notation characters**, infinities and undefined ones included. -/
theorem isNotation_of_mem_natural {x : Binary64} {c : Char} (h : c ∈ x.natural.toList) :
    isNotation c = true := by
  unfold Binary64.natural Binary64.signed at h
  cases x with
  | nan shared =>
    have hword : "nan".toList = ['n', 'a', 'n'] := String.toList_ofList
    simp only [hword, List.mem_cons, List.not_mem_nil, or_false] at h
    rcases h with rfl | rfl | rfl <;> rfl
  -- A sign, then infinity in its own letters, or zero, or the digits.
  | ranked negative rank bound =>
    simp only [String.toList_ofList, List.mem_append] at h
    rcases h with h | h
    · split at h
      · rw [List.mem_singleton.mp h]
        rfl
      · cases h
    · split at h
      · simp only [List.mem_cons, List.not_mem_nil, or_false] at h
        rcases h with rfl | rfl | rfl <;> rfl
      · split at h
        · simp only [List.mem_cons, List.not_mem_nil, or_false] at h
          rcases h with rfl | rfl | rfl <;> rfl
        · exact isNotation_of_mem_naturalDigits h

theorem isNotation_of_mem_intText {n : Int} {c : Char} (h : c ∈ (intText n).toList) :
    isNotation c = true := by
  simp only [intText, String.toList_ofList, List.mem_append] at h
  rcases h with h | h
  · split at h
    · rw [List.mem_singleton.mp h]
      rfl
    · cases h
  · exact isNotation_of_mem_decimalDigits h

end Numeric

/-! ## Breaks -/

namespace Text

-- Sums start from the zero of the core library, whatever algebra is imported beside this module.
attribute [local instance (1100)] Zero.ofOfNat0

/-- How many newlines a text has. -/
def breaks (s : Text) : Nat := s.toList.count (.char '\n')

@[simp] theorem breaks_append (s t : Text) : (s ++ t).breaks = s.breaks + t.breaks :=
  List.count_append

theorem breaks_ofString (s : String) : (ofString s).breaks = s.toList.count '\n' :=
  List.count_map_of_injective s.toList CodePoint.char (fun _ _ => CodePoint.char.inj) '\n'

theorem breaks_eq_zero_iff {s : Text} : s.breaks = 0 ↔ CodePoint.char '\n' ∉ s.toList :=
  List.count_eq_zero

/-- A string without the byte of a newline has no newline. The bytes of a literal are at hand, while
its characters have to be decoded. -/
theorem breaks_literal {s : String} (h : s.toByteArray.data.toList.contains 10 = false) :
    (ofString s).breaks = 0 := by
  rw [breaks_ofString, List.count_eq_zero]
  intro hbreak
  have hbytes : s.toByteArray.data.toList = s.toList.flatMap String.utf8EncodeChar := by
    rw [← String.utf8Encode_toList, List.utf8Encode]
    simp
  have hmem : (10 : UInt8) ∈ s.toByteArray.data.toList := by
    rw [hbytes]
    exact List.mem_flatMap.mpr ⟨'\n', hbreak, by decide⟩
  rw [List.contains_iff_mem.mpr hmem] at h
  cases h

/-- The notation of a number has no newline. -/
theorem breaks_of_isNotation {s : String} (h : ∀ c ∈ s.toList, Numeric.isNotation c = true) :
    (ofString s).breaks = 0 := by
  rw [breaks_ofString, List.count_eq_zero]
  intro hbreak
  exact absurd (h '\n' hbreak) (by decide)

@[simp] theorem breaks_natural (x : Numeric.Binary64) : (ofString x.natural).breaks = 0 :=
  breaks_of_isNotation fun _ => Numeric.isNotation_of_mem_natural

@[simp] theorem breaks_intText (n : Int) : (ofString (Numeric.intText n)).breaks = 0 :=
  breaks_of_isNotation fun _ => Numeric.isNotation_of_mem_intText

/-! ## Literals -/

theorem hexDigit_ne_newline (n : Nat) : hexDigit n ≠ CodePoint.char '\n' := by
  have h : ∀ digit < 16, Char.ofNat (if digit < 10 then '0'.toNat + digit
      else 'a'.toNat + (digit - 10)) ≠ '\n' := by decide
  exact fun heq => h (n % 16) (Nat.mod_lt n (by decide)) (CodePoint.char.inj heq)

/-- An escaped unit has no newline in it. -/
theorem newline_not_mem_unitEscape (n : Nat) : CodePoint.char '\n' ∉ unitEscape n := by
  unfold unitEscape hexDigits
  simp only [List.mem_cons, List.mem_map, CodePoint.char.injEq, not_or]
  refine ⟨by decide, by decide, ?_⟩
  rintro ⟨i, -, hi⟩
  exact hexDigit_ne_newline _ hi

/-- Whatever is escaped has no newline left in it. -/
theorem newline_not_mem_jsonEscapeChar (c : CodePoint) :
    CodePoint.char '\n' ∉ jsonEscapeChar c := by
  unfold jsonEscapeChar
  split
  iterate 5 simp
  -- a character that stands for itself is no newline, being at least a blank
  dsimp only
  split
  · simp
  split
  · simp
  split
  · next hprintable =>
    intro h
    rw [← List.mem_singleton.mp h] at hprintable
    exact absurd hprintable (by decide)
  · unfold unitEscapes
    dsimp only
    split
    · exact newline_not_mem_unitEscape _
    · rw [List.mem_append, not_or]
      exact ⟨newline_not_mem_unitEscape _, newline_not_mem_unitEscape _⟩

/-- A literal stays on one line, whatever text it stands for. -/
@[simp] theorem breaks_jsonQuote (s : Text) : (jsonQuote s).breaks = 0 := by
  rw [breaks_eq_zero_iff]
  show CodePoint.char '\n' ∉ jsonQuoted s.toList
  unfold jsonQuoted
  simp only [List.mem_cons, List.mem_append, List.mem_flatMap, CodePoint.char.injEq,
    List.not_mem_nil, or_false, not_or]
  refine ⟨by decide, ?_, by decide⟩
  rintro ⟨c, -, hc⟩
  exact newline_not_mem_jsonEscapeChar c hc

/-! ## Lists of lines -/

/-- How many newlines the texts of a list have together. -/
def totalBreaks (lines : List Text) : Nat := (lines.map breaks).sum

@[simp] theorem totalBreaks_nil : totalBreaks [] = 0 := rfl

@[simp] theorem totalBreaks_cons (line : Text) (lines : List Text) :
    totalBreaks (line :: lines) = line.breaks + totalBreaks lines := by
  unfold totalBreaks
  rw [List.map_cons, List.sum_cons]

@[simp] theorem totalBreaks_append (lines lines' : List Text) :
    totalBreaks (lines ++ lines') = totalBreaks lines + totalBreaks lines' := by
  simp [totalBreaks]

theorem totalBreaks_map {α : Type} (items : List α) (f : α → Text) :
    totalBreaks (items.map f) = (items.map fun x => (f x).breaks).sum := by
  simp [totalBreaks, Function.comp_def]

theorem totalBreaks_flatten (parts : List (List Text)) :
    totalBreaks parts.flatten = (parts.map totalBreaks).sum := by
  induction parts with
  | nil => rfl
  | cons part rest ih => simp [ih]

/-- The breaks of the lines of all items add up, item by item. -/
theorem totalBreaks_flatMap {α : Type} (items : List α) (f : α → List Text) :
    totalBreaks (items.flatMap f) = (items.map fun x => totalBreaks (f x)).sum := by
  rw [List.flatMap_def, totalBreaks_flatten, List.map_map]
  rfl

/-- Lines without breaks have none together. -/
theorem totalBreaks_eq_zero {lines : List Text} (h : ∀ line ∈ lines, line.breaks = 0) :
    totalBreaks lines = 0 := by
  induction lines with
  | nil => rfl
  | cons line rest ih =>
    rw [totalBreaks_cons, h line List.mem_cons_self, ih fun l hl => h l (List.mem_cons_of_mem _ hl)]

theorem joinWith_cons_cons (separator first second : Text) (rest : List Text) :
    joinWith separator (first :: second :: rest) =
      first ++ separator ++ joinWith separator (second :: rest) := by
  show Text.ofList _ = Text.ofList _
  simp [joinWith, List.intercalate]

/-- A joined text has the breaks of its lines and of the separators between them. -/
theorem breaks_joinWith (separator : Text) (first : Text) (rest : List Text) :
    (joinWith separator (first :: rest)).breaks =
      totalBreaks (first :: rest) + rest.length * separator.breaks := by
  induction rest generalizing first with
  | nil => simp [joinWith, breaks, List.intercalate]
  | cons second rest ih =>
    rw [joinWith_cons_cons, breaks_append, breaks_append, ih, List.length_cons, Nat.succ_mul]
    simp only [totalBreaks_cons]
    omega

/-- Texts joined by newlines have a line each, and one more for every break in one of them. -/
theorem length_pieces_joinWith {lines : List Text} (h : lines ≠ []) :
    (pieces (.char '\n') (joinWith "\n" lines).toList).length =
      lines.length + totalBreaks lines := by
  obtain ⟨first, rest, rfl⟩ := List.exists_cons_of_ne_nil h
  have hnewline : (ofString "\n").breaks = 1 := by decide
  have hcount := breaks_joinWith "\n" first rest
  rw [hnewline, Nat.mul_one] at hcount
  rw [length_pieces, List.length_cons]
  show (joinWith "\n" (first :: rest)).breaks + 1 = _
  omega

end Text

end FamilyDesign
