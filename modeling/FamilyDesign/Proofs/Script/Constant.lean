import FamilyDesign.Script.Literal
import FamilyDesign.Proofs.Numeric.ReadBack

/-!
# What a literal stands for

Where a script is run its literals are read: a word for a truth value, an integer or a real number
behind an optional minus, or a text in double quotes. These are the notations that scripts use, of
those that their language has. What is written as a number or as a truth value is read as the same;
an infinite number is written as a name, which is no literal. In a text each escape is read as a
code point of its own, so one beyond 16 bits, being written as two halves, does not come back.

* **`Constant.read`** — the constant that a literal stands for.
* **`read_intText`**, **`read_natural`**, **`read_truthLiteral`** — what is written is read back.
* **`read_quote`** — of a text too, but for code points in halves.
* **`flatMap_halves_eq_iff`** — the texts that come back.
-/

namespace FamilyDesign.Script

open Numeric (Binary64)

/-- A constant in a script. -/
inductive Constant
  | truth (b : Bool)
  | int (n : Int)
  | real (x : Binary64)
  | text (s : Text)
deriving DecidableEq

/-! ## The reader -/

/-- The character that a backslash and a letter stand for. -/
def escaped? (letter : CodePoint) : Option CodePoint :=
  match letter with
  | '"' => some '"'
  | '\\' => some '\\'
  | 'b' => some (CodePoint.ofNat 0x08)
  | 'f' => some (CodePoint.ofNat 0x0C)
  | 'n' => some '\n'
  | 'r' => some '\r'
  | 't' => some '\t'
  | _ => none

/-- The code point of four hexadecimal digits. It may be half of a surrogate pair, and stays one
whatever stands beside it. -/
def unit? (a b c d : CodePoint) : Option CodePoint := do
  let a ← Text.hexValue? a
  let b ← Text.hexValue? b
  let c ← Text.hexValue? c
  let d ← Text.hexValue? d
  some (CodePoint.ofNat (((a * 16 + b) * 16 + c) * 16 + d))

/-- What a text literal holds, given what follows its opening quote. -/
def readQuoted : List CodePoint → Option (List CodePoint)
  | [] => none
  | c :: rest =>
    if c = '"' then (if rest.isEmpty then some [] else none)
    else if c = '\\' then
      match rest with
      | [] => none
      | letter :: rest =>
        if letter = 'u' then
          match rest with
          | a :: b :: c :: d :: rest => do
            let unit ← unit? a b c d
            (readQuoted rest).map (unit :: ·)
          | _ => none
        else do
          let decoded ← escaped? letter
          (readQuoted rest).map (decoded :: ·)
    else if c = '\n' ∨ c = '\r' then none
    else (readQuoted rest).map (c :: ·)

/-- A number behind its sign. An integer is digits alone, the first of them no zero if there are
more. -/
def readNumber (negative : Bool) (cs : List CodePoint) : Option Constant :=
  if cs.all CodePoint.isDigit then
    if cs.isEmpty || (cs.length != 1 && cs.head? == some (.char '0')) then none
    else some (.int (Numeric.signed negative (Numeric.spell 0 cs)))
  else (Numeric.readMagnitude negative cs).map .real

/-- The constant that a literal stands for; a text that is no literal has none. -/
def Constant.read (s : Text) : Option Constant :=
  match s.toList with
  | '"' :: rest => (readQuoted rest).map fun cs => .text (Text.ofList cs)
  | '-' :: rest => readNumber true rest
  | cs =>
    if s = "True" then some (.truth true)
    else if s = "False" then some (.truth false)
    else readNumber false cs

/-! ## Truth values and integers -/

theorem read_truthLiteral (b : Bool) : Constant.read (truthLiteral b) = some (.truth b) := by
  cases b <;> rfl

/-- What starts with a digit or a point is a number without a sign. -/
theorem read_of_start {s : Text} {c : CodePoint} {rest : List CodePoint} (h : s.toList = c :: rest)
    (hc : c.isDigit = true ∨ c = .char '.') : Constant.read s = readNumber false s.toList := by
  have hne : ∀ mark : Char, (CodePoint.char mark).isDigit = false → mark ≠ '.' →
      c ≠ .char mark := by
    rintro mark hmark hpoint rfl
    rcases hc with hdigit | hc
    · rw [hmark] at hdigit
      cases hdigit
    · exact hpoint (CodePoint.char.inj hc)
  -- The words start with letters, so the text is none of them.
  have hword : ∀ {word : Text} (mark : Char) {tail : List CodePoint},
      word.toList = .char mark :: tail → (CodePoint.char mark).isDigit = false → mark ≠ '.' →
        s ≠ word := by
    rintro word mark tail hword hmark hpoint rfl
    rw [hword] at h
    exact hne mark hmark hpoint (List.cons.inj h).1.symm
  have htrue : s ≠ "True" := hword 'T' rfl rfl (by decide)
  have hfalse : s ≠ "False" := hword 'F' rfl rfl (by decide)
  unfold Constant.read
  split
  · next heq =>
    rw [h] at heq
    exact absurd (List.cons.inj heq).1 (hne '"' rfl (by decide))
  · next heq =>
    rw [h] at heq
    exact absurd (List.cons.inj heq).1 (hne '-' rfl (by decide))
  · rw [if_neg htrue, if_neg hfalse]

/-- Digits are read as an integer. -/
theorem readNumber_digitPoints (negative : Bool) (n : Nat) :
    readNumber negative (Numeric.digitPoints n) = some (.int (Numeric.signed negative n)) := by
  have hall : (Numeric.digitPoints n).all CodePoint.isDigit = true :=
    List.all_eq_true.mpr fun c => Numeric.isDigit_of_mem_digitPoints
  have hempty : (Numeric.digitPoints n).isEmpty = false :=
    List.isEmpty_eq_false_iff.mpr (Numeric.digitPoints_ne_nil n)
  have hzero : ((Numeric.digitPoints n).length != 1
      && (Numeric.digitPoints n).head? == some (.char '0')) = false := by
    by_cases hn : n = 0
    · rw [hn]
      rfl
    · rw [beq_eq_false_iff_ne.mpr (Numeric.head?_digitPoints hn), Bool.and_false]
  unfold readNumber
  rw [if_pos hall, hempty, hzero, Numeric.spell_digitPoints]
  rfl

/-- An integer is read as it is written. -/
theorem read_intText (n : Int) : Constant.read (Numeric.intText n) = some (.int n) := by
  have htext : (Numeric.intText n : Text).toList
      = (if n < 0 then [.char '-'] else []) ++ Numeric.digitPoints n.natAbs := by
    unfold Numeric.intText Numeric.digitPoints
    rw [Text.toList_ofString, String.toList_ofList, List.map_append, apply_ite (List.map _)]
    rfl
  -- The minus is read apart, and the digits behind it as a magnitude.
  by_cases hneg : n < 0
  · rw [if_pos hneg] at htext
    unfold Constant.read
    rw [htext]
    show readNumber true (Numeric.digitPoints n.natAbs) = _
    rw [readNumber_digitPoints]
    show some (Constant.int (-(n.natAbs : Int))) = _
    rw [Int.ofNat_natAbs_of_nonpos (Int.le_of_lt hneg), Int.neg_neg]
  · rw [if_neg hneg, List.nil_append] at htext
    obtain ⟨c, rest, hcs⟩ := List.exists_cons_of_ne_nil (Numeric.digitPoints_ne_nil n.natAbs)
    have hdigit : c.isDigit = true :=
      Numeric.isDigit_of_mem_digitPoints (hcs ▸ List.mem_cons_self)
    rw [read_of_start (htext.trans hcs) (.inl hdigit), htext, readNumber_digitPoints]
    show some (Constant.int (n.natAbs : Int)) = _
    rw [Int.natAbs_of_nonneg (by omega)]

/-! ## Real numbers -/

/-- What is read as a magnitude starts with a digit or a point. -/
theorem exists_start_of_readMagnitude {negative : Bool} {cs : List CodePoint} {x : Binary64}
    (h : Numeric.readMagnitude negative cs = some x) :
    ∃ c rest, cs = c :: rest ∧ (c.isDigit = true ∨ c = .char '.') := by
  cases cs with
  | nil => cases h
  | cons c rest =>
    refine ⟨c, rest, rfl, ?_⟩
    by_contra hno
    push Not at hno
    unfold Numeric.readMagnitude at h
    dsimp only at h
    rw [List.takeWhile_cons_of_neg (by simpa using hno.1),
      List.dropWhile_cons_of_neg (by simpa using hno.1)] at h
    split at h
    · next heq => exact hno.2 (List.cons.inj heq).1
    · cases h

/-- A magnitude in writing is read as the number it came from. -/
theorem readNumber_magnitude (negative : Bool) {rank : Nat} {bounded : rank ≤ Numeric.infinityRank}
    (h : rank < Numeric.infinityRank) :
    readNumber negative ((Binary64.magnitude rank).map .char)
      = some (.real (.ranked negative rank bounded)) := by
  obtain ⟨c, hc, hmark⟩ := Binary64.exists_mark_magnitude rank
  have hall : ((Binary64.magnitude rank).map CodePoint.char).all CodePoint.isDigit = false := by
    rw [List.all_eq_false]
    exact ⟨c, hc, by rw [hmark]; exact Bool.false_ne_true⟩
  unfold readNumber
  rw [hall, if_neg Bool.false_ne_true, Binary64.readMagnitude_magnitude negative h]
  rfl

/-- A finite number is read as it is written, the sign of a zero included. -/
theorem read_natural {x : Binary64} (h : x.isFinite = true) :
    Constant.read x.natural = some (.real x) := by
  cases x with
  | nan shared => cases h
  | ranked negative rank bounded =>
    have hrank : rank < Numeric.infinityRank := Nat.lt_of_le_of_ne bounded (bne_iff_ne.mp h)
    have hchars : (Binary64.ranked negative rank bounded).natural.toList = _ :=
      Binary64.toList_natural hrank
    have htext := congrArg (List.map CodePoint.char) hchars
    rw [← Text.toList_ofString, List.map_append] at htext
    -- With a minus the number is read behind it; without one it opens with a digit.
    cases negative with
    | true =>
      unfold Constant.read
      rw [htext]
      exact readNumber_magnitude true hrank
    | false =>
      have hread : Numeric.readMagnitude false _ = some (.ranked false rank bounded) :=
        Binary64.readMagnitude_magnitude false hrank
      obtain ⟨c, rest, hcs, hstart⟩ := exists_start_of_readMagnitude hread
      have htext' : (Text.ofString (Binary64.ranked false rank bounded).natural).toList
          = (Binary64.magnitude rank).map .char := htext
      rw [read_of_start (htext'.trans hcs) hstart, htext']
      exact readNumber_magnitude false hrank

/-- The notation of infinity is a name. -/
theorem read_natural_of_isInfinite {x : Binary64} (h : x.isInfinite = true) :
    Constant.read x.natural = none := by
  cases x with
  | nan shared => cases h
  | ranked negative rank bounded =>
    have hrank : rank = Numeric.infinityRank := beq_iff_eq.mp h
    have htext : (Binary64.ranked negative rank bounded).natural
        = String.ofList ((if negative then ['-'] else []) ++ ['i', 'n', 'f']) := by
      unfold Binary64.natural Binary64.signed
      dsimp only
      rw [if_pos hrank]
    rw [htext]
    cases negative <;> rfl

/-! ## Texts -/

/-- A code point as it comes back from a text literal: one beyond 16 bits in halves. -/
def halves (c : CodePoint) : List CodePoint :=
  let n := c.toNat
  if n < 0x10000 then [c]
  else [CodePoint.ofNat (0xD800 + (n - 0x10000) / 0x400),
    CodePoint.ofNat (0xDC00 + (n - 0x10000) % 0x400)]

/-- Within 16 bits a code point is one unit. -/
theorem halves_of_lt {c : CodePoint} (h : c.toNat < 0x10000) : halves c = [c] := if_pos h

theorem hexValue?_hexDigit (n : Nat) : Text.hexValue? (Text.hexDigit n) = some (n % 16) := by
  have h : ∀ digit < 16, Text.hexValue? (.char (Char.ofNat (if digit < 10 then '0'.toNat + digit
      else 'a'.toNat + (digit - 10)))) = some digit := by decide
  exact h (n % 16) (Nat.mod_lt n (by decide))

section Reading

variable {rest : List CodePoint}

/-- An escape of one letter is read as what it stands for. -/
theorem readQuoted_escaped {letter c : CodePoint} (hletter : letter ≠ .char 'u')
    (h : escaped? letter = some c) :
    readQuoted (.char '\\' :: letter :: rest) = (readQuoted rest).map (c :: ·) := by
  rw [readQuoted.eq_def]
  dsimp only
  rw [if_neg (by decide), if_pos rfl, if_neg hletter, h]
  rfl

/-- Four digits are read as the unit that they were made of. -/
theorem readQuoted_unitEscape {n : Nat} (h : n < 0x10000) :
    readQuoted (Text.unitEscape n ++ rest) = (readQuoted rest).map (CodePoint.ofNat n :: ·) := by
  have hunit : unit? (Text.hexDigit (n >>> 12)) (Text.hexDigit (n >>> 8)) (Text.hexDigit (n >>> 4))
      (Text.hexDigit (n >>> 0)) = some (CodePoint.ofNat n) := by
    unfold unit?
    simp only [hexValue?_hexDigit, Nat.shiftRight_eq_div_pow]
    show some (CodePoint.ofNat _) = _
    congr 2
    omega
  show readQuoted (.char '\\' :: .char 'u' :: Text.hexDigit (n >>> 12) :: Text.hexDigit (n >>> 8)
    :: Text.hexDigit (n >>> 4) :: Text.hexDigit (n >>> 0) :: rest) = _
  rw [readQuoted, if_neg (by decide), if_pos rfl, if_pos rfl, hunit]
  rfl

/-- Escaped units are read as the halves they stand for. -/
theorem readQuoted_unitEscapes (c : CodePoint) :
    readQuoted (Text.unitEscapes c ++ rest) = (readQuoted rest).map (halves c ++ ·) := by
  have hbound := c.toNat_lt
  unfold Text.unitEscapes halves
  dsimp only
  split
  · next h =>
    rw [readQuoted_unitEscape h, CodePoint.ofNat_toNat]
    rfl
  · rw [List.append_assoc, readQuoted_unitEscape (by omega), readQuoted_unitEscape (by omega),
      Option.map_map]
    rfl

/-- A character that stands for itself. -/
theorem readQuoted_plain {c : CodePoint} (hquote : c ≠ .char '"') (hslash : c ≠ .char '\\')
    (hprintable : 0x20 ≤ c.toNat) :
    readQuoted (c :: rest) = (readQuoted rest).map (c :: ·) := by
  have hbreak : ¬(c = .char '\n' ∨ c = .char '\r') := by
    rintro (rfl | rfl)
    · exact absurd hprintable (by decide)
    · exact absurd hprintable (by decide)
  rw [readQuoted.eq_def]
  dsimp only
  rw [if_neg hquote, if_neg hslash, if_neg hbreak]

/-- What is written of a code point is read as its halves, or as itself. The cases are those of the
writer. -/
theorem readQuoted_jsonEscapeChar (c : CodePoint) :
    readQuoted (Text.jsonEscapeChar c ++ rest) = (readQuoted rest).map (halves c ++ ·) := by
  have hnumber : ∀ {n : Nat}, c.toNat = n → n < 0x10000 →
      halves c = [CodePoint.ofNat n] := by
    rintro n rfl hn
    rw [halves_of_lt hn, CodePoint.ofNat_toNat]
  unfold Text.jsonEscapeChar
  split
  · exact readQuoted_escaped (by decide) rfl
  · exact readQuoted_escaped (by decide) rfl
  · exact readQuoted_escaped (by decide) rfl
  · exact readQuoted_escaped (by decide) rfl
  · exact readQuoted_escaped (by decide) rfl
  · -- Backspace and form feed next, then what is written as itself, then all in escapes.
    next hquote hslash _ _ _ =>
    dsimp only
    split
    · next hn =>
      rw [hnumber hn (by decide)]
      exact readQuoted_escaped (by decide) rfl
    · split
      · next hn =>
        rw [hnumber hn (by decide)]
        exact readQuoted_escaped (by decide) rfl
      · split
        · next hn =>
          rw [halves_of_lt (by omega)]
          exact readQuoted_plain hquote hslash hn.1
        · exact readQuoted_unitEscapes c

/-- Induction along the text. -/
theorem readQuoted_flatMap (cs : List CodePoint) :
    readQuoted (cs.flatMap Text.jsonEscapeChar ++ [.char '"']) = some (cs.flatMap halves) := by
  induction cs with
  | nil => rfl
  | cons c rest ih =>
    rw [List.flatMap_cons, List.flatMap_cons, List.append_assoc, readQuoted_jsonEscapeChar, ih]
    rfl

end Reading

/-- A text comes back with its code points beyond 16 bits in halves. -/
theorem read_quote (s : Text) :
    Constant.read (quote s) = some (.text (Text.ofList (s.toList.flatMap halves))) := by
  show (readQuoted (s.toList.flatMap Text.jsonEscapeChar ++ [.char '"'])).map
    (fun cs => Constant.text (Text.ofList cs)) = _
  rw [readQuoted_flatMap]
  rfl

/-- A code point is one unit or two. -/
theorem length_halves (c : CodePoint) :
    (halves c).length = if c.toNat < 0x10000 then 1 else 2 := by
  unfold halves
  dsimp only
  split <;> rfl

/-- In units a text is no shorter. -/
theorem length_le_flatMap_halves (cs : List CodePoint) :
    cs.length ≤ (cs.flatMap halves).length := by
  induction cs with
  | nil => exact Nat.le_refl 0
  | cons c rest ih =>
    rw [List.flatMap_cons, List.length_append, List.length_cons, length_halves]
    split <;> omega

/-- The texts that come back are those within 16 bits: halves are longer. -/
theorem flatMap_halves_eq_iff {cs : List CodePoint} :
    cs.flatMap halves = cs ↔ ∀ c ∈ cs, c.toNat < 0x10000 := by
  induction cs with
  | nil => exact ⟨fun _ => nofun, fun _ => rfl⟩
  | cons c rest ih =>
    rw [List.flatMap_cons, List.forall_mem_cons, ← ih]
    by_cases hc : c.toNat < 0x10000
    · rw [halves_of_lt hc, List.singleton_append, List.cons.injEq]
      exact ⟨fun h => ⟨hc, h.2⟩, fun h => ⟨rfl, h.2⟩⟩
    · constructor
      · intro h
        have hlength := congrArg List.length h
        rw [List.length_append, length_halves, if_neg hc, List.length_cons] at hlength
        have := length_le_flatMap_halves rest
        omega
      · rintro ⟨h, -⟩
        exact absurd h hc

end FamilyDesign.Script
