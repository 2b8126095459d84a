import FamilyDesign.Proofs.Formula.Scanning
import FamilyDesign.Proofs.Numeric.ReadBack
import FamilyDesign.Proofs.Prompt.Matching

/-!
# The quantities in a prompt

A prompt falls into tokens without loss, and a search from the left, which passes over the tokens of
each quantity that it finds, misses none: a unit is no number, and neither is a hyphen. Only words
and marks name units, so it does not matter that the search looks at the kinds of tokens first.

* **`exists_freeReal`** — digits, and a point with digits behind it, spell a number.
* **`exists_name_of_parse?`** — a unit is named by characters of a text in lower case, in their
  order.
* **`flatMap_tokenize`** — the texts of the tokens are the prompt in lower case without its blanks.
* **`isUnit_iff`** — the tokens that are units.
* **`mem_quantities_iff`** — the quantities without a search: a number and a unit right behind it,
  or behind one hyphen.
* **`tokenize_quantities`** — the headline: tokens are lossless, quantities complete, and each has a
  known unit.
-/

namespace FamilyDesign

/-! ## Lists without what is stripped -/

namespace Text

/-- Where nothing is to be stripped the list stays. -/
theorem stripWhile_of_forall {α : Type} {p : α → Bool} {xs : List α} (h : ∀ x ∈ xs, p x = false) :
    stripWhile p xs = xs := by
  have hkeep : ∀ {ys : List α}, (∀ x ∈ ys, p x = false) → ys.dropWhile p = ys := by
    intro ys hys
    cases ys with
    | nil => rfl
    | cons y ys => exact List.dropWhile_cons_of_neg (by simp [hys y List.mem_cons_self])
  unfold stripWhile dropRightWhile
  rw [hkeep h, hkeep fun x hx => h x (List.mem_reverse.mp hx), List.reverse_reverse]

theorem dropRightWhile_sublist {α : Type} (p : α → Bool) (xs : List α) :
    (dropRightWhile p xs).Sublist xs := by
  unfold dropRightWhile
  rw [← List.reverse_sublist, List.reverse_reverse]
  exact List.dropWhile_sublist p

theorem stripWhile_sublist {α : Type} (p : α → Bool) (xs : List α) :
    (stripWhile p xs).Sublist xs :=
  (dropRightWhile_sublist p _).trans (List.dropWhile_sublist p)

/-! ## What becomes ASCII in lower case -/

variable {c d : CodePoint}

/-- Beyond ASCII only the Kelvin sign has a lower case of one character in ASCII. -/
theorem le_toNat_mapCase (h : 0x80 ≤ c.toNat) :
    97 ≤ (mapCase lowerRuns c).toNat ∧
      (0x80 ≤ (mapCase lowerRuns c).toNat ∨ c.toNat = 0x212A) := by
  have himage : ∀ run ∈ lowerRuns,
      97 ≤ run.first + run.shift ∧ run.last + run.shift < 0x110000 ∧
        (0x80 ≤ run.first + run.shift ∨ run.first = 0x212A ∧ run.last = 0x212A) := by
    decide +kernel
  unfold mapCase
  split
  · next n hmapped =>
    obtain ⟨run, hrun, hmap⟩ := List.exists_of_findSome?_eq_some hmapped
    obtain ⟨hletter, hbound, hbeyond⟩ := himage run hrun
    unfold CaseRun.map? at hmap
    split at hmap
    · next hlisted =>
      simp only [Bool.and_eq_true, decide_eq_true_iff] at hlisted
      rw [← Option.some.inj hmap, CodePoint.toNat_ofNat (by omega)]
      omega
    · cases hmap
  · omega

/-- What becomes a character of ASCII belongs to ASCII itself, except for two capitals that become
letters. -/
theorem of_mem_lowerChar (hd : d ∈ lowerChar c) (hascii : d.toNat < 0x80) :
    c.toNat < 0x80 ∧ d = c.toLower ∨
      (c.toNat = 0x130 ∨ c.toNat = 0x212A) ∧ 97 ≤ d.toNat := by
  unfold lowerChar at hd
  split at hd
  · next hlt => exact .inl ⟨hlt, List.mem_singleton.mp hd⟩
  · next hge =>
    split at hd
    · next hdotted =>
      rcases List.mem_cons.mp hd with rfl | hmem
      · exact .inr ⟨.inl hdotted, by decide⟩
      · rw [List.mem_singleton.mp hmem] at hascii
        exact absurd hascii (by decide)
    · rw [List.mem_singleton.mp hd] at hascii ⊢
      have hbeyond := le_toNat_mapCase (Nat.not_lt.mp hge)
      omega

/-- An ASCII character of a lowered text comes from one character of the text. -/
theorem of_mem_lowerAfter {before cs : List CodePoint} (hd : d ∈ lowerAfter before cs)
    (hascii : d.toNat < 0x80) : ∃ c ∈ cs, d ∈ lowerChar c := by
  induction cs generalizing before with
  | nil => cases hd
  | cons c cs ih =>
    unfold lowerAfter at hd
    rcases List.mem_append.mp hd with hfirst | hrest
    · split at hfirst
      · rw [List.mem_singleton.mp hfirst] at hascii
        unfold lowerSigma at hascii
        split at hascii <;> exact absurd hascii (by decide)
      · exact ⟨c, List.mem_cons_self, hfirst⟩
    · obtain ⟨c', hmem, hd⟩ := ih hrest
      exact ⟨c', List.mem_cons_of_mem _ hmem, hd⟩

/-- A character stays one, except the dotted capital. -/
theorem length_lower_singleton (h : c.toNat ≠ 0x130) : (lower (ofList [c])).toList.length = 1 := by
  show (lowerAfter [] [c]).length = 1
  unfold lowerAfter lowerAfter lowerChar
  split
  · rfl
  · split
    · rfl
    · rfl

/-- Lowering leaves a character or makes a small letter of it. -/
theorem toLower_eq_or (c : CodePoint) : c.toLower = c ∨ 97 ≤ c.toLower.toNat := by
  cases c with
  | half offset => exact .inl rfl
  | char c =>
    by_cases hcapital : 'A'.val ≤ c.val ∧ c.val ≤ 'Z'.val
    · right
      have hlow : 65 ≤ c.toNat := UInt32.le_iff_toNat_le.mp hcapital.1
      have hhigh : c.toNat ≤ 90 := UInt32.le_iff_toNat_le.mp hcapital.2
      have hlower : (CodePoint.char c).toLower.toNat = c.toNat + 32 := by
        show c.toLower.toNat = c.toNat + 32
        unfold Char.toLower
        rw [dif_pos hcapital]
        show (c.toNat + 32) % 2 ^ 32 = c.toNat + 32
        omega
      omega
    · left
      refine congrArg CodePoint.char ?_
      unfold Char.toLower
      exact dif_neg hcapital

end Text

/-! ## Names of units -/

namespace LengthUnit

/-- A text that names a unit has the letters of one of its names in it. -/
theorem exists_name_of_parse? {text : Text} {u : LengthUnit} (h : parse? text = some u) :
    ∃ name ∈ u.names, name.toList.Sublist (Text.lower text).toList := by
  unfold parse? ofName? at h
  have hname := List.find?_some h
  exact ⟨_, List.contains_iff_mem.mp hname,
    (Text.dropRightWhile_sublist _ _).trans (Text.stripWhile_sublist _ _)⟩

/-- A character of a mark or of a word for a unit. -/
def IsNamePart (c : CodePoint) : Prop := c = '\'' ∨ c = '"' ∨ 97 ≤ c.toNat ∧ c.toNat ≤ 122

/-- The names of units are in ASCII. -/
theorem toNat_of_isNamePart {c : CodePoint} (h : IsNamePart c) : c.toNat < 0x80 := by
  rcases h with rfl | rfl | h
  · decide
  · decide
  · omega

theorem isNamePart_of_mem (u : LengthUnit) : ∀ name ∈ u.names, ∀ c ∈ name.toList, IsNamePart c := by
  unfold IsNamePart
  cases u <;> decide +kernel

/-- A unit is named by a mark or by some letters. -/
theorem mark_or_length_of_mem (u : LengthUnit) : ∀ name ∈ u.names,
    name.toList = ['\''] ∨ name.toList = ['"'] ∨ 2 ≤ name.toList.length := by
  cases u <;> decide +kernel

/-- No character of a decimal is in a name. -/
theorem not_isNamePart_of_isPlainPart {c : CodePoint} (h : Numeric.IsPlainPart c) :
    ¬IsNamePart c := by
  rintro (rfl | rfl | hletter)
  · exact absurd h (by unfold Numeric.IsPlainPart; decide)
  · exact absurd h (by unfold Numeric.IsPlainPart; decide)
  · rcases h with hdigit | rfl
    · omega
    · exact absurd hletter (by decide)

/-- In ASCII the characters of a decimal are plain already. -/
theorem isPlainPart_of_ascii {c : CodePoint} (h : Numeric.IsDecimalPart c)
    (hascii : c.toNat < 0x80) : Numeric.IsPlainPart c := by
  refine h.imp_left fun hdecimal => ?_
  have hdigit : c.isDigit = true := by
    by_contra hdigit
    rw [Formula.isDecimalDigit_of_ascii hascii (Bool.eq_false_iff.mpr hdigit)] at hdecimal
    cases hdecimal
  have hbounds := Numeric.isDigit_iff.mp hdigit
  omega

/-- No character of a unit comes from a digit or a point. -/
theorem not_mem_lowerChar {c d : CodePoint} (hc : Numeric.IsDecimalPart c) (hd : IsNamePart d) :
    d ∉ Text.lowerChar c := by
  have hcapital : ∀ n, ¬Numeric.IsDecimalPart (.ofNat n) → c.toNat ≠ n := by
    rintro n hn rfl
    rw [CodePoint.ofNat_toNat] at hn
    exact hn hc
  intro hmem
  rcases Text.of_mem_lowerChar hmem (toNat_of_isNamePart hd) with
    ⟨hascii, rfl⟩ | ⟨hdotted | hkelvin, -⟩
  · have hplain := isPlainPart_of_ascii hc hascii
    rw [Numeric.toLower_of_isPlainPart hplain] at hd
    exact not_isNamePart_of_isPlainPart hplain hd
  · exact hcapital 0x130 (by unfold Numeric.IsDecimalPart; decide) hdotted
  · exact hcapital 0x212A (by unfold Numeric.IsDecimalPart; decide) hkelvin

/-- Digits and points name no unit. -/
theorem parse?_of_isDecimalPart {text : Text} (h : ∀ c ∈ text.toList, Numeric.IsDecimalPart c) :
    parse? text = none := by
  rw [Option.eq_none_iff_forall_not_mem]
  intro u hu
  obtain ⟨name, hname, hsublist⟩ := exists_name_of_parse? hu
  have hne : name.toList ≠ [] := by
    rcases mark_or_length_of_mem u name hname with hmark | hmark | hlength
    · rw [hmark]
      exact List.cons_ne_nil _ _
    · rw [hmark]
      exact List.cons_ne_nil _ _
    · exact List.ne_nil_of_length_pos (by omega)
  obtain ⟨d, hd⟩ := List.exists_mem_of_ne_nil _ hne
  have hpart := isNamePart_of_mem u name hname d hd
  obtain ⟨c, hc, hlower⟩ := Text.of_mem_lowerAfter (hsublist.subset hd) (toNat_of_isNamePart hpart)
  exact not_mem_lowerChar (h c hc) hpart hlower

/-- A single character names a unit only if it is a mark. -/
theorem parse?_singleton {c : CodePoint} (hfoot : c ≠ '\'') (hinch : c ≠ '"') :
    parse? (.ofList [c]) = none := by
  rw [Option.eq_none_iff_forall_not_mem]
  intro u hu
  by_cases hdotted : c.toNat = 0x130
  · have hnone : parse? (.ofList [.ofNat 0x130]) = none := by decide +kernel
    rw [← hdotted, CodePoint.ofNat_toNat] at hnone
    rw [hnone] at hu
    cases hu
  obtain ⟨name, hname, hsublist⟩ := exists_name_of_parse? hu
  have hlength := hsublist.length_le
  rw [Text.length_lower_singleton hdotted] at hlength
  -- only the marks become marks
  have hmark : ∀ mark : CodePoint, mark ≠ c → mark = '\'' ∨ mark = '"' → name.toList ≠ [mark] := by
    intro mark hne hmark heq
    have hmem : mark ∈ (Text.lower (.ofList [c])).toList :=
      hsublist.subset (heq ▸ List.mem_singleton_self mark)
    have hnat : mark.toNat = 39 ∨ mark.toNat = 34 := by
      rcases hmark with rfl | rfl
      · exact .inl rfl
      · exact .inr rfl
    obtain ⟨c', hc', hlower⟩ := Text.of_mem_lowerAfter hmem (by omega)
    rw [List.mem_singleton.mp hc'] at hlower
    rcases Text.of_mem_lowerChar hlower (by omega) with ⟨-, heq⟩ | ⟨-, hletter⟩
    · rcases Text.toLower_eq_or c with hsame | hletter
      · exact hne (heq.trans hsame)
      · rw [← heq] at hletter
        omega
    · omega
  rcases mark_or_length_of_mem u name hname with h | h | h
  · exact hmark _ (Ne.symm hfoot) (.inl rfl) h
  · exact hmark _ (Ne.symm hinch) (.inr rfl) h
  · omega

end LengthUnit

/-! ## Numbers of digits and a point -/

namespace Numeric

/-- Digits of any script, and behind them a point with digits if there is one. -/
inductive IsDecimal : List CodePoint → Prop
  | whole {digits : List CodePoint} (hne : digits ≠ [])
      (hdigits : ∀ c ∈ digits, Text.isDecimalDigit c = true) : IsDecimal digits
  | point {digits places : List CodePoint} (hne : digits ≠ [])
      (hdigits : ∀ c ∈ digits, Text.isDecimalDigit c = true)
      (hplaces : ∀ c ∈ places, Text.isDecimalDigit c = true) :
      IsDecimal (digits ++ .char '.' :: places)

/-- The characters of a decimal are parts of one. -/
theorem IsDecimal.isDecimalPart {cs : List CodePoint} (h : IsDecimal cs) :
    ∀ c ∈ cs, IsDecimalPart c := by
  cases h with
  | whole _ hdigits => exact fun c hc => .inl (hdigits c hc)
  | point _ hdigits hplaces =>
    intro c hc
    rcases List.mem_append.mp hc with hc | hc
    · exact .inl (hdigits c hc)
    · rcases List.mem_cons.mp hc with rfl | hc
      · exact .inr rfl
      · exact .inl (hplaces c hc)

/-- A decimal digit has an ASCII form. -/
theorem isDigit_asciiDigit {c : CodePoint} (h : Text.isDecimalDigit c = true) :
    (Text.asciiDigit c).isDigit = true := by
  obtain ⟨d, hd⟩ := Option.isSome_iff_exists.mp h
  have hlt := Text.lt_ten_of_digitValue? hd
  rw [isDigit_iff, Text.toNat_asciiDigit hd]
  omega

theorem forall_isDigit_map {cs : List CodePoint} (h : ∀ c ∈ cs, Text.isDecimalDigit c = true) :
    ∀ c ∈ cs.map Text.asciiDigit, c.isDigit = true := by
  intro c hc
  obtain ⟨c', hc', rfl⟩ := List.mem_map.mp hc
  exact isDigit_asciiDigit (h c' hc')

/-- Without underscores nothing is dropped. -/
theorem dropUnderscores_of_not_mem {previous : Bool} {cs : List CodePoint}
    (h : CodePoint.char '_' ∉ cs) : dropUnderscores previous cs = some cs := by
  induction cs generalizing previous with
  | nil => rfl
  | cons c cs ih =>
    rw [List.mem_cons, not_or] at h
    rw [dropUnderscores, ih h.2]
    · rfl
    · exact fun heq => h.1 heq.symm

/-- Digits and points are a numeral in plain form already, but for the script of the digits. -/
theorem plainNumeral_of_isDecimalPart {s : Text} (h : ∀ c ∈ s.toList, IsDecimalPart c) :
    plainNumeral s = some (s.toList.map Text.asciiDigit) := by
  have hparts : ∀ c ∈ s.toList.map Text.asciiDigit, IsPlainPart c := by
    intro c hc
    obtain ⟨c', hc', rfl⟩ := List.mem_map.mp hc
    exact isPlainPart_asciiDigit (h c' hc')
  have hblank : ∀ c, IsPlainPart c → Text.isNumeralBlank c = false := by
    intro c hc
    have hvisible : Text.isBlank c = false := by
      refine Formula.isBlank_of_visible ?_
      rcases hc with hdigit | rfl
      · omega
      · decide
    unfold Text.isNumeralBlank
    rw [hvisible, Bool.false_and]
  unfold plainNumeral
  rw [Text.stripWhile_of_forall fun c hc => hblank c (hparts c hc)]
  refine dropUnderscores_of_not_mem fun hmem => ?_
  exact absurd (hparts _ hmem) (by unfold IsPlainPart; decide)

/-- **A decimal is read as a number.** -/
theorem exists_readMagnitude {cs : List CodePoint} (h : IsDecimal cs) :
    ∃ x, readMagnitude false (cs.map Text.asciiDigit) = some x := by
  have hmap : ∀ {cs : List CodePoint}, cs ≠ [] → cs.map Text.asciiDigit ≠ [] :=
    fun hne hnil => hne (List.map_eq_nil_iff.mp hnil)
  cases h with
  | whole hne hdigits =>
    have hread : readMagnitude false _ = some _ := Binary64.readMagnitude_whole
      (forall_isDigit_map hdigits) (hmap hne) Binary64.stopsDigits_nil nofun
      Binary64.readExponent_nil
    rw [List.append_nil] at hread
    exact ⟨_, hread⟩
  -- The point is its own ASCII form.
  | point hne hdigits hplaces =>
    have hpoint : Text.asciiDigit '.' = '.' := by decide
    have hread : readMagnitude false _ = some _ := Binary64.readMagnitude_point
      (forall_isDigit_map hdigits) (hmap hne) (forall_isDigit_map hplaces)
      Binary64.stopsDigits_nil Binary64.readExponent_nil
    rw [List.append_nil] at hread
    rw [List.map_append, List.map_cons, hpoint]
    exact ⟨_, hread⟩

/-- **Such a numeral spells a number**, whatever its length. -/
theorem exists_freeReal {s : Text} (h : IsDecimal s.toList) : ∃ x, freeReal? s = some x := by
  have hplain := plainNumeral_of_isDecimalPart h.isDecimalPart
  have hparts := isPlainPart_of_mem_plainNumeral h.isDecimalPart hplain
  unfold freeReal?
  rw [hplain, Option.bind_some, readReal_of_isPlainPart (splitSign_of_isPlainPart hparts) hparts]
  exact exists_readMagnitude h

end Numeric

/-! ## Tokens and the prompt -/

namespace Prompt

variable {c : CodePoint} {cs rest : List CodePoint}

/-- A fraction is a point with digits behind it, if it is there. -/
theorem splitFraction_eq (cs : List CodePoint) : (splitFraction cs).1 = [] ∨
    ∃ places, (splitFraction cs).1 = .char '.' :: places ∧
      ∀ c ∈ places, Text.isDecimalDigit c = true := by
  unfold splitFraction
  split
  · dsimp only
    split
    · exact .inl rfl
    · exact .inr ⟨_, rfl, fun c hc => List.mem_takeWhile_imp hc⟩
  · exact .inl rfl

/-- At a digit a decimal is taken. -/
theorem isDecimal_takeToken (h : Text.isDecimalDigit c = true) (rest : List CodePoint) :
    Numeric.IsDecimal (takeToken c rest).2.1 := by
  unfold takeToken
  rw [if_pos h]
  have hdigits : ∀ x ∈ c :: rest.takeWhile Text.isDecimalDigit, Text.isDecimalDigit x = true :=
    List.forall_mem_cons.mpr ⟨h, fun x hx => List.mem_takeWhile_imp hx⟩
  show Numeric.IsDecimal (_ :: (_ ++ (splitFraction _).1))
  rcases splitFraction_eq (rest.dropWhile Text.isDecimalDigit) with hnone | ⟨places, heq, hplaces⟩
  · rw [hnone, List.append_nil]
    exact .whole (List.cons_ne_nil _ _) hdigits
  · rw [heq, ← List.cons_append]
    exact .point (List.cons_ne_nil _ _) hdigits hplaces

/-- What a token of each kind is made of. -/
inductive Shape : TokenKind → List CodePoint → Prop
  | number {cs : List CodePoint} (h : Numeric.IsDecimal cs) : Shape .number cs
  | word {cs : List CodePoint} (h : ∀ c ∈ cs, isWordLetter c = true) : Shape .word cs
  | symbol {c : CodePoint} (h : isUnitMark c = true) : Shape .symbol [c]
  | punct {c : CodePoint} (hblank : Text.isBlank c = false) (h : isUnitMark c = false) :
      Shape .punct [c]

/-- Every token has the shape of its kind. -/
theorem shape_takeToken (hblank : Text.isBlank c = false) (rest : List CodePoint) :
    Shape (takeToken c rest).1 (takeToken c rest).2.1 := by
  cases hdigit : Text.isDecimalDigit c with
  | true =>
    have hdecimal := isDecimal_takeToken hdigit rest
    have hkind : (takeToken c rest).1 = .number := by
      unfold takeToken
      rw [if_pos hdigit]
    rw [hkind]
    exact .number hdecimal
  -- Letters, then the two marks, then whatever is left, a character at a time.
  | false =>
    unfold takeToken
    rw [hdigit, if_neg Bool.false_ne_true]
    split
    · next hletter =>
      exact .word (List.forall_mem_cons.mpr ⟨hletter, fun x hx => List.mem_takeWhile_imp hx⟩)
    · split
      · next hmark => exact .symbol hmark
      · next hmark => exact .punct hblank (Bool.eq_false_iff.mpr hmark)

/-- No token holds a blank. -/
theorem Shape.isBlank {kind : TokenKind} (h : Shape kind cs) :
    ∀ c ∈ cs, Text.isBlank c = false := by
  cases h with
  | number h =>
    intro c hc
    rcases h.isDecimalPart c hc with hdigit | rfl
    · exact Formula.isBlank_of_isDecimalDigit hdigit
    · decide
  -- A letter is far above the blanks of ASCII.
  | word h =>
    intro c hc
    have hletter := h c hc
    unfold isWordLetter at hletter
    rw [Bool.and_eq_true, decide_eq_true_iff, decide_eq_true_iff] at hletter
    have hlow : 97 ≤ c.toNat := hletter.1
    have hhigh : c.toNat ≤ 122 := hletter.2
    exact Formula.isBlank_of_visible (by omega)
  | symbol h =>
    refine List.forall_mem_singleton.mpr ?_
    unfold isUnitMark at h
    rw [Bool.or_eq_true, beq_iff_eq, beq_iff_eq] at h
    rcases h with rfl | rfl
    · decide
    · decide
  | punct hblank => exact List.forall_mem_singleton.mpr hblank

/-- Induction along the scan. -/
theorem shape_of_mem_scan : ∀ piece ∈ scan cs, Shape piece.1 piece.2 := by
  induction cs using scan.induct with
  | case1 =>
    rw [scan]
    exact List.forall_mem_nil _
  | case2 c rest hblank ih =>
    rw [scan, if_pos hblank]
    exact ih
  | case3 c rest hblank taken ih =>
    rw [scan, if_neg hblank]
    exact List.forall_mem_cons.mpr ⟨shape_takeToken (Bool.eq_false_iff.mpr hblank) rest, ih⟩

/-- **Only blanks are passed over.** Induction along the scan. -/
theorem flatMap_scan (cs : List CodePoint) :
    (scan cs).flatMap (·.2) = cs.filter (!Text.isBlank ·) := by
  induction cs using scan.induct with
  | case1 =>
    rw [scan]
    rfl
  | case2 c rest hblank ih =>
    rw [scan, if_pos hblank, ih, List.filter_cons_of_neg (by rw [hblank]; decide)]
  | case3 c rest hblank taken ih =>
    have hshape := shape_takeToken (Bool.eq_false_iff.mpr hblank) rest
    -- A token has no blank in it, so the filter keeps all of it.
    have hvisible : ∀ x ∈ (takeToken c rest).2.1, (!Text.isBlank x) = true := by
      intro x hx
      rw [hshape.isBlank x hx]
      rfl
    rw [scan, if_neg hblank, List.flatMap_cons, ih, ← takeToken_append c rest, List.filter_append,
      List.filter_eq_self.mpr hvisible]

/-- The texts of the tokens are the lowered prompt without its blanks. -/
theorem flatMap_tokenize (prompt : Text) : (tokenize prompt).flatMap (·.text.toList)
    = (Text.lower prompt).toList.filter (!Text.isBlank ·) := by
  have htexts : (tokenize prompt).map (·.text.toList)
      = (scan (Text.lower prompt).toList).map (·.2) := by
    unfold tokenize
    refine List.ext_getElem (by simp) fun i hi hi' => ?_
    rw [List.getElem_map, List.getElem_map, List.getElem_mapIdx]
  rw [← flatMap_scan, List.flatMap_def, List.flatMap_def, htexts]

/-- A token as scanning makes it. -/
def Token.IsShaped (token : Token) : Prop := Shape token.kind token.text.toList

theorem isShaped_of_mem_tokenize {prompt : Text} {token : Token} (h : token ∈ tokenize prompt) :
    token.IsShaped := by
  obtain ⟨i, hi, rfl⟩ := List.mem_mapIdx.mp h
  exact shape_of_mem_scan _ (List.getElem_mem hi)

/-- Only words and marks name units. -/
theorem isUnit_iff {token : Token} (h : token.IsShaped) :
    token.isUnit = true ↔ (LengthUnit.parse? token.text).isSome = true := by
  unfold Token.isUnit
  rw [Bool.and_eq_true]
  refine and_iff_right_of_imp fun hsome => ?_
  obtain ⟨u, hu⟩ := Option.isSome_iff_exists.mp hsome
  unfold Token.IsShaped at h
  obtain ⟨text, kind, index⟩ := token
  obtain ⟨cs⟩ := text
  dsimp only at h hu ⊢
  cases h with
  | number h =>
    rw [LengthUnit.parse?_of_isDecimalPart h.isDecimalPart] at hu
    cases hu
  | word => rfl
  | symbol => rfl
  | punct _ hmark =>
    unfold isUnitMark at hmark
    rw [Bool.or_eq_false_iff, beq_eq_false_iff_ne, beq_eq_false_iff_ne] at hmark
    rw [LengthUnit.parse?_singleton hmark.1 hmark.2] at hu
    cases hu

/-! ## Numbers with units behind them -/

/-- A hyphen names no unit. -/
theorem text_ne_hyphen_of_isUnit {token : Token} (h : token.isUnit = true) : token.text ≠ "-" := by
  intro heq
  have hnone : (LengthUnit.parse? "-").isSome = false := by decide +kernel
  unfold Token.isUnit at h
  rw [heq, hnone, Bool.and_false] at h
  cases h

/-- A number names no unit. -/
theorem kind_ne_number_of_isUnit {token : Token} (h : token.isUnit = true) :
    token.kind ≠ .number := by
  intro heq
  unfold Token.isUnit at h
  rw [heq] at h
  cases h

/-- A hyphen is no number. -/
theorem Token.IsShaped.kind_ne_number {token : Token} (h : token.IsShaped)
    (htext : token.text = "-") : token.kind ≠ .number := by
  intro heq
  unfold Token.IsShaped at h
  rw [heq, htext] at h
  cases h with
  | number h =>
    have hpart := h.isDecimalPart '-' (List.mem_singleton_self _)
    exact absurd hpart (by unfold Numeric.IsDecimalPart; decide)

/-- The unit ahead is the first token, or the second one behind a hyphen. -/
theorem unitAhead?_eq_some_iff {tokens rest : List Token} {unit : Token} :
    unitAhead? tokens = some (unit, rest) ↔ unit.isUnit = true ∧
      (tokens = unit :: rest ∨
        ∃ hyphen : Token, hyphen.text = "-" ∧ tokens = hyphen :: unit :: rest) := by
  constructor
  · intro h
    unfold unitAhead? at h
    split at h
    · next first more hskip =>
      split at h
      · next hunit =>
        cases h
        refine ⟨hunit, ?_⟩
        unfold skipHyphen at hskip
        split at hskip
        · next token more =>
          split at hskip
          · next hhyphen => exact .inr ⟨token, hhyphen, congrArg _ hskip⟩
          · exact .inl hskip
        · cases hskip
      · cases h
    · cases h
  · -- No unit is a hyphen, so one that stands first is not skipped.
    rintro ⟨hunit, rfl | ⟨hyphen, hhyphen, rfl⟩⟩
    · have hskip : skipHyphen (unit :: rest) = unit :: rest :=
        if_neg (text_ne_hyphen_of_isUnit hunit)
      unfold unitAhead?
      rw [hskip]
      exact if_pos hunit
    · have hskip : skipHyphen (hyphen :: unit :: rest) = unit :: rest := if_pos hhyphen
      unfold unitAhead?
      rw [hskip]
      exact if_pos hunit

/-- A number somewhere among tokens has a unit ahead of it, and they are the quantity. -/
def Pairs (tokens : List Token) (q : Quantity) : Prop :=
  ∃ before number after unit rest, tokens = before ++ number :: after ∧ number.kind = .number ∧
    unitAhead? after = some (unit, rest) ∧
    q = ⟨number.value, unit.text, number.index, unit.index⟩

variable {token : Token} {tokens : List Token} {q : Quantity}

/-- A pair starts at the first token or behind it. -/
theorem pairs_cons_iff {rest : List Token} : Pairs (token :: rest) q ↔
    (token.kind = .number ∧ ∃ unit after, unitAhead? rest = some (unit, after) ∧
      q = ⟨token.value, unit.text, token.index, unit.index⟩) ∨ Pairs rest q := by
  constructor
  · rintro ⟨before, number, after, unit, behind, heq, hnumber, hunit, hq⟩
    cases before with
    | nil =>
      cases heq
      exact .inl ⟨hnumber, unit, behind, hunit, hq⟩
    | cons first before =>
      cases heq
      exact .inr ⟨before, number, after, unit, behind, rfl, hnumber, hunit, hq⟩
  · rintro (⟨hnumber, unit, behind, hunit, hq⟩ | ⟨before, number, after, unit, behind, rfl, h⟩)
    · exact ⟨[], token, rest, unit, behind, rfl, hnumber, hunit, hq⟩
    · exact ⟨token :: before, number, after, unit, behind, rfl, h⟩

theorem pairs_cons_of_kind {rest : List Token} (h : token.kind ≠ .number) :
    Pairs (token :: rest) q ↔ Pairs rest q := by
  rw [pairs_cons_iff]
  exact or_iff_right fun hnumber => h hnumber.1

/-- No number is among the tokens that a search passes over with a quantity. -/
theorem pairs_of_unitAhead? {unit : Token} {rest : List Token}
    (h : unitAhead? tokens = some (unit, rest)) (hshaped : ∀ token ∈ tokens, token.IsShaped) :
    Pairs tokens q ↔ Pairs rest q := by
  obtain ⟨hunit, rfl | ⟨hyphen, hhyphen, rfl⟩⟩ := unitAhead?_eq_some_iff.mp h
  · exact pairs_cons_of_kind (kind_ne_number_of_isUnit hunit)
  · have hkind := (hshaped hyphen List.mem_cons_self).kind_ne_number hhyphen
    rw [pairs_cons_of_kind hkind, pairs_cons_of_kind (kind_ne_number_of_isUnit hunit)]

/-- **The search misses nothing.** Induction on the search from the left. -/
theorem mem_quantities_iff_pairs (hshaped : ∀ token ∈ tokens, token.IsShaped) :
    q ∈ quantities tokens ↔ Pairs tokens q := by
  induction tokens using quantities.induct with
  | case1 =>
    rw [quantities]
    refine iff_of_false List.not_mem_nil ?_
    rintro ⟨before, number, after, unit, rest, heq, -⟩
    exact List.cons_ne_nil _ _ (List.append_eq_nil_iff.mp heq.symm).2
  | case2 token rest hnumber unit after hahead ih =>
    rw [List.forall_mem_cons] at hshaped
    have hafter : ∀ token ∈ after, token.IsShaped := fun token htoken =>
      hshaped.2 token ((sublist_of_unitAhead? hahead).subset (List.mem_cons_of_mem _ htoken))
    rw [quantities_cons_of_unitAhead? hnumber hahead, List.mem_cons, ih hafter, pairs_cons_iff,
      pairs_of_unitAhead? hahead hshaped.2, hahead]
    -- The number and the unit are the pair that starts here; a unit starts none.
    refine or_congr_left ⟨fun hq => ⟨hnumber, unit, after, rfl, hq⟩, ?_⟩
    rintro ⟨-, unit', after', heq, hq⟩
    cases heq
    exact hq
  | case3 token rest hnumber hahead ih =>
    rw [List.forall_mem_cons] at hshaped
    rw [quantities_cons_of_no_unit (.inr hahead), ih hshaped.2, pairs_cons_iff, hahead]
    refine (or_iff_right ?_).symm
    rintro ⟨-, unit, after, heq, -⟩
    cases heq
  | case4 token rest hnumber ih =>
    rw [List.forall_mem_cons] at hshaped
    rw [quantities_cons_of_no_unit (.inl hnumber), ih hshaped.2, pairs_cons_of_kind hnumber]

/-- A quantity told by its places: a number, and a unit right behind it or behind one hyphen. -/
structure Measures (tokens : List Token) (q : Quantity) : Prop where
  number : ∃ token : Token, tokens[q.start]? = some token ∧ token.kind = .number ∧
    Numeric.freeReal? token.text = some q.value
  unit : ∃ token : Token, tokens[q.stop]? = some token ∧ token.text = q.unit
  known : (LengthUnit.parse? q.unit).isSome = true
  adjacent : q.stop = q.start + 1 ∨
    q.stop = q.start + 2 ∧ tokens[q.start + 1]?.map (·.text) = some ("-" : Text)

/-- A token that is a number has the value it reads as. -/
theorem Token.IsShaped.freeReal_value (h : token.IsShaped) (hnumber : token.kind = .number) :
    Numeric.freeReal? token.text = some token.value := by
  unfold Token.IsShaped at h
  rw [hnumber] at h
  unfold Token.value
  generalize hcs : token.text.toList = cs at h
  cases h with
  | number h =>
    obtain ⟨x, hx⟩ := Numeric.exists_freeReal (hcs ▸ h)
    rw [hx]
    rfl

/-- A token stands where its index says. -/
theorem IsIndexed.place (hindex : IsIndexed tokens) {before after : List Token}
    (h : tokens = before ++ token :: after) :
    token.index = before.length ∧ tokens[before.length]? = some token := by
  have hplace : tokens[before.length]? = some token := by
    rw [h, List.getElem?_append_right (Nat.le_refl _), Nat.sub_self]
    rfl
  exact ⟨hindex _ _ hplace, hplace⟩

/-- A pair of tokens is measured by their places. -/
theorem Pairs.measures (hindex : IsIndexed tokens) (hshaped : ∀ token ∈ tokens, token.IsShaped)
    (h : Pairs tokens q) : Measures tokens q := by
  obtain ⟨before, number, after, unit, rest, htokens, hnumber, hahead, rfl⟩ := h
  obtain ⟨hstart, hnumberAt⟩ := hindex.place htokens
  have hvalue := (hshaped number (List.mem_of_getElem? hnumberAt)).freeReal_value hnumber
  rw [← hstart] at hnumberAt
  obtain ⟨hunit, rfl | ⟨hyphen, hhyphen, rfl⟩⟩ := unitAhead?_eq_some_iff.mp hahead
  · obtain ⟨hstop, hunitAt⟩ := hindex.place (htokens.trans (List.append_cons _ _ _))
    rw [← hstop] at hunitAt
    rw [List.length_append, ← hstart] at hstop
    have hknown := (isUnit_iff (hshaped unit (List.mem_of_getElem? hunitAt))).mp hunit
    exact ⟨⟨number, hnumberAt, hnumber, hvalue⟩, ⟨unit, hunitAt, rfl⟩, hknown, .inl hstop⟩
  · -- With a hyphen between them the unit stands two places behind the number.
    obtain ⟨hbetween, hhyphenAt⟩ := hindex.place (htokens.trans (List.append_cons _ _ _))
    obtain ⟨hstop, hunitAt⟩ := hindex.place
      (htokens.trans ((List.append_cons _ _ _).trans (List.append_cons _ _ _)))
    rw [← hstop] at hunitAt
    rw [List.length_append, ← hbetween] at hstop
    rw [List.length_append, ← hstart] at hbetween hhyphenAt
    have hknown := (isUnit_iff (hshaped unit (List.mem_of_getElem? hunitAt))).mp hunit
    refine ⟨⟨number, hnumberAt, hnumber, hvalue⟩, ⟨unit, hunitAt, rfl⟩, hknown, .inr ⟨?_, ?_⟩⟩
    · rw [hstop, hbetween]
      rfl
    · rw [← hhyphen]
      exact congrArg (Option.map (·.text)) hhyphenAt

/-- A list falls apart at each of its elements. -/
theorem exists_split {i : Nat} (h : tokens[i]? = some token) :
    ∃ before after, tokens = before ++ token :: after ∧ before.length = i := by
  obtain ⟨hi, rfl⟩ := List.getElem?_eq_some_iff.mp h
  refine ⟨tokens.take i, tokens.drop (i + 1), ?_, List.length_take_of_le (Nat.le_of_lt hi)⟩
  rw [← List.drop_eq_getElem_cons hi, List.take_append_drop]

/-- What the places measure is a pair of tokens. -/
theorem Measures.pairs (hindex : IsIndexed tokens) (hshaped : ∀ token ∈ tokens, token.IsShaped)
    (h : Measures tokens q) : Pairs tokens q := by
  obtain ⟨⟨number, hnumberAt, hnumber, hvalue⟩, ⟨unit, hunitAt, hunit⟩, hknown, hadjacent⟩ := h
  have hisUnit : unit.isUnit = true := by
    rw [isUnit_iff (hshaped unit (List.mem_of_getElem? hunitAt)), hunit]
    exact hknown
  have hread := (hshaped number (List.mem_of_getElem? hnumberAt)).freeReal_value hnumber
  rw [hvalue] at hread
  have hquantity : q = ⟨number.value, unit.text, number.index, unit.index⟩ := by
    rw [hindex _ _ hnumberAt, hindex _ _ hunitAt, hunit, ← Option.some.inj hread]
  obtain ⟨before, after, htokens, hlength⟩ := exists_split hnumberAt
  -- Places from the number on are those of the tokens behind it.
  have hbehind : ∀ k, tokens[q.start + 1 + k]? = after[k]? := by
    intro k
    rw [htokens, ← hlength, Nat.add_assoc, List.getElem?_append_right (Nat.le_add_right _ _),
      Nat.add_sub_cancel_left, Nat.add_comm 1 k, List.getElem?_cons_succ]
  have hahead : ∃ rest, unitAhead? after = some (unit, rest) := by
    rcases hadjacent with hstop | ⟨hstop, hhyphen⟩
    · have hfirst := hbehind 0
      rw [Nat.add_zero, ← hstop, hunitAt] at hfirst
      cases after with
      | nil => cases hfirst
      | cons first rest =>
        cases hfirst
        exact ⟨rest, unitAhead?_eq_some_iff.mpr ⟨hisUnit, .inl rfl⟩⟩
    · have hsecond := hbehind 1
      rw [hbehind 0] at hhyphen
      rw [Nat.add_assoc, ← hstop, hunitAt] at hsecond
      cases after with
      | nil => cases hsecond
      | cons hyphen after =>
        cases after with
        | nil => cases hsecond
        | cons first rest =>
          cases hsecond
          exact ⟨rest, unitAhead?_eq_some_iff.mpr
            ⟨hisUnit, .inr ⟨hyphen, Option.some.inj hhyphen, rfl⟩⟩⟩
  obtain ⟨rest, hahead⟩ := hahead
  exact ⟨before, number, after, unit, rest, htokens, hnumber, hahead, hquantity⟩

/-- **The quantities are the numbers with a unit.** -/
theorem mem_quantities_iff (hindex : IsIndexed tokens)
    (hshaped : ∀ token ∈ tokens, token.IsShaped) : q ∈ quantities tokens ↔ Measures tokens q := by
  rw [mem_quantities_iff_pairs hshaped]
  exact ⟨fun h => h.measures hindex hshaped, fun h => h.pairs hindex hshaped⟩

theorem quantity_mem_of_lookup {prompt : Text} {d : Dimension} {b : Binding}
    (h : (bindings prompt).lookup d = some b) : b.quantity ∈ quantities (tokenize prompt) := by
  obtain ⟨q, hq, hbind⟩ := List.mem_filterMap.mp (mem_of_lookup_bindAll h)
  rwa [quantity_of_bind? hbind]

end Prompt

/-! ## No warnings -/

namespace Reading

/-- A quantity in a known unit has its length, and no warning. -/
theorem lengthOf_of_parse {q : Prompt.Quantity} {u : LengthUnit}
    (h : LengthUnit.parse? q.unit = some u) : lengthOf q = (Length.inFeet q.value u, []) := by
  unfold lengthOf
  rw [Length.toFeet_of_parse h]

/-- A binding in a known unit brings no warning. Induction on the dimensions that are left. -/
theorem warnings_dimensions {bindings : List (Dimension × Prompt.Binding)}
    (h : ∀ d, ∀ b ∈ bindings.lookup d, (LengthUnit.parse? b.quantity.unit).isSome = true)
    (r : Reading) : (dimensions bindings r).warnings = r.warnings := by
  unfold dimensions
  generalize Dimension.all = all
  induction all generalizing r with
  | nil => rfl
  | cons d rest ih =>
    rw [List.foldl_cons, ih]
    -- A dimension without a binding changes nothing.
    split
    · next b hb =>
      obtain ⟨u, hu⟩ := Option.isSome_iff_exists.mp (h d b hb)
      unfold bound
      rw [lengthOf_of_parse hu]
      exact List.append_nil _
    · rfl

end Reading

namespace Prompt

/-- **The tokens of a prompt lose nothing but its blanks, and its quantities are all numbers with a
unit**, from the left and without overlap, so that none is left unconverted and no reading warns. -/
theorem tokenize_quantities (prompt : Text) :
    (tokenize prompt).flatMap (·.text.toList)
        = (Text.lower prompt).toList.filter (!Text.isBlank ·) ∧
      IsIndexed (tokenize prompt) ∧
      (quantities (tokenize prompt)).Pairwise (fun a b => a.stop < b.start) ∧
      (∀ q, q ∈ quantities (tokenize prompt) ↔ Measures (tokenize prompt) q) ∧
      (∀ q ∈ quantities (tokenize prompt), q.start < q.stop ∧ q.stop < (tokenize prompt).length ∧
        ∃ u, LengthUnit.parse? q.unit = some u ∧ Length.toFeet (.real q.value) q.unit
          = .ok ⟨.real (Length.inFeet q.value u), []⟩) ∧
      ∀ base, (Reading.ofText prompt base).warnings = [] := by
  have hindex := isIndexed_tokenize prompt
  have hmem : ∀ q, q ∈ quantities (tokenize prompt) ↔ Measures (tokenize prompt) q :=
    fun q => mem_quantities_iff hindex fun _ => isShaped_of_mem_tokenize
  refine ⟨flatMap_tokenize prompt, hindex, ordered_quantities hindex.sorted, hmem, ?_, ?_⟩
  · intro q hq
    obtain ⟨-, ⟨unit, hunit, -⟩, hknown, hadjacent⟩ := (hmem q).mp hq
    obtain ⟨u, hu⟩ := Option.isSome_iff_exists.mp hknown
    have hlt : q.start < q.stop := by omega
    exact ⟨hlt, (List.getElem?_eq_some_iff.mp hunit).1, u, hu, Length.toFeet_of_parse hu q.value⟩
  · intro base
    exact Reading.warnings_dimensions
      (fun d b hb => ((hmem _).mp (quantity_mem_of_lookup hb)).known) _

end Prompt

end FamilyDesign
