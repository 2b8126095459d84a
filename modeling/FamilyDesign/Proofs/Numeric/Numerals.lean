import FamilyDesign.Numeric.Numeral

/-!
# Two readings of an integer numeral

An integer may stand in a document as a text. The gate reads it as a free numeral: blanks around it,
digits of any script, single underscores. The document is then loaded with the narrower reading of a
field, which takes a numeral apart in steps of its own. Each reading accepts texts that the other
refuses, but a text that both accept spells one integer.

* **`Spelled`** — an integer numeral with underscores among its digits, and what it spells.
* **`spelled_of_freeInt`**, **`spelled_of_fieldInt`** — what each reading gives, in these terms.
* **`fieldInt_eq_freeInt`** — the two readings do not differ.
-/

namespace FamilyDesign

/-! ## Digits of any script -/

namespace Text

/-- A digit block meets no range of blanks. -/
theorem isBlank_of_digitValue? {c : CodePoint} {d : Nat} (h : digitValue? c = some d) :
    isBlank c = false := by
  have hapart : ∀ start ∈ digitZeros, ∀ range ∈ blankRanges,
      start + 10 ≤ range.1 ∨ range.2 < start := by decide
  obtain ⟨start, hfind, -⟩ := Option.map_eq_some_iff.mp h
  have hblock := List.find?_some hfind
  rw [Bool.and_eq_true, decide_eq_true_iff, decide_eq_true_iff] at hblock
  rw [Bool.eq_false_iff]
  intro hblank
  obtain ⟨range, hrange, hcovered⟩ := (Ranges.covers_iff _ c).mp hblank
  have hmiss := hapart start (List.mem_of_find?_eq_some hfind) range hrange
  omega

/-- A digit stands for less than ten. -/
theorem lt_ten_of_digitValue? {c : CodePoint} {d : Nat} (h : digitValue? c = some d) :
    d < 10 := by
  obtain ⟨start, hfind, hd⟩ := Option.map_eq_some_iff.mp h
  have hblock := List.find?_some hfind
  rw [Bool.and_eq_true, decide_eq_true_iff, decide_eq_true_iff] at hblock
  omega

/-- The digit in ASCII that stands for a digit of some script. -/
theorem toNat_asciiDigit {c : CodePoint} {d : Nat} (h : digitValue? c = some d) :
    (asciiDigit c).toNat = 48 + d := by
  have hlt := lt_ten_of_digitValue? h
  unfold asciiDigit
  rw [h]
  exact CodePoint.toNat_ofNat (show 48 + d < 0x110000 by omega)

/-- The ASCII digits stand for what they are. -/
theorem digitValue?_of_isDigit {c : CodePoint} (hc : 48 ≤ c.toNat ∧ c.toNat < 58) :
    digitValue? c = some (c.toNat - 48) := by
  have hblocks : digitZeros = 0x30 :: digitZeros.tail := rfl
  unfold digitValue?
  rw [hblocks, List.find?_cons_of_pos]
  · rfl
  · rw [Bool.and_eq_true, decide_eq_true_iff, decide_eq_true_iff]
    omega

/-- A digit of ASCII is its own ASCII form. -/
theorem asciiDigit_of_isDigit {c : CodePoint} (hc : 48 ≤ c.toNat ∧ c.toNat < 58) :
    asciiDigit c = c := by
  refine CodePoint.toNat_inj.mp ?_
  rw [toNat_asciiDigit (digitValue?_of_isDigit hc)]
  omega

/-- Of what is no digit there is no other form. -/
theorem asciiDigit_eq_iff {c mark : CodePoint} (hmark : digitValue? mark = none) :
    asciiDigit c = mark ↔ c = mark := by
  cases hd : digitValue? c with
  | none =>
    unfold asciiDigit
    rw [hd]
  | some d =>
    have hlt := lt_ten_of_digitValue? hd
    have hnat := toNat_asciiDigit hd
    -- A digit never becomes the mark, since the mark would then be a digit.
    constructor
    · rintro rfl
      rw [digitValue?_of_isDigit (by omega)] at hmark
      cases hmark
    · rintro rfl
      rw [hmark] at hd
      cases hd

/-- Blanks stand around a numeral whatever script its digits are of. -/
theorem isNumeralBlank_asciiDigit (c : CodePoint) :
    isNumeralBlank (asciiDigit c) = isNumeralBlank c := by
  cases hd : digitValue? c with
  | none =>
    unfold asciiDigit
    rw [hd]
  | some d =>
    have hlt := lt_ten_of_digitValue? hd
    have hascii := isBlank_of_digitValue? (digitValue?_of_isDigit (c := asciiDigit c)
      (by rw [toNat_asciiDigit hd]; omega))
    unfold isNumeralBlank
    rw [hascii, isBlank_of_digitValue? hd]
    rfl

/-- Stripping a mapped list is mapping the stripped one, if the tests agree. -/
theorem stripWhile_map {α β : Type} {p : α → Bool} {q : β → Bool} {f : α → β}
    (h : ∀ x, q (f x) = p x) (xs : List α) : stripWhile q (xs.map f) = (stripWhile p xs).map f := by
  have hp : q ∘ f = p := funext h
  unfold stripWhile dropRightWhile
  rw [List.dropWhile_map, hp, ← List.map_reverse, List.dropWhile_map, hp, List.map_reverse]

end Text

/-! ## Digits with underscores among them -/

namespace Numeric

/-- The integer of a sign and a magnitude. -/
def signed (negative : Bool) (n : Nat) : Int := if negative then -(n : Int) else n

/-- A sign goes through a product. -/
theorem signed_mul (negative : Bool) (a b : Nat) :
    signed negative (a * b) = signed negative a * b := by
  unfold signed
  cases negative with
  | false => exact Int.natCast_mul a b
  | true =>
    rw [if_pos rfl, if_pos rfl, Int.natCast_mul, Int.neg_mul]

/-- The number that digits spell if underscores among them are left out. -/
def spellLoose (cs : List CodePoint) : Nat := spell 0 (cs.filter (· != .char '_'))

/-- A sign, if there is one, and behind it digits with underscores among them: an integer numeral,
and what it spells. -/
structure Spelled (cs : List CodePoint) (n : Int) : Prop where
  digits : ∀ c ∈ (splitSign cs).2, c.isDigit = true ∨ c = '_'
  value : signed (splitSign cs).1 (spellLoose (splitSign cs).2) = n

/-- The digits by their numbers. -/
theorem isDigit_iff {c : CodePoint} : c.isDigit = true ↔ 48 ≤ c.toNat ∧ c.toNat < 58 := by
  cases c with
  | half offset =>
    simp [CodePoint.isDigit, CodePoint.char?, CodePoint.toNat]
    omega
  | char c =>
    show c.isDigit = true ↔ 48 ≤ c.toNat ∧ c.toNat < 58
    unfold Char.isDigit
    rw [Bool.and_eq_true, decide_eq_true_iff, decide_eq_true_iff, UInt32.le_iff_toNat_le,
      ge_iff_le, UInt32.le_iff_toNat_le]
    show 48 ≤ c.toNat ∧ c.toNat ≤ 57 ↔ _
    omega

/-- A digit is none of the marks. -/
theorem ne_of_isDigit {c mark : CodePoint} (h : c.isDigit = true) (hmark : mark.isDigit = false) :
    c ≠ mark := by
  rintro rfl
  rw [h] at hmark
  cases hmark

/-! ## Signs -/

/-- What has no sign at its front stays as it is. -/
theorem splitSign_of_head {cs : List CodePoint} (hminus : cs.head? ≠ some (.char '-'))
    (hplus : cs.head? ≠ some (.char '+')) : splitSign cs = (false, cs) := by
  unfold splitSign
  split
  · exact absurd rfl hminus
  · exact absurd rfl hplus
  · rfl

/-- A sign is split off before or after what comes behind it is changed. -/
theorem splitSign_map {f : CodePoint → CodePoint} (hminus : ∀ c, f c = .char '-' ↔ c = .char '-')
    (hplus : ∀ c, f c = .char '+' ↔ c = .char '+') (cs : List CodePoint) :
    splitSign (cs.map f) = ((splitSign cs).1, (splitSign cs).2.map f) := by
  cases cs with
  | nil => rfl
  | cons c rest =>
    -- Signs are mapped to themselves and nothing else is mapped to one.
    by_cases hm : c = .char '-'
    · rw [List.map_cons, (hminus c).mpr hm, hm]
      rfl
    · by_cases hp : c = .char '+'
      · rw [List.map_cons, (hplus c).mpr hp, hp]
        rfl
      · have hplain : splitSign (c :: rest) = (false, c :: rest) :=
          splitSign_of_head (by simpa using hm) (by simpa using hp)
        have hmapped : splitSign ((c :: rest).map f) = (false, (c :: rest).map f) :=
          splitSign_of_head (by simpa using mt (hminus c).mp hm) (by simpa using mt (hplus c).mp hp)
        rw [hplain, hmapped]

/-- A sign is split off before or after underscores behind it are dropped. -/
theorem splitSign_filter {cs : List CodePoint} (hhead : cs.head? ≠ some (.char '_')) :
    splitSign (cs.filter (· != .char '_'))
      = ((splitSign cs).1, (splitSign cs).2.filter (· != .char '_')) := by
  cases cs with
  | nil => rfl
  | cons c rest =>
    have hne : c ≠ .char '_' := by simpa using hhead
    have hkeep : (c :: rest).filter (· != .char '_') = c :: rest.filter (· != .char '_') :=
      List.filter_cons_of_pos (bne_iff_ne.mpr hne)
    -- The first character is kept, so the sign, if it is one, is still in front.
    rw [hkeep]
    by_cases hm : c = .char '-'
    · rw [hm]
      rfl
    · by_cases hp : c = .char '+'
      · rw [hp]
        rfl
      · rw [splitSign_of_head (by simpa using hm) (by simpa using hp),
          splitSign_of_head (by simpa using hm) (by simpa using hp), hkeep]

/-! ## Numerals that are no words -/

/-- A character of a decimal in plain form, without its sign and its exponent. -/
def IsPlainPart (c : CodePoint) : Prop := (48 ≤ c.toNat ∧ c.toNat ≤ 57) ∨ c = '.'

theorem isPlainPart_of_isDigit {c : CodePoint} (h : c.isDigit = true) : IsPlainPart c := by
  have hbounds := isDigit_iff.mp h
  exact .inl ⟨hbounds.1, by omega⟩

/-- What is plain has no case. -/
theorem toLower_of_isPlainPart {c : CodePoint} (h : IsPlainPart c) : c.toLower = c := by
  cases c with
  | half offset => rfl
  | char c =>
    refine congrArg CodePoint.char ?_
    -- the capitals come after the digits and the point
    have hle : c.toNat ≤ 57 := by
      rcases h with hdigit | hpoint
      · exact hdigit.2
      · cases hpoint
        decide
    unfold Char.toLower
    rw [dif_neg]
    rintro ⟨hcapital, -⟩
    have hcapital' : 65 ≤ c.toNat := UInt32.le_iff_toNat_le.mp hcapital
    omega

/-- No letter is among the characters of a plain decimal. -/
theorem ofList_toLower_ne {cs : List CodePoint} (h : ∀ c ∈ cs, IsPlainPart c) {word : Text}
    {letter : CodePoint} (hletter : letter ∈ word.toList) (hplain : ¬IsPlainPart letter) :
    Text.ofList (cs.map CodePoint.toLower) ≠ word := by
  rintro rfl
  obtain ⟨c, hc, rfl⟩ := List.mem_map.mp hletter
  rw [toLower_of_isPlainPart (h c hc)] at hplain
  exact hplain (h c hc)

/-- A plain decimal is none of the words that count as numerals. -/
theorem readReal_of_isPlainPart {cs body : List CodePoint} {negative : Bool}
    (hsign : splitSign cs = (negative, body)) (h : ∀ c ∈ body, IsPlainPart c) :
    readReal cs = readMagnitude negative body := by
  -- Every word that counts as a numeral has an n in it, and no plain character is one.
  have hletter : ¬IsPlainPart (.char 'n') := by
    rintro (hdigit | hpoint)
    · exact absurd hdigit.2 (by decide)
    · exact absurd hpoint (by decide)
  have hword : ∀ {word : Text}, CodePoint.char 'n' ∈ word.toList →
      Text.ofList (body.map CodePoint.toLower) ≠ word :=
    fun hmem => ofList_toLower_ne h hmem hletter
  unfold readReal
  rw [hsign]
  dsimp only
  rw [if_neg (not_or.mpr ⟨hword (by decide), hword (by decide)⟩), if_neg (hword (by decide))]

/-! ## Integers that are read as they stand -/

/-- **An integer numeral is a sign and digits behind it**, and it stands for what they spell. -/
theorem readInt_eq_some_iff {cs : List CodePoint} {n : Int} :
    -- The reader refuses an empty body and one with a character that is no digit.
    readInt cs = some n ↔ (splitSign cs).2 ≠ [] ∧
      (∀ c ∈ (splitSign cs).2, c.isDigit = true) ∧
        signed (splitSign cs).1 (spell 0 (splitSign cs).2) = n := by
  unfold readInt
  dsimp only
  split
  · next h =>
    constructor
    · nofun
    · rintro ⟨hne, hall, -⟩
      rw [List.isEmpty_eq_false_iff.mpr hne, List.all_eq_true.mpr hall] at h
      cases h
  · next h =>
    rw [Bool.or_eq_true, not_or, Bool.not_eq_true, List.isEmpty_eq_false_iff, Bool.not_eq_true,
      Bool.not_eq_false', List.all_eq_true] at h
    rw [Option.some.injEq]
    exact ⟨fun hn => ⟨h.1, h.2, hn⟩, fun hn => hn.2.2⟩

section

variable {digits : List CodePoint}

/-- Digits behind a minus. -/
theorem readInt_minus (hne : digits ≠ []) (hdigits : ∀ c ∈ digits, c.isDigit = true) :
    readInt (.char '-' :: digits) = some (-(spell 0 digits : Int)) :=
  readInt_eq_some_iff.mpr ⟨hne, hdigits, rfl⟩

theorem readInt_plus (hne : digits ≠ []) (hdigits : ∀ c ∈ digits, c.isDigit = true) :
    readInt (.char '+' :: digits) = some (spell 0 digits : Int) :=
  readInt_eq_some_iff.mpr ⟨hne, hdigits, rfl⟩

/-- Behind its mark an exponent is an integer. -/
theorem readExponent_mark (cs : List CodePoint) : readExponent (.char 'e' :: cs) = readInt cs :=
  rfl

end

/-- What was read as an integer is spelled by its characters. -/
theorem Spelled.of_readInt {cs : List CodePoint} {n : Int} (h : readInt cs = some n) :
    Spelled cs n := by
  obtain ⟨-, hdigits, hvalue⟩ := readInt_eq_some_iff.mp h
  refine ⟨fun c hc => .inl (hdigits c hc), ?_⟩
  have hall : (splitSign cs).2.filter (· != .char '_') = (splitSign cs).2 :=
    List.filter_eq_self.mpr fun c hc => bne_iff_ne.mpr (ne_of_isDigit (hdigits c hc) rfl)
  unfold spellLoose
  rw [hall]
  exact hvalue

theorem Spelled.of_readInt_filter {cs : List CodePoint} (hhead : cs.head? ≠ some (.char '_'))
    {n : Int} (h : readInt (cs.filter (· != .char '_')) = some n) : Spelled cs n := by
  obtain ⟨-, hdigits, hvalue⟩ := readInt_eq_some_iff.mp h
  rw [splitSign_filter hhead] at hdigits hvalue
  refine ⟨fun c hc => ?_, hvalue⟩
  by_cases hc' : c = .char '_'
  · exact .inr hc'
  · exact .inl (hdigits c (List.mem_filter.mpr ⟨hc, bne_iff_ne.mpr hc'⟩))

/-! ## Free numerals -/

/-- Induction on the recursion: each underscore that is read is dropped. -/
theorem eq_filter_of_dropUnderscores {previous : Bool} {cs plain : List CodePoint}
    (h : dropUnderscores previous cs = some plain) : plain = cs.filter (· != .char '_') := by
  induction previous, cs using dropUnderscores.induct generalizing plain with
  | case1 previous =>
    cases h
    rfl
  | case2 previous next tail hbetween ih =>
    rw [dropUnderscores, if_pos hbetween] at h
    rw [ih h]
    rfl
  | case3 previous next tail hbetween =>
    rw [dropUnderscores, if_neg hbetween] at h
    cases h
  -- An underscore at the end is refused.
  | case4 previous => cases h
  | case5 previous c rest hc ih =>
    have hne : c ≠ .char '_' := by simpa using hc
    rw [dropUnderscores] at h
    · obtain ⟨plain', hplain, rfl⟩ := Option.map_eq_some_iff.mp h
      rw [ih hplain, List.filter_cons, if_pos (bne_iff_ne.mpr hne)]
    · exact hc

/-- A numeral does not open with an underscore. -/
theorem head?_of_dropUnderscores {cs plain : List CodePoint}
    (h : dropUnderscores false cs = some plain) : cs.head? ≠ some (.char '_') := by
  cases cs with
  | nil => nofun
  | cons c rest =>
    intro hhead
    cases Option.some.inj hhead
    cases rest with
    | nil => cases h
    | cons next tail =>
      rw [dropUnderscores] at h
      cases h

/-- The text of a numeral without the blanks around it. -/
def trimmed (s : Text) : List CodePoint := Text.stripWhile Text.isNumeralBlank s.toList

/-- What a free numeral spells is spelled by its characters in ASCII. -/
theorem spelled_of_freeInt {s : Text} {n : Int} (h : freeInt? s = some n) :
    Spelled ((trimmed s).map Text.asciiDigit) n := by
  obtain ⟨plain, hplain, hread⟩ := Option.bind_eq_some_iff.mp h
  have hstrip : Text.stripWhile Text.isNumeralBlank (s.toList.map Text.asciiDigit)
      = (trimmed s).map Text.asciiDigit :=
    Text.stripWhile_map Text.isNumeralBlank_asciiDigit _
  unfold plainNumeral at hplain
  rw [hstrip] at hplain
  split at hread
  · cases hread
  · refine Spelled.of_readInt_filter (head?_of_dropUnderscores hplain) ?_
    rw [← eq_filter_of_dropUnderscores hplain]
    exact hread

/-! ## Field numerals -/

/-- A strict numeral is an integer numeral. -/
theorem readInt_of_strictInt {cs : List CodePoint} {n : Int} (h : strictInt? cs = some n) :
    readInt cs = some n := by
  unfold strictInt? at h
  split at h
  · cases h
  · split at h
    · cases h
    · exact h

/-- A zero or an underscore, as it may stand ahead of a numeral. -/
def IsPadding (c : CodePoint) : Prop := c = .char '0' ∨ c = .char '_'

/-- Only zeros and underscores are dropped in front. Induction on the recursion. -/
theorem dropLeadingZeros_go {previous : CodePoint} (hprevious : IsPadding previous)
    {cs rest : List CodePoint} (h : dropLeadingZeros.go previous cs = some rest) :
    ∃ dropped, previous :: cs = dropped ++ rest ∧ ∀ c ∈ dropped, IsPadding c := by
  induction previous, cs using dropLeadingZeros.go.induct with
  | case1 previous =>
    cases h
    exact ⟨[], rfl, List.forall_mem_nil _⟩
  | case2 previous tail =>
    cases h
    exact ⟨[], rfl, List.forall_mem_nil _⟩
  | case3 previous c tail hpoint hpadding ih =>
    rw [dropLeadingZeros.go, if_pos hpadding] at h
    · have hc : IsPadding c := by simpa [IsPadding] using hpadding
      obtain ⟨dropped, hsplit, hdropped⟩ := ih hc h
      refine ⟨previous :: dropped, by rw [hsplit]; rfl, ?_⟩
      exact List.forall_mem_cons.mpr ⟨hprevious, hdropped⟩
    · exact hpoint
  | case4 previous c tail hpoint hpadding hdigit =>
    rw [dropLeadingZeros.go, if_neg hpadding, if_pos hdigit] at h
    · cases h
      exact ⟨[previous], rfl, List.forall_mem_singleton.mpr hprevious⟩
    · exact hpoint
  | case5 previous c tail hpoint hpadding hdigit =>
    rw [dropLeadingZeros.go, if_neg hpadding, if_neg hdigit] at h
    · cases h
    · exact hpoint

/-- Only zeros are dropped from the front, and underscores behind them. -/
theorem exists_of_dropLeadingZeros {cs rest : List CodePoint}
    (h : dropLeadingZeros cs = some rest) :
    ∃ dropped, cs = dropped ++ rest ∧ ∀ c ∈ dropped, IsPadding c := by
  unfold dropLeadingZeros at h
  split at h
  · exact dropLeadingZeros_go (.inl rfl) h
  · split at h
    · cases h
      exact ⟨[], rfl, List.forall_mem_nil _⟩
    · cases h
  · cases h

/-- The sign of a numeral is kept if it is a minus. -/
theorem exists_of_withoutLeadingZeros {cs plain : List CodePoint}
    (h : withoutLeadingZeros cs = some plain) :
    ∃ dropped rest, (splitSign cs).2 = dropped ++ rest ∧ (∀ c ∈ dropped, IsPadding c) ∧
      plain = (if (splitSign cs).1 then .char '-' :: rest else rest) := by
  unfold withoutLeadingZeros at h
  split at h
  · cases h
  · obtain ⟨dropped, hsplit, hdropped⟩ := exists_of_dropLeadingZeros h
    exact ⟨dropped, plain, hsplit, hdropped, rfl⟩
  · -- Behind a minus the rest is dropped from, and the minus put back.
    obtain ⟨rest, hrest, rfl⟩ := Option.map_eq_some_iff.mp h
    obtain ⟨dropped, hsplit, hdropped⟩ := exists_of_dropLeadingZeros hrest
    exact ⟨dropped, rest, hsplit, hdropped, rfl⟩
  · next hpm hplus hminus =>
    have hsign : splitSign cs = (false, cs) := by
      unfold splitSign
      split
      · exact absurd rfl (hminus _)
      · exact absurd rfl (hplus _)
      · rfl
    rw [hsign]
    obtain ⟨dropped, hsplit, hdropped⟩ := exists_of_dropLeadingZeros h
    exact ⟨dropped, plain, hsplit, hdropped, rfl⟩

/-- Without a point there is no fraction to drop. -/
theorem dropZeroFraction_of_no_point {cs : List CodePoint} (h : .char '.' ∉ cs) :
    dropZeroFraction cs = cs := by
  unfold dropZeroFraction
  dsimp only
  split
  · next fraction heq =>
    have hmem : CodePoint.char '.' ∈ cs.drop (cs.takeWhile fun c => c != .char '.').length := by
      rw [heq]
      exact List.mem_cons_self
    exact absurd (List.mem_of_mem_drop hmem) h
  · rfl

/-- Zeros and underscores in front spell nothing. -/
theorem spell_append_padding {dropped : List CodePoint} (h : ∀ c ∈ dropped, IsPadding c)
    (rest : List CodePoint) : spellLoose (dropped ++ rest) = spellLoose rest := by
  induction dropped with
  | nil => rfl
  | cons c dropped ih =>
    rw [List.forall_mem_cons] at h
    rw [← ih h.2]
    rcases h.1 with rfl | rfl
    · rfl
    · rfl

/-- Without a point, a numeral is read as it stands or once its underscores are gone. -/
theorem spelled_of_plain {plain : List CodePoint} {n : Int} (hpoint : .char '.' ∉ plain)
    (h : strictInt? ((withoutSingleUnderscores (dropZeroFraction plain)).getD
      (dropZeroFraction plain)) = some n) : Spelled plain n := by
  rw [dropZeroFraction_of_no_point hpoint] at h
  have hread := readInt_of_strictInt h
  unfold withoutSingleUnderscores at hread
  dsimp only at hread
  split at hread
  · exact .of_readInt hread
  · next hsingle =>
    refine .of_readInt_filter ?_ hread
    simp only [Bool.or_eq_true, not_or] at hsingle
    simpa using hsingle.1.1.2

/-- A field numeral is strict, or is so once its zeros, its fraction and its underscores are gone.
-/
theorem fieldInt_cases {s : Text} {n : Int} (h : fieldInt? s = some n) :
    strictInt? (trimmed s) = some n ∨ ∃ plain, withoutLeadingZeros (trimmed s) = some plain ∧
      strictInt? ((withoutSingleUnderscores (dropZeroFraction plain)).getD
        (dropZeroFraction plain)) = some n := by
  unfold fieldInt? at h
  dsimp only at h
  split at h
  · next n' hstrict =>
    cases h
    exact .inl hstrict
  · obtain ⟨plain, hplain, hfinal⟩ := Option.bind_eq_some_iff.mp h
    exact .inr ⟨plain, hplain, hfinal⟩

/-- What a field numeral spells is spelled by its characters, if there is neither a point nor a sign
behind its sign. -/
theorem spelled_of_fieldInt {s : Text} {n : Int} (h : fieldInt? s = some n)
    (hbody : ∀ c ∈ (splitSign (trimmed s)).2, c ≠ .char '.' ∧ c ≠ .char '-' ∧ c ≠ .char '+') :
    Spelled (trimmed s) n := by
  rcases fieldInt_cases h with hstrict | ⟨plain, hplain, hfinal⟩
  · exact .of_readInt (readInt_of_strictInt hstrict)
  · obtain ⟨dropped, rest, hsplit, hdropped, rfl⟩ := exists_of_withoutLeadingZeros hplain
    rw [hsplit] at hbody
    have hrest := fun c hc => hbody c (List.mem_append_right dropped hc)
    have hsign : splitSign (if (splitSign (trimmed s)).1 then .char '-' :: rest else rest)
        = ((splitSign (trimmed s)).1, rest) := by
      split
      · next hminus =>
        rw [hminus]
        rfl
      · next hminus =>
        rw [Bool.eq_false_iff.mpr hminus]
        refine splitSign_of_head ?_ ?_
        · intro hhead
          exact (hrest _ (List.mem_of_mem_head? hhead)).2.1 rfl
        · intro hhead
          exact (hrest _ (List.mem_of_mem_head? hhead)).2.2 rfl
    -- Without a point nothing is dropped behind, so only the padding in front is gone.
    have hpoint : .char '.' ∉ if (splitSign (trimmed s)).1 then .char '-' :: rest else rest := by
      intro hmem
      split at hmem
      · exact (hrest _ ((List.mem_cons.mp hmem).resolve_left (by decide))).1 rfl
      · exact (hrest _ hmem).1 rfl
    obtain ⟨hdigits, hvalue⟩ := spelled_of_plain hpoint hfinal
    rw [hsign] at hdigits hvalue
    refine ⟨?_, ?_⟩
    · rw [hsplit]
      intro c hc
      rcases List.mem_append.mp hc with hc | hc
      · rcases hdropped c hc with rfl | rfl
        · exact .inl rfl
        · exact .inr rfl
      · exact hdigits c hc
    · rw [hsplit, spell_append_padding hdropped]
      exact hvalue

/-- **Two readings of an integer do not differ.** A text that is a free numeral and a field numeral
spells one integer. -/
theorem fieldInt_eq_freeInt {s : Text} {m n : Int} (hfield : fieldInt? s = some m)
    (hfree : freeInt? s = some n) : m = n := by
  have hascii := spelled_of_freeInt hfree
  have hsign : splitSign ((trimmed s).map Text.asciiDigit)
      = ((splitSign (trimmed s)).1, (splitSign (trimmed s)).2.map Text.asciiDigit) :=
    splitSign_map (fun _ => Text.asciiDigit_eq_iff (by decide))
      (fun _ => Text.asciiDigit_eq_iff (by decide)) _
  -- behind the sign there are digits of some script and underscores
  have hbody : ∀ c ∈ (splitSign (trimmed s)).2,
      (Text.asciiDigit c).isDigit = true ∨ Text.asciiDigit c = .char '_' := by
    have hdigits := hascii.digits
    rw [hsign] at hdigits
    exact List.forall_mem_map.mp hdigits
  have hmarks : ∀ mark : CodePoint, Text.digitValue? mark = none → mark.isDigit = false →
      mark ≠ .char '_' → mark ∉ (splitSign (trimmed s)).2 := by
    intro mark hnone hmark hne hmem
    have hself : Text.asciiDigit mark = mark := (Text.asciiDigit_eq_iff hnone).mpr rfl
    rcases hbody mark hmem with hdigit | hunderscore
    · rw [hself, hmark] at hdigit
      cases hdigit
    · exact hne (hself ▸ hunderscore)
  have hspelled : Spelled (trimmed s) m := by
    refine spelled_of_fieldInt hfield ?_
    intro c hc
    refine ⟨?_, ?_, ?_⟩
    · rintro rfl
      exact hmarks _ (by decide) rfl (by decide) hc
    · rintro rfl
      exact hmarks _ (by decide) rfl (by decide) hc
    · rintro rfl
      exact hmarks _ (by decide) rfl (by decide) hc
  -- so the digits are those of ASCII, which are their own ASCII forms
  have hself : (splitSign (trimmed s)).2.map Text.asciiDigit = (splitSign (trimmed s)).2 := by
    refine (List.map_congr_left ?_).trans (List.map_id _)
    intro c hc
    rcases hspelled.digits c hc with hdigit | rfl
    · exact Text.asciiDigit_of_isDigit (isDigit_iff.mp hdigit)
    · exact (Text.asciiDigit_eq_iff (by decide)).mpr rfl
  have hvalue := hascii.value
  rw [hsign, hself] at hvalue
  exact hspelled.value.symm.trans hvalue

end Numeric

end FamilyDesign
