import FamilyDesign.Formula.Problem
import FamilyDesign.Proofs.Numeric.Numerals

/-!
# Formulas without a problem, character by character

A formula is checked token by token, and its tokens are taken as long as they go. To see what a
change of some characters does to the check, it is told here in steps that do not look at a whole
token: a number is read digit by digit, so a scan may stand in the middle of one.

* **`Sound`** — tokens without a problem, from a stage of the check on.
* **`Accepts`** — characters without a problem, from a stage of the check and a part of a number on.
* **`problems_eq_nil_iff`** — a formula without a problem is accepted from the start.
* **`accepts_blank`**, **`accepts_digit`**, **`accepts_point`**, **`accepts_name`**,
  **`accepts_symbol`** — what one step asks.
* **`pieces_induction`** — every text falls into such steps.
-/

namespace FamilyDesign.Formula

variable {known : List Text}

/-! ## Tokens -/

/-- How far a check has come: how many parentheses are open, what stands just before, and whether
an operator has come. -/
structure Stage where
  depth : Nat
  place : Place
  operated : Bool

namespace Stage

/-- The start of a formula. -/
def start : Stage := ⟨0, .fresh, false⟩

/-- Whether a formula may end at a stage. -/
structure Final (st : Stage) : Prop where
  balanced : st.depth = 0
  complete : st.place ≠ .afterOperator
  operated : st.operated = true

/-- Whether a token has no problem at a stage. -/
structure Admits (known : List Text) (st : Stage) (token : Token) : Prop where
  sound : tokenProblem? known token = none
  left : lacksLeft st.place token = false
  opened : token.kind = .closing → st.depth ≠ 0

/-- The stage behind a token of a kind. -/
def after (st : Stage) (kind : TokenKind) : Stage where
  depth :=
    match kind with
    | .opening => st.depth + 1
    | .closing => st.depth - 1
    | _ => st.depth
  place := kind.placeAfter
  operated := st.operated || kind == .operator

/-- The stage behind an operand. -/
def operand (st : Stage) : Stage := { st with place := .afterOperand }

/-- The stage with an operator in the formula. -/
def operate (st : Stage) : Stage := { st with operated := true }

theorem after_number (st : Stage) : st.after .number = st.operand := by
  simp [after, operand, TokenKind.placeAfter]

theorem after_name (st : Stage) : st.after .name = st.operand := by
  simp [after, operand, TokenKind.placeAfter]

end Stage

/-- Tokens that have no problem from a stage on. -/
def Sound (known : List Text) : Stage → List Token → Prop
  | st, [] => st.Final
  | st, token :: rest => st.Admits known token ∧ Sound known (st.after token.kind) rest

/-- The rest of the tokens is sound just if none of the three checks has anything to report. -/
theorem sound_iff {st : Stage} {ts : List Token} :
    Sound known st ts ↔ (st.operated || ts.any (·.kind == .operator)) = true ∧
      ts.filterMap (tokenProblem? known) = [] ∧ syntaxProblems st.depth st.place ts = [] := by
  induction ts generalizing st with
  | nil =>
    unfold Sound syntaxProblems
    rw [List.append_eq_nil_iff]
    constructor
    · rintro ⟨hdepth, hplace, hoperated⟩
      simp [hdepth, hplace, hoperated]
    · rintro ⟨hoperated, -, hdepth, hplace⟩
      refine ⟨?_, ?_, ?_⟩
      · simpa using hdepth
      · simpa using hplace
      · simpa using hoperated
  | cons token rest ih =>
    have hadmits : st.Admits known token ↔ tokenProblem? known token = none ∧
        lacksLeft st.place token = false ∧ ¬(token.kind = .closing ∧ st.depth = 0) :=
      ⟨fun h => ⟨h.sound, h.left, fun ⟨hkind, hdepth⟩ => h.opened hkind hdepth⟩,
        fun ⟨hsound, hleft, hopened⟩ =>
          ⟨hsound, hleft, fun hkind hdepth => hopened ⟨hkind, hdepth⟩⟩⟩
    -- a problem of the token itself stands apart from those of the syntax
    unfold Sound syntaxProblems
    rw [ih, hadmits, List.append_eq_nil_iff, List.append_eq_nil_iff, ite_eq_right_iff,
      ite_eq_right_iff, List.any_cons, ← Bool.or_assoc, List.filterMap_cons]
    simp only [List.cons_ne_nil, imp_false, Bool.not_eq_true]
    cases hproblem : tokenProblem? known token with
    | none =>
      simp only [true_and]
      exact ⟨fun ⟨⟨h₁, h₂⟩, h₃, h₄, h₅⟩ => ⟨h₃, h₄, ⟨h₁, h₂⟩, h₅⟩,
        fun ⟨h₃, h₄, ⟨h₁, h₂⟩, h₅⟩ => ⟨⟨h₁, h₂⟩, h₃, h₄, h₅⟩⟩
    | some problem => simp

/-- An operator that has come already is no obstacle. -/
theorem Sound.operate {st : Stage} {ts : List Token} (h : Sound known st ts) :
    Sound known st.operate ts := by
  rw [sound_iff] at h ⊢
  exact ⟨rfl, h.2⟩

/-! ## Characters -/

/-- What has been read of a number: nothing, digits ahead of its point, or its point. -/
inductive Part
  | idle
  | whole
  | fraction
deriving DecidableEq

namespace Part

/-- What follows the number of which a part has been read. -/
def rest : Part → List CodePoint → List CodePoint
  | idle, cs => cs
  | whole, cs => (splitFraction (cs.dropWhile Text.isDecimalDigit)).2
  | fraction, cs => cs.dropWhile Text.isDecimalDigit

/-- The stage behind the number of which a part has been read. -/
def settle : Part → Stage → Stage
  | idle, st => st
  | whole, st | fraction, st => st.operand

/-- The part that has been read when a digit follows. -/
def digit : Part → Part
  | idle | whole => whole
  | fraction => fraction

/-- One digit more or less makes no other part. -/
theorem digit_digit (part : Part) : part.digit.digit = part.digit := by
  cases part <;> rfl

/-- A number that is read to its end is one operand. -/
theorem operand_settle (part : Part) (st : Stage) : (part.settle st).operand = st.operand := by
  cases part <;> rfl

/-- It does not matter whether the operator is counted before the number ends. -/
theorem settle_operate (part : Part) (st : Stage) :
    part.settle st.operate = (part.settle st).operate := by
  cases part <;> rfl

/-- A part ends at once ahead of what does not continue a number. -/
theorem rest_of_head {part : Part} {c : CodePoint} {cs : List CodePoint}
    (hdigit : Text.isDecimalDigit c = false) (hpoint : part = whole → c ≠ .char '.') :
    part.rest (c :: cs) = c :: cs := by
  have hdrop : (c :: cs).dropWhile Text.isDecimalDigit = c :: cs :=
    List.dropWhile_cons_of_neg (by rw [hdigit]; exact Bool.false_ne_true)
  cases part with
  | idle => rfl
  | fraction => exact hdrop
  -- Ahead of its point a number could still go on with one; the hypothesis rules it out.
  | whole =>
    show (splitFraction ((c :: cs).dropWhile Text.isDecimalDigit)).2 = c :: cs
    rw [hdrop]
    unfold splitFraction
    split
    · next heq =>
      cases heq
      exact absurd rfl (hpoint rfl)
    · rfl

end Part

/-- Characters that have no problem, from a stage on at which a part of a number has been read. -/
def Accepts (known : List Text) (st : Stage) (part : Part) (cs : List CodePoint) : Prop :=
  Sound known (part.settle st) (tokens (.ofList (part.rest cs)))

/-- An operator counted in addition does no harm. -/
theorem Accepts.operate {st : Stage} {part : Part} {cs : List CodePoint}
    (h : Accepts known st part cs) : Accepts known st.operate part cs := by
  unfold Accepts at h ⊢
  rw [Part.settle_operate]
  exact Sound.operate h

/-- Within a number the stage ahead of it does not matter but for operators. -/
theorem accepts_operand_iff {st : Stage} {part : Part} (hpart : part ≠ .idle)
    {cs : List CodePoint} : Accepts known st.operand part cs ↔ Accepts known st part cs := by
  cases part with
  | idle => exact absurd rfl hpart
  | whole => exact Iff.rfl
  | fraction => exact Iff.rfl

theorem tokens_nil : tokens (.ofList []) = [] := by
  unfold tokens
  rw [scan]
  rfl

theorem tokens_blank {c : CodePoint} (hblank : Text.isBlank c = true) (cs : List CodePoint) :
    tokens (.ofList (c :: cs)) = tokens (.ofList cs) := by
  unfold tokens
  rw [scan, if_pos hblank]

/-- The first token is taken at the first character, the others behind it. -/
theorem tokens_cons {c : CodePoint} (hblank : Text.isBlank c = false) (cs : List CodePoint) :
    tokens (.ofList (c :: cs))
      = ⟨(takeToken c cs).1, .ofList (takeToken c cs).2.1⟩
        :: tokens (.ofList (takeToken c cs).2.2) := by
  unfold tokens
  rw [scan, if_neg (by rw [hblank]; exact Bool.false_ne_true)]
  rfl

/-- A text of blanks has no tokens. -/
theorem tokens_of_all_blank {cs : List CodePoint} (h : cs.all Text.isBlank = true) :
    tokens (.ofList cs) = [] := by
  induction cs with
  | nil => exact tokens_nil
  | cons c rest ih =>
    rw [List.all_cons, Bool.and_eq_true] at h
    rw [tokens_blank h.1, ih h.2]

/-- **A formula has no problem just if it is accepted from the start.** -/
theorem problems_eq_nil_iff {formula : Text} :
    problems formula known = [] ↔ Accepts known .start .idle formula.toList := by
  show _ ↔ Sound known .start (tokens formula)
  unfold problems
  split
  · next hblank =>
    -- without a token there is no operator
    rw [show tokens formula = [] from tokens_of_all_blank hblank]
    exact ⟨nofun, fun h => absurd h.operated Bool.false_ne_true⟩
  · rw [List.append_eq_nil_iff, List.append_eq_nil_iff, sound_iff, and_assoc, ite_eq_left_iff]
    simp [Stage.start]

/-! ## Kinds of characters -/

theorem isBlank_of_isDecimalDigit {c : CodePoint} (h : Text.isDecimalDigit c = true) :
    Text.isBlank c = false := by
  obtain ⟨d, hd⟩ := Option.isSome_iff_exists.mp h
  exact Text.isBlank_of_digitValue? hd

/-- An ASCII digit is a decimal digit. -/
theorem isDecimalDigit_of_isDigit {c : CodePoint} (h : c.isDigit = true) :
    Text.isDecimalDigit c = true := by
  unfold Text.isDecimalDigit
  rw [Text.digitValue?_of_isDigit (Numeric.isDigit_iff.mp h)]
  rfl

theorem isDecimalDigit_point : Text.isDecimalDigit '.' = false := by decide

/-- A character of ASCII that is none of its blanks is no blank. -/
theorem isBlank_of_visible {c : CodePoint} (h : 0x20 < c.toNat ∧ c.toNat < 0x80) :
    Text.isBlank c = false := by
  have hapart : ∀ range ∈ Text.blankRanges, range.2 ≤ 0x20 ∨ 0x80 ≤ range.1 := by decide
  rw [Bool.eq_false_iff]
  intro hblank
  obtain ⟨range, hrange, hcovered⟩ := (Text.Ranges.covers_iff _ c).mp hblank
  have hmiss := hapart range hrange
  omega

/-- The digits of ASCII are its only decimal digits. -/
theorem isDecimalDigit_of_ascii {c : CodePoint} (h : c.toNat < 0x80)
    (hdigit : c.isDigit = false) : Text.isDecimalDigit c = false := by
  have hblocks : ∀ start ∈ Text.digitZeros, start = 0x30 ∨ 0x80 ≤ start := by decide
  rw [Bool.eq_false_iff]
  intro hdecimal
  obtain ⟨d, hd⟩ := Option.isSome_iff_exists.mp hdecimal
  obtain ⟨start, hfind, -⟩ := Option.map_eq_some_iff.mp hd
  have hblock := List.find?_some hfind
  rw [Bool.and_eq_true, decide_eq_true_iff, decide_eq_true_iff] at hblock
  have hstart := hblocks start (List.mem_of_find?_eq_some hfind)
  have hnot := mt Numeric.isDigit_iff.mpr (Bool.eq_false_iff.mp hdigit)
  omega

/-- A letter or an underscore, by its number. -/
theorem toNat_of_startsName {c : CodePoint} (h : startsName c = true) :
    57 < c.toNat ∧ c.toNat < 0x80 := by
  unfold startsName at h
  rw [Bool.or_eq_true, beq_iff_eq] at h
  rcases h with halpha | rfl
  · -- Half of a surrogate pair is no letter.
    cases c with
    | half offset => cases halpha
    | char c =>
      have halpha' : c.isAlpha = true := halpha
      unfold Char.isAlpha Char.isUpper Char.isLower at halpha'
      simp only [Bool.or_eq_true, Bool.and_eq_true, decide_eq_true_eq, UInt32.le_iff_toNat_le,
        ge_iff_le] at halpha'
      have hbounds : 65 ≤ c.toNat ∧ c.toNat ≤ 90 ∨ 97 ≤ c.toNat ∧ c.toNat ≤ 122 := halpha'
      show 57 < c.toNat ∧ c.toNat < 0x80
      omega
  · decide

theorem isBlank_of_startsName {c : CodePoint} (h : startsName c = true) :
    Text.isBlank c = false := by
  have hnat := toNat_of_startsName h
  exact isBlank_of_visible (by omega)

/-- What starts a name is no digit. -/
theorem isDecimalDigit_of_startsName {c : CodePoint} (h : startsName c = true) :
    Text.isDecimalDigit c = false := by
  have hnat := toNat_of_startsName h
  refine isDecimalDigit_of_ascii hnat.2 ?_
  rw [Bool.eq_false_iff]
  intro hdigit
  have hbounds := Numeric.isDigit_iff.mp hdigit
  omega

/-- A digit starts no name. -/
theorem startsName_of_isDecimalDigit {c : CodePoint} (h : Text.isDecimalDigit c = true) :
    startsName c = false := by
  rw [Bool.eq_false_iff]
  intro hstarts
  rw [isDecimalDigit_of_startsName hstarts] at h
  cases h

/-- A blank starts no name. -/
theorem startsName_of_isBlank {c : CodePoint} (h : Text.isBlank c = true) :
    startsName c = false := by
  rw [Bool.eq_false_iff]
  intro hstarts
  rw [isBlank_of_startsName hstarts] at h
  cases h

theorem inName_of_startsName {c : CodePoint} (h : startsName c = true) : inName c = true := by
  unfold inName
  rw [h]
  rfl

/-- What can stand in a name but not at its start is a digit. -/
theorem inName_of_neither {c : CodePoint} (hdigit : Text.isDecimalDigit c = false)
    (hname : startsName c = false) : inName c = false := by
  unfold inName
  rw [hname, Bool.false_or, Bool.eq_false_iff]
  intro h
  rw [isDecimalDigit_of_isDigit h] at hdigit
  cases hdigit

/-! ## Steps -/

section Steps

variable {st : Stage} {part : Part} {c : CodePoint} {cs : List CodePoint}

/-- At its end a text is accepted if the stage reached is final. -/
theorem accepts_nil : Accepts known st part [] ↔ (part.settle st).Final := by
  have hrest : part.rest [] = [] := by cases part <;> rfl
  unfold Accepts
  rw [hrest, tokens_nil]
  exact Iff.rfl

/-- A blank ends a number. -/
theorem accepts_blank (hblank : Text.isBlank c = true) :
    Accepts known st part (c :: cs) ↔ Accepts known (part.settle st) .idle cs := by
  have hdigit : Text.isDecimalDigit c = false := by
    rw [Bool.eq_false_iff]
    intro h
    rw [isBlank_of_isDecimalDigit h] at hblank
    cases hblank
  have hpoint : c ≠ .char '.' := by
    rintro rfl
    exact absurd hblank (by decide)
  unfold Accepts
  rw [Part.rest_of_head hdigit fun _ => hpoint, tokens_blank hblank]
  exact Iff.rfl

/-- A number may stand anywhere. -/
theorem admits_number (st : Stage) (text : Text) : st.Admits known ⟨.number, text⟩ :=
  ⟨rfl, rfl, nofun⟩

/-- A digit starts a number or continues one. -/
theorem accepts_digit (hdigit : Text.isDecimalDigit c = true) :
    Accepts known st part (c :: cs) ↔ Accepts known st part.digit cs := by
  have hdrop : (c :: cs).dropWhile Text.isDecimalDigit = cs.dropWhile Text.isDecimalDigit :=
    List.dropWhile_cons_of_pos hdigit
  unfold Accepts
  -- A digit either opens a number, which is admitted anywhere, or is dropped with it.
  cases part with
  | idle =>
    show Sound known st (tokens (.ofList (c :: cs))) ↔ _
    rw [tokens_cons (isBlank_of_isDecimalDigit hdigit)]
    unfold takeToken
    rw [if_pos hdigit]
    show _ ∧ Sound known (st.after .number) _ ↔ _
    rw [Stage.after_number]
    exact and_iff_right (admits_number st _)
  | whole =>
    unfold Part.rest Part.digit
    dsimp only
    rw [hdrop]
  | fraction =>
    unfold Part.rest Part.digit
    dsimp only
    rw [hdrop]

/-- A point behind digits ahead of a point belongs to the number; any other point starts a number,
so a digit has to follow. -/
theorem accepts_point : Accepts known st part (.char '.' :: cs) ↔
    (part = .whole ∨ digitAhead cs = true) ∧ Accepts known st .fraction cs := by
  by_cases hwhole : part = .whole
  · rw [hwhole]
    exact (and_iff_right (.inl rfl)).symm
  have hrest : part.rest (.char '.' :: cs) = .char '.' :: cs :=
    Part.rest_of_head isDecimalDigit_point fun h => absurd h hwhole
  have hstart : startsName (.char '.') = false := rfl
  have hsymbol : takeSymbol (.char '.') cs = (.other, [.char '.'], cs) := rfl
  rw [or_iff_right hwhole]
  unfold Accepts
  rw [hrest, tokens_cons (show Text.isBlank (.char '.') = false by decide)]
  unfold takeToken
  rw [isDecimalDigit_point, if_neg Bool.false_ne_true, hstart, if_neg Bool.false_ne_true, hsymbol]
  -- without a digit behind it the point is a token that no formula may have
  cases hahead : digitAhead cs with
  | true =>
    show _ ∧ Sound known ((part.settle st).after .number) _ ↔ _
    rw [Stage.after_number, Part.operand_settle]
    exact and_congr_left' (iff_of_true (admits_number _ _) rfl)
  | false =>
    refine iff_of_false (fun h => ?_) (fun h => absurd h.1 Bool.false_ne_true)
    cases h.1.sound

/-- Whether a name may stand in a formula. -/
def KnownName (known : List Text) (name : List CodePoint) : Prop :=
  tokenProblem? known ⟨.name, .ofList name⟩ = none

/-- What follows a name: it does not go on with a character of a name. -/
def StopsName (cs : List CodePoint) : Prop := ∀ c ∈ cs.head?, inName c = false

/-- A name is read up to what stops it. -/
theorem takeWhile_inName {name : List CodePoint} (hname : ∀ x ∈ name, inName x = true)
    (hstops : StopsName cs) : (name ++ cs).takeWhile inName = name := by
  rw [List.takeWhile_append_of_pos hname]
  cases cs with
  | nil => exact List.append_nil name
  | cons c rest =>
    rw [List.takeWhile_cons_of_neg (by rw [hstops c rfl]; exact Bool.false_ne_true),
      List.append_nil]

/-- Behind a name stands what stops it. -/
theorem dropWhile_inName {name : List CodePoint} (hname : ∀ x ∈ name, inName x = true)
    (hstops : StopsName cs) : (name ++ cs).dropWhile inName = cs := by
  rw [List.dropWhile_append_of_pos hname]
  cases cs with
  | nil => rfl
  | cons c rest =>
    exact List.dropWhile_cons_of_neg (by rw [hstops c rfl]; exact Bool.false_ne_true)

/-- A name is an operand, whatever stands ahead of it. -/
theorem accepts_name {name : List CodePoint} (hstart : startsName c = true)
    (hname : ∀ x ∈ name, inName x = true) (hstops : StopsName cs) :
    Accepts known st part (c :: name ++ cs) ↔
      KnownName known (c :: name) ∧ Accepts known st.operand .idle cs := by
  have hdigit := isDecimalDigit_of_startsName hstart
  have hpoint : c ≠ .char '.' := by
    rintro rfl
    cases hstart
  -- A name asks nothing of the stage, only that it be known.
  have hadmits : (part.settle st).Admits known ⟨.name, .ofList (c :: name)⟩ ↔
      KnownName known (c :: name) := ⟨fun h => h.sound, fun h => ⟨h, rfl, nofun⟩⟩
  unfold Accepts
  rw [List.cons_append, Part.rest_of_head hdigit fun _ => hpoint,
    tokens_cons (isBlank_of_startsName hstart)]
  unfold takeToken
  rw [hdigit, if_neg Bool.false_ne_true, beq_false_of_ne hpoint, Bool.false_and,
    if_neg Bool.false_ne_true, if_pos hstart, takeWhile_inName hname hstops,
    dropWhile_inName hname hstops]
  show _ ∧ Sound known ((part.settle st).after .name) _ ↔ _
  rw [Stage.after_name, Part.operand_settle, hadmits]
  exact Iff.rfl

/-- A character that neither separates nor starts a number or a name. -/
structure IsSymbol (c : CodePoint) : Prop where
  blank : Text.isBlank c = false
  digit : Text.isDecimalDigit c = false
  point : c ≠ .char '.'
  name : startsName c = false

theorem IsSymbol.inName (h : IsSymbol c) : inName c = false :=
  inName_of_neither h.digit h.name

/-- A symbol ends a number. -/
theorem accepts_symbol (h : IsSymbol c) : Accepts known st part (c :: cs) ↔
    (part.settle st).Admits known ⟨(takeSymbol c cs).1, .ofList (takeSymbol c cs).2.1⟩ ∧
      Accepts known ((part.settle st).after (takeSymbol c cs).1) .idle (takeSymbol c cs).2.2 := by
  unfold Accepts
  rw [Part.rest_of_head h.digit fun _ => h.point, tokens_cons h.blank]
  unfold takeToken
  rw [h.digit, if_neg Bool.false_ne_true, beq_false_of_ne h.point, Bool.false_and,
    if_neg Bool.false_ne_true, h.name, if_neg Bool.false_ne_true]
  exact Iff.rfl

end Steps

/-- Digits one after another. -/
theorem accepts_digits {st : Stage} {part : Part} {digits : List CodePoint}
    (hdigits : ∀ c ∈ digits, Text.isDecimalDigit c = true) (hne : digits ≠ [])
    (cs : List CodePoint) :
    Accepts known st part (digits ++ cs) ↔ Accepts known st part.digit cs := by
  induction digits generalizing part with
  | nil => exact absurd rfl hne
  | cons c rest ih =>
    rw [List.forall_mem_cons] at hdigits
    rw [List.cons_append, accepts_digit hdigits.1]
    by_cases hrest : rest = []
    · rw [hrest, List.nil_append]
    · rw [ih hdigits.2 hrest, Part.digit_digit]

/-! ## Induction along the steps -/

/-- Behind a symbol there is no more than behind its first character. -/
theorem length_takeSymbol_le (c : CodePoint) (cs : List CodePoint) :
    (takeSymbol c cs).2.2.length ≤ cs.length := by
  unfold takeSymbol
  repeat' split
  all_goals simp

/-- **Induction along the pieces a scan reads**: blanks, single digits, points, whole names and
symbols. -/
@[elab_as_elim]
theorem pieces_induction {motive : List CodePoint → Prop} (nil : motive [])
    (blank : ∀ c rest, Text.isBlank c = true → motive rest → motive (c :: rest))
    (digit : ∀ c rest, Text.isDecimalDigit c = true → motive rest → motive (c :: rest))
    (point : ∀ rest, motive rest → motive (.char '.' :: rest))
    (name : ∀ c name rest, startsName c = true → (∀ x ∈ name, inName x = true) → StopsName rest →
      motive rest → motive (c :: name ++ rest))
    (symbol : ∀ c rest, IsSymbol c → motive (takeSymbol c rest).2.2 → motive (c :: rest))
    (cs : List CodePoint) : motive cs := by
  -- A name and a symbol are taken whole, so the induction is on the length.
  induction hlength : cs.length using Nat.strongRecOn generalizing cs with
  | ind n ih =>
    cases cs with
    | nil => exact nil
    | cons c rest =>
      have hrest : rest.length < n := by
        rw [← hlength]
        exact Nat.lt_succ_self _
      by_cases hblank : Text.isBlank c = true
      · exact blank c rest hblank (ih _ hrest rest rfl)
      by_cases hdigit : Text.isDecimalDigit c = true
      · exact digit c rest hdigit (ih _ hrest rest rfl)
      by_cases hpoint : c = .char '.'
      · rw [hpoint]
        exact point rest (ih _ hrest rest rfl)
      by_cases hname : startsName c = true
      · have hshorter := (List.dropWhile_sublist (l := rest) inName).length_le
        have hstops : StopsName (rest.dropWhile inName) := by
          intro x hx
          have hhead := List.head?_dropWhile_not inName rest
          rw [hx] at hhead
          exact hhead
        rw [← List.takeWhile_append_dropWhile (p := inName) (l := rest)]
        exact name c _ _ hname (fun x hx => List.all_eq_true.mp List.all_takeWhile x hx) hstops
          (ih _ (Nat.lt_of_le_of_lt hshorter hrest) _ rfl)
      · have hshorter := length_takeSymbol_le c rest
        refine symbol c rest ⟨?_, ?_, hpoint, ?_⟩ (ih _ (Nat.lt_of_le_of_lt hshorter hrest) _ rfl)
        · exact Bool.eq_false_iff.mpr hblank
        · exact Bool.eq_false_iff.mpr hdigit
        · exact Bool.eq_false_iff.mpr hname

/-! ## Names in formulas -/

/-- A letter or an underscore, and behind it characters of a name. -/
def IsName (word : List CodePoint) : Prop :=
  ∃ c name, word = c :: name ∧ startsName c = true ∧ ∀ x ∈ name, inName x = true

/-- A token that is a name has the characters of one. -/
theorem takeToken_name {c : CodePoint} {cs : List CodePoint} (h : (takeToken c cs).1 = .name) :
    IsName (takeToken c cs).2.1 := by
  unfold takeToken at h ⊢
  split at h
  · cases h
  · next hdigit =>
    rw [if_neg hdigit]
    split at h
    · cases h
    · next hpoint =>
      rw [if_neg hpoint]
      split at h
      · next hstart =>
        rw [if_pos hstart]
        exact ⟨c, _, rfl, hstart, fun x hx => List.all_eq_true.mp List.all_takeWhile x hx⟩
      · -- No symbol is a name.
        unfold takeSymbol at h
        repeat' split at h
        all_goals cases h

/-- The names among the tokens are well-formed. Induction along the scan. -/
theorem isName_of_mem_tokens {cs : List CodePoint} {token : Token}
    (h : token ∈ tokens (.ofList cs)) (hkind : token.kind = .name) : IsName token.text.toList := by
  induction cs using scan.induct with
  | case1 =>
    rw [tokens_nil] at h
    cases h
  | case2 c rest hblank ih =>
    rw [tokens_blank hblank] at h
    exact ih h
  | case3 c rest hblank taken ih =>
    rw [tokens_cons (Bool.eq_false_iff.mpr hblank)] at h
    rcases List.mem_cons.mp h with rfl | h
    · exact takeToken_name hkind
    · exact ih h

/-- A reference is a name. -/
theorem isName_of_mem_references {formula name : Text} (h : name ∈ references formula) :
    IsName name.toList := by
  obtain ⟨token, htoken, rfl⟩ := List.mem_map.mp h
  obtain ⟨hmem, hreference⟩ := List.mem_filter.mp htoken
  unfold Token.isReference at hreference
  rw [Bool.and_eq_true, beq_iff_eq] at hreference
  exact isName_of_mem_tokens hmem hreference.1

end FamilyDesign.Formula
