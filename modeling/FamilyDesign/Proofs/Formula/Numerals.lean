import FamilyDesign.Formula.Substitution
import FamilyDesign.Proofs.Fallible
import FamilyDesign.Proofs.Formula.Scanning
import FamilyDesign.Proofs.Numeric.Gaps
import FamilyDesign.Proofs.Numeric.ReadBack

/-!
# Numbers in formulas

The notation of a number is not always one token of a formula: a minus ahead of it is an operator,
and the mark of an exponent is a name with another operator behind it. What a formula asks behind a
number depends on that, and on whether the number has shown its point.

* **`Numeral`** — the forms in which integers and finite reals are written.
* **`numeral_intText`**, **`exists_numeral_natural`** — every one is written in one of them.
* **`accepts_numeral_iff`** — what a formula asks where a number stands.
* **`expand_numeral`** — taken as a template a number stands for itself.
-/

namespace FamilyDesign.Formula

variable {known : List Text}

/-! ## Forms -/

/-- How the magnitude of a number is written. -/
inductive Form
  | integral
  | positional
  | scientific
deriving DecidableEq

/-- The characters of a magnitude: digits, digits around a point, or either of these with an
exponent behind it. -/
inductive Magnitude : Form → List CodePoint → Prop
  | integral {digits : List CodePoint} (hne : digits ≠ [])
      (hdigits : ∀ c ∈ digits, c.isDigit = true) : Magnitude .integral digits
  | positional {digits places : List CodePoint} (hne : digits ≠ [])
      (hdigits : ∀ c ∈ digits, c.isDigit = true) (hne' : places ≠ [])
      (hplaces : ∀ c ∈ places, c.isDigit = true) :
      Magnitude .positional (digits ++ .char '.' :: places)
  | scientific {form : Form} {mantissa exponent : List CodePoint} {sign : CodePoint}
      (h : Magnitude form mantissa) (hform : form ≠ .scientific)
      (hsign : sign = .char '-' ∨ sign = .char '+') (hne : exponent ≠ [])
      (hexponent : ∀ c ∈ exponent, c.isDigit = true) :
      Magnitude .scientific (mantissa ++ .char 'e' :: sign :: exponent)

/-- The characters of a number: a magnitude, behind a minus if it is signed. -/
inductive Numeral : Bool → Form → List CodePoint → Prop
  | unsigned {form : Form} {cs : List CodePoint} (h : Magnitude form cs) : Numeral false form cs
  | signed {form : Form} {cs : List CodePoint} (h : Magnitude form cs) :
      Numeral true form (.char '-' :: cs)

variable {form : Form} {signed : Bool} {cs rest : List CodePoint} {c : CodePoint}

/-- A magnitude opens with a digit. -/
theorem exists_digit_of_magnitude (h : Magnitude form cs) :
    ∃ c rest, cs = c :: rest ∧ c.isDigit = true := by
  induction h with
  | integral hne hdigits =>
    obtain ⟨c, rest, rfl⟩ := List.exists_cons_of_ne_nil hne
    exact ⟨c, rest, rfl, hdigits c List.mem_cons_self⟩
  | positional hne hdigits =>
    obtain ⟨c, rest, rfl⟩ := List.exists_cons_of_ne_nil hne
    exact ⟨c, _, rfl, hdigits c List.mem_cons_self⟩
  | scientific _ _ _ _ _ ih =>
    obtain ⟨c, rest, rfl, hdigit⟩ := ih
    exact ⟨c, _, rfl, hdigit⟩

/-- The exponent mark tells a form. -/
theorem mark_mem_iff (h : Magnitude form cs) : CodePoint.char 'e' ∈ cs ↔ form = .scientific := by
  have hplain : ∀ {cs : List CodePoint}, (∀ c ∈ cs, c.isDigit = true) → CodePoint.char 'e' ∉ cs :=
    fun hall hmem => absurd (hall _ hmem) (by decide)
  -- Only the scientific form writes a mark; the others are digits and at most a point.
  cases h with
  | integral hne hdigits => exact iff_of_false (hplain hdigits) nofun
  | positional hne hdigits hne' hplaces =>
    refine iff_of_false (fun hmem => ?_) nofun
    rcases List.mem_append.mp hmem with hmem | hmem
    · exact hplain hdigits hmem
    · rcases List.mem_cons.mp hmem with heq | hmem
      · cases heq
      · exact hplain hplaces hmem
  | scientific =>
    exact iff_of_true (List.mem_append_right _ List.mem_cons_self) rfl

/-- The sign in front does not bear on the exponent mark. -/
theorem mark_mem_numeral_iff (h : Numeral signed form cs) :
    CodePoint.char 'e' ∈ cs ↔ form = .scientific := by
  cases h with
  | unsigned h => exact mark_mem_iff h
  | signed h =>
    rw [List.mem_cons, mark_mem_iff h]
    exact or_iff_right nofun

theorem numeral_ne_nil (h : Numeral signed form cs) : cs ≠ [] := by
  cases h with
  | unsigned h =>
    obtain ⟨c, rest, rfl, -⟩ := exists_digit_of_magnitude h
    exact List.cons_ne_nil c rest
  | signed => exact List.cons_ne_nil _ _

/-- A numeral does not open with an equals sign. -/
theorem head?_numeral_ne_equal (h : Numeral signed form cs) : cs.head? ≠ some (.char '=') := by
  cases h with
  | unsigned h =>
    obtain ⟨c, rest, rfl, hdigit⟩ := exists_digit_of_magnitude h
    intro heq
    cases heq
    cases hdigit
  | signed => nofun

/-- A number starts with a digit unless it is signed. -/
theorem digitAhead_numeral (h : Numeral signed form cs) : digitAhead cs = !signed := by
  cases h with
  | unsigned h =>
    obtain ⟨c, rest, rfl, hdigit⟩ := exists_digit_of_magnitude h
    exact isDecimalDigit_of_isDigit hdigit
  | signed =>
    have hminus : Text.isDecimalDigit '-' = false := by decide
    exact hminus

/-! ## How numbers are written -/

section Written

open Numeric Binary64

theorem magnitude_digitPoints (n : Nat) : Magnitude .integral (digitPoints n) :=
  .integral (digitPoints_ne_nil n) fun _ => isDigit_of_mem_digitPoints

/-- A magnitude behind the sign it is written with is a numeral. -/
theorem numeral_of_sign {negative : Bool} {magnitude : List Char}
    (h : Magnitude form (magnitude.map .char)) :
    Numeral negative form (((if negative then ['-'] else []) ++ magnitude).map .char) := by
  cases negative with
  | false => exact .unsigned h
  | true => exact .signed h

/-- An integer is written with digits. -/
theorem numeral_intText (n : Int) :
    Numeral (decide (n < 0)) .integral ((intText n).toList.map .char) := by
  unfold intText
  rw [String.toList_ofList, ← Bool.cond_decide, Bool.cond_eq_ite]
  exact numeral_of_sign (magnitude_digitPoints n.natAbs)

/-- A magnitude without an exponent takes one. -/
theorem magnitude_exponentMark {mantissa : List CodePoint} (h : Magnitude form mantissa)
    (hform : form ≠ .scientific) (e : Int) :
    Magnitude .scientific (mantissa ++ (exponentMark e).map .char) := by
  obtain ⟨zeros, hmark⟩ := map_exponentMark e
  rw [hmark]
  refine .scientific h hform ?_ (List.append_ne_nil_of_right_ne_nil _ (digitPoints_ne_nil _))
    (isDigit_of_mem_zeros_append fun _ => isDigit_of_mem_digitPoints)
  split
  · exact .inl rfl
  · exact .inr rfl

/-- What is written with an exponent has the scientific form. -/
theorem magnitude_scientific (d : Decimal) :
    Magnitude .scientific (d.scientific.map .char) := by
  have hdigits : ∀ c ∈ digitPoints d.digits, c.isDigit = true :=
    fun _ => isDigit_of_mem_digitPoints
  have hne := digitPoints_ne_nil d.digits
  unfold digitPoints at hdigits hne
  unfold Decimal.scientific
  dsimp only
  cases hds : decimalDigits d.digits with
  | nil =>
    rw [hds] at hne
    exact absurd rfl hne
  | cons first places =>
    rw [hds] at hdigits
    have hfirst : ∀ c ∈ [CodePoint.char first], c.isDigit = true :=
      List.forall_mem_singleton.mpr (hdigits _ List.mem_cons_self)
    -- One digit stands alone before the mark, more stand behind a point.
    cases places with
    | nil =>
      exact magnitude_exponentMark (.integral (List.cons_ne_nil _ _) hfirst) nofun _
    | cons second places =>
      have hplaces : ∀ c ∈ (second :: places).map CodePoint.char, c.isDigit = true :=
        fun c hc => hdigits c (List.mem_cons_of_mem _ hc)
      have hmantissa := Magnitude.positional (List.cons_ne_nil _ _) hfirst
        (by simp) hplaces
      have hmark := magnitude_exponentMark hmantissa nofun
        (d.exponent + ((first :: second :: places).length : Int) - 1)
      rw [List.map_cons, List.map_cons, List.map_append]
      rw [List.singleton_append, List.cons_append, List.cons_append] at hmark
      exact hmark

/-- Digits with a point among them. -/
theorem magnitude_padded {n places : Nat} {padded : List Char} (h : Padded n places padded)
    (hplaces : 0 < places) :
    Magnitude .positional ((padded.take (padded.length - places)
      ++ '.' :: padded.drop (padded.length - places)).map .char) := by
  have hlength := h.length
  rw [List.map_append, List.map_cons]
  refine .positional h.whole_ne_nil h.isDigit_whole ?_ h.isDigit_places
  rw [ne_eq, List.map_eq_nil_iff, List.drop_eq_nil_iff]
  omega

/-- A positive decimal shows a point or an exponent. -/
theorem exists_magnitude_naturalDigits (d : Decimal) :
    ∃ form, form ≠ .integral ∧ Magnitude form ((naturalDigits d).map .char) := by
  unfold naturalDigits
  -- The exponent is the outer choice of the writer, the padding with zeros the inner one.
  split
  · exact ⟨.scientific, nofun, magnitude_scientific d⟩
  · refine ⟨.positional, nofun, ?_⟩
    unfold Decimal.positional
    dsimp only
    split
    · rw [List.map_append, List.map_append, List.map_replicate]
      exact .positional (List.append_ne_nil_of_left_ne_nil (digitPoints_ne_nil _) _)
        (isDigit_of_mem_append_zeros _ _) (List.cons_ne_nil _ _)
        (List.forall_mem_singleton.mpr rfl)
    · exact magnitude_padded (padded_replicate _ _) (by omega)

/-- **A finite real shows a point or an exponent.** -/
theorem exists_numeral_natural {x : Binary64} (h : x.isFinite = true) :
    ∃ form, form ≠ .integral ∧ Numeral x.isNegative form (x.natural.toList.map .char) := by
  cases x with
  | nan => cases h
  | ranked negative rank bounded =>
    have hrank : rank < infinityRank := isFinite_ranked_iff.mp h
    obtain ⟨form, hform, hmagnitude⟩ :
        ∃ form, form ≠ .integral ∧ Magnitude form ((magnitude rank).map .char) := by
      unfold magnitude
      split
      · -- Zero is written apart, as 0.0.
        refine ⟨.positional, nofun, ?_⟩
        have hzero : ∀ c ∈ [CodePoint.char '0'], c.isDigit = true :=
          List.forall_mem_singleton.mpr rfl
        exact .positional (List.cons_ne_nil _ _) hzero (List.cons_ne_nil _ _) hzero
      · exact exists_magnitude_naturalDigits _
    refine ⟨form, hform, ?_⟩
    rw [toList_natural hrank]
    exact numeral_of_sign hmagnitude

end Written

/-! ## Where a number stands -/

/-- What a magnitude leaves open of a number that began ahead of it. -/
def Form.part : Form → Part → Part
  | integral, part => part.digit
  | positional, _ => .fraction
  | scientific, _ => .whole

/-- What a number leaves open: behind a minus it is a number of its own. -/
def landing (signed : Bool) (form : Form) (part : Part) : Part :=
  form.part (if signed then .idle else part)

/-- The stage behind a number, whose minus or exponent is an operator. -/
def Stage.behind (st : Stage) (signed : Bool) (form : Form) : Stage :=
  { st.operand with operated := st.operated || (signed || form == .scientific) }

variable {st : Stage} {part : Part}

/-- Every form leaves part of a number behind it. -/
theorem Form.part_ne_idle (form : Form) (part : Part) : form.part part ≠ .idle := by
  cases form with
  | integral => cases part <;> nofun
  | positional => nofun
  | scientific => nofun

theorem Accepts.behind (signed : Bool) (form : Form) (h : Accepts known st.operand part rest) :
    Accepts known (st.behind signed form) part rest := by
  unfold Stage.behind
  cases signed || form == .scientific with
  | false =>
    rw [Bool.or_false]
    exact h
  | true =>
    rw [Bool.or_true]
    exact h.operate

/-- A name may stand in a formula if it is a function or known. -/
theorem knownName_iff {name : List CodePoint} : KnownName known name ↔
    functions.contains (Text.lower (.ofList name)) = true ∨ .ofList name ∈ known := by
  unfold KnownName tokenProblem? Token.isReference
  rw [if_neg nofun, ite_eq_right_iff, or_iff_not_imp_left]
  simp

/-- The exponent mark is no function. -/
theorem knownName_mark_iff : KnownName known [.char 'e'] ↔ ("e" : Text) ∈ known := by
  have hfunction : functions.contains (Text.lower (.ofList [.char 'e'])) = false := by decide
  rw [knownName_iff, hfunction]
  exact or_iff_right Bool.false_ne_true

/-- A minus may stand anywhere, a plus behind an operand. -/
theorem accepts_sign
    (hsign : c = .char '-' ∨ c = .char '+' ∧ (part.settle st).place = .afterOperand) :
    Accepts known st part (c :: rest) ↔
      Accepts known ((part.settle st).after .operator) .idle rest := by
  have hsymbol : IsSymbol c := by
    rcases hsign with rfl | ⟨rfl, -⟩
    · exact ⟨by decide, by decide, by decide, by decide⟩
    · exact ⟨by decide, by decide, by decide, by decide⟩
  have htaken : takeSymbol c rest = (.operator, [c], rest) := by
    rcases hsign with rfl | ⟨rfl, -⟩ <;> rfl
  have hadmits : (part.settle st).Admits known ⟨.operator, .ofList [c]⟩ := by
    refine ⟨rfl, ?_, nofun⟩
    rcases hsign with rfl | ⟨rfl, hplace⟩
    · rfl
    · unfold lacksLeft
      rw [hplace]
      rfl
  -- A sign is taken alone, so the scan goes on right behind it.
  rw [accepts_symbol hsymbol, htaken]
  exact and_iff_right hadmits

/-- Behind its magnitude an exponent is a name, an operator and a number. -/
theorem accepts_exponent_iff {exponent : List CodePoint}
    (hsign : c = .char '-' ∨ c = .char '+') (hne : exponent ≠ [])
    (hexponent : ∀ x ∈ exponent, Text.isDecimalDigit x = true) :
    Accepts known st part (.char 'e' :: c :: (exponent ++ rest)) ↔
      KnownName known [.char 'e'] ∧ Accepts known (st.behind false .scientific) .whole rest := by
  have hstops : StopsName (c :: (exponent ++ rest)) := by
    intro x hx
    cases hx
    rcases hsign with rfl | rfl <;> decide
  have hplace : c = .char '-' ∨
      c = .char '+' ∧ (Part.idle.settle st.operand).place = .afterOperand :=
    hsign.imp_right fun h => ⟨h, rfl⟩
  have hstage : (Part.idle.settle st.operand).after .operator
      = { st.operand with place := .afterOperator, operated := true } := by
    simp [Part.settle, Stage.after, Stage.operand, TokenKind.placeAfter]
  have hmark : Accepts known st part (.char 'e' :: c :: (exponent ++ rest)) ↔
      KnownName known [.char 'e'] ∧ Accepts known st.operand .idle (c :: (exponent ++ rest)) := by
    rw [← List.singleton_append]
    exact accepts_name rfl (List.forall_mem_nil _) hstops
  -- The mark is read as a name, the sign behind it as an operator, the digits as a number.
  rw [hmark, accepts_sign hplace, accepts_digits hexponent hne,
    ← accepts_operand_iff (show Part.idle.digit ≠ .idle by decide), hstage]
  unfold Stage.behind
  rw [beq_self_eq_true, Bool.or_true, Bool.or_true]
  exact Iff.rfl

/-- **What a scan makes of a magnitude.** It passes as one operand; an exponent asks besides that
`e` be a known name. -/
theorem accepts_magnitude_iff (h : Magnitude form cs) : Accepts known st part (cs ++ rest) ↔
    (form = .scientific → KnownName known [.char 'e']) ∧
      Accepts known (st.behind false form) (form.part part) rest := by
  have hdecimal : ∀ {digits : List CodePoint}, (∀ c ∈ digits, c.isDigit = true) →
      ∀ c ∈ digits, Text.isDecimalDigit c = true :=
    fun h c hc => isDecimalDigit_of_isDigit (h c hc)
  have hbehind : ∀ form : Form, form ≠ .scientific → st.behind false form = st.operand := by
    intro form hform
    unfold Stage.behind
    rw [beq_false_of_ne hform, Bool.or_false, Bool.or_false]
    rfl
  -- Induction on the form: a scientific magnitude is its mantissa, then mark and exponent.
  induction h generalizing rest with
  | integral hne hdigits =>
    rw [accepts_digits (hdecimal hdigits) hne, hbehind .integral (by decide),
      accepts_operand_iff (Form.part_ne_idle _ _)]
    exact (and_iff_right fun hform => absurd hform (by decide)).symm
  | @positional digits places hne hdigits hne' hplaces =>
    have hahead : digitAhead (places ++ rest) = true := by
      obtain ⟨c, places, rfl⟩ := List.exists_cons_of_ne_nil hne'
      exact hdecimal hplaces c List.mem_cons_self
    rw [List.append_assoc, List.cons_append, accepts_digits (hdecimal hdigits) hne, accepts_point,
      accepts_digits (hdecimal hplaces) hne', hbehind .positional (by decide),
      accepts_operand_iff (Form.part_ne_idle _ _)]
    exact and_congr_left' (iff_of_true (.inr hahead) fun hform => absurd hform (by decide))
  | scientific h hform hsign hne hexponent ih =>
    rw [List.append_assoc, List.cons_append, List.cons_append]
    refine ih.trans ?_
    rw [hbehind _ hform, accepts_exponent_iff hsign hne (hdecimal hexponent)]
    exact ⟨fun h => ⟨fun _ => h.2.1, h.2.2⟩, fun h => ⟨fun hsci => absurd hsci hform, h.1 rfl, h.2⟩⟩

/-- **What a formula asks where a number stands**: of the number only that its exponent mark is a
name that is known. -/
theorem accepts_numeral_iff (h : Numeral signed form cs) : Accepts known st part (cs ++ rest) ↔
    (form = .scientific → KnownName known [.char 'e']) ∧
      Accepts known (st.behind signed form) (landing signed form part) rest := by
  cases h with
  | unsigned h => exact accepts_magnitude_iff h
  | signed h =>
    have hstage : ((part.settle st).after .operator).behind false form = st.behind true form := by
      cases part <;> simp [Part.settle, Stage.after, Stage.behind, Stage.operand]
    rw [List.cons_append, accepts_sign (.inl rfl), accepts_magnitude_iff h, hstage]
    exact Iff.rfl

/-! ## Numbers as templates -/

/-- No numeral has a backslash in it. -/
theorem not_mem_backslash (h : Numeral signed form cs) : CodePoint.char '\\' ∉ cs := by
  have hdigits : ∀ {cs : List CodePoint}, (∀ c ∈ cs, c.isDigit = true) →
      CodePoint.char '\\' ∉ cs := fun hall hmem => absurd (hall _ hmem) (by decide)
  have hmagnitude : ∀ {form : Form} {cs : List CodePoint}, Magnitude form cs →
      CodePoint.char '\\' ∉ cs := by
    intro form cs h
    induction h with
    | integral hne h => exact hdigits h
    | positional hne h hne' h' => simp [hdigits h, hdigits h']
    | scientific h hform hsign hne h' ih =>
      rcases hsign with rfl | rfl <;> simp [ih, hdigits h']
  cases h with
  | unsigned h => exact hmagnitude h
  | signed h => simp [hmagnitude h]

section Templates

open Template

/-- A character that is no backslash is a unit. -/
theorem unit?_of_ne (hplain : c ≠ .char '\\') : unit? (c :: rest) = some ([c], rest) := by
  unfold unit?
  split
  · next heq => cases heq
  · next heq =>
    cases heq
    exact absurd rfl hplain
  · next heq =>
    cases heq
    rfl

/-- Without a backslash there is no escape to expand. -/
theorem lookAhead_of_not_mem (hplain : CodePoint.char '\\' ∉ rest) : lookAhead rest = .ok rest := by
  unfold lookAhead
  refine if_neg ?_
  rintro rfl
  exact hplain List.mem_cons_self

/-- A template without a backslash stands for itself. Induction along the template, of which the
fuel never runs out. -/
theorem expandFrom_plain (word : List CodePoint) {template : List CodePoint} {fuel : Nat}
    (hfuel : template.length ≤ fuel) (hplain : CodePoint.char '\\' ∉ template) :
    expandFrom word fuel template = .ok template := by
  induction fuel generalizing template with
  | zero =>
    rw [List.length_eq_zero_iff.mp (Nat.le_zero.mp hfuel)]
    rfl
  | succ fuel ih =>
    cases template with
    | nil => rfl
    | cons c rest =>
      rw [List.mem_cons, not_or] at hplain
      have htail := ih (Nat.le_of_succ_le_succ hfuel) hplain.2
      unfold expandFrom
      rw [unit?_of_ne (Ne.symm hplain.1)]
      refine bind_eq_ok_iff.mpr ⟨rest, lookAhead_of_not_mem hplain.2, ?_⟩
      dsimp only
      -- a unit of one character is no escape
      split
      · next heq => cases heq
      · exact bind_eq_ok_iff.mpr ⟨([c], rest), rfl, bind_eq_ok_iff.mpr ⟨rest, htail, rfl⟩⟩

/-- Taken as a template a number stands for itself. -/
theorem expand_numeral (word : List CodePoint) (h : Numeral signed form cs) :
    expand word cs = .ok cs := by
  have hplain := not_mem_backslash h
  unfold expand
  rw [lookAhead_of_not_mem hplain]
  exact expandFrom_plain word (Nat.le_refl _) hplain

end Templates

end FamilyDesign.Formula
