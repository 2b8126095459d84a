import FamilyDesign.Proofs.Formula.Scanning

/-!
# Operands of an accepted formula

The check of a formula looks back from each operator, and once more from the end of the formula.
What stands behind an operator is therefore judged by the next token alone, and a closing
parenthesis or a comma is no operator: it passes, although it ends an operand just as the end of the
formula does.

* **`HasOperands`** — every operator of a token list has its operands.
* **`Sound.endsOperand`**, **`Sound.beginsOperand`** — what stands on both sides of an operator.
* **`hasOperands_iff`** — a formula without a problem has all operands on the left, and on the right
  just if no operator stands ahead of a closing parenthesis or a comma.
-/

namespace FamilyDesign.Formula

variable {known : List Text}

/-! ## Operands -/

/-- Whether a token behind others is a unary minus: one at the start, or behind an operator, an
opening parenthesis or a comma. -/
def IsUnaryMinus (before : List Token) (token : Token) : Prop :=
  token.kind = .operator ∧ token.text = "-" ∧ ∀ last ∈ before.getLast?,
    last.kind = .operator ∨ last.kind = .opening ∨ last.kind = .comma

/-- Whether tokens end with an operand. -/
def EndsOperand (before : List Token) : Prop :=
  ∃ last ∈ before.getLast?, last.kind = .number ∨ last.kind = .name ∨ last.kind = .closing

/-- Whether the tokens behind others begin with an operand. -/
def BeginsOperand (before after : List Token) : Prop :=
  ∃ next ∈ after.head?, next.kind = .number ∨ next.kind = .name ∨ next.kind = .opening ∨
    IsUnaryMinus before next

/-- Whether every operator follows an operand, unless it is a unary minus. -/
def HasLeftOperands (ts : List Token) : Prop :=
  ∀ before op after, ts = before ++ op :: after → op.kind = .operator →
    ¬IsUnaryMinus before op → EndsOperand before

/-- Whether every operator, a unary minus included, is followed by an operand. -/
def HasRightOperands (ts : List Token) : Prop :=
  ∀ before op after, ts = before ++ op :: after → op.kind = .operator →
    BeginsOperand (before ++ [op]) after

/-- Whether no operator lacks an operand. -/
def HasOperands (ts : List Token) : Prop := HasLeftOperands ts ∧ HasRightOperands ts

/-! ## Stages of the check -/

/-- The stage behind some tokens. -/
def Stage.past (st : Stage) (ts : List Token) : Stage :=
  ts.foldl (fun st token => st.after token.kind) st

/-- The place behind some tokens is that behind the last of them. -/
theorem Stage.place_past (st : Stage) (ts : List Token) :
    (st.past ts).place = (ts.getLast?.map (·.kind.placeAfter)).getD st.place := by
  rcases List.eq_nil_or_concat ts with rfl | ⟨ts, last, rfl⟩
  · rfl
  · unfold past
    rw [List.concat_eq_append, List.getLast?_concat, List.foldl_append]
    rfl

/-- Of tokens without a problem each is admitted where it stands. -/
theorem Sound.append {st : Stage} {before after : List Token}
    (h : Sound known st (before ++ after)) :
    (∀ token ∈ before, tokenProblem? known token = none) ∧ Sound known (st.past before) after := by
  induction before generalizing st with
  | nil => exact ⟨List.forall_mem_nil _, h⟩
  | cons token before ih =>
    obtain ⟨hadmits, hrest⟩ := h
    obtain ⟨hbefore, hafter⟩ := ih hrest
    exact ⟨List.forall_mem_cons.mpr ⟨hadmits.sound, hbefore⟩, hafter⟩

/-- An unexpected character is a problem. -/
theorem kind_ne_other {token : Token} (h : tokenProblem? known token = none) :
    token.kind ≠ .other := by
  intro hkind
  simp [tokenProblem?, hkind] at h

/-! ## Both sides of an operator -/

section Sides

variable {before after : List Token} {op : Token}

/-- An operator that needs an operand on its left has one. -/
theorem Sound.endsOperand (h : Sound known .start (before ++ op :: after))
    (hop : op.kind = .operator) (hunary : ¬IsUnaryMinus before op) : EndsOperand before := by
  obtain ⟨hbefore, hadmits, -⟩ := h.append
  have hplace := Stage.place_past .start before
  -- the start is a fresh place, so an operator there is a minus
  have hleft : op.text = "-" ∨ (Stage.start.past before).place = .afterOperand := by
    have hlacks := hadmits.left
    simp only [lacksLeft, hop, beq_self_eq_true, Bool.true_and, Bool.and_eq_false_iff,
      bne_eq_false_iff_eq] at hlacks
    exact hlacks
  cases hlast : before.getLast? with
  | none =>
    rw [hlast] at hplace
    rcases hleft with hminus | hoperand
    · refine absurd ⟨hop, hminus, ?_⟩ hunary
      rw [hlast]
      nofun
    · rw [hplace] at hoperand
      cases hoperand
  | some last =>
    have hother : last.kind ≠ .other := kind_ne_other (hbefore last (List.mem_of_getLast? hlast))
    rw [hlast] at hplace
    refine ⟨last, hlast, ?_⟩
    rcases hleft with hminus | hoperand
    · have hbinary : ¬(last.kind = .operator ∨ last.kind = .opening ∨ last.kind = .comma) := by
        intro hkind
        apply hunary
        refine ⟨hop, hminus, ?_⟩
        rw [hlast]
        rintro _ ⟨⟩
        exact hkind
      cases hkind : last.kind <;> simp_all
    · rw [hplace] at hoperand
      cases hkind : last.kind <;> simp_all [TokenKind.placeAfter]

/-- Behind an operator there is an operand, or what ends the operand around it. -/
theorem Sound.beginsOperand (h : Sound known .start (before ++ op :: after))
    (hop : op.kind = .operator) :
    BeginsOperand (before ++ [op]) after ∨
      ∃ next ∈ after.head?, next.kind = .closing ∨ next.kind = .comma := by
  obtain ⟨-, -, hrest⟩ := h.append
  rw [hop] at hrest
  cases after with
  | nil => exact absurd rfl hrest.complete
  | cons next after =>
    obtain ⟨hadmits, -⟩ := hrest
    have hother : next.kind ≠ .other := kind_ne_other hadmits.sound
    have hbegins : next.kind = .operator → IsUnaryMinus (before ++ [op]) next := by
      intro hnext
      refine ⟨hnext, ?_, ?_⟩
      · -- no other operator is admitted behind an operator
        have hlacks := hadmits.left
        simpa [lacksLeft, hnext, Stage.after, TokenKind.placeAfter] using hlacks
      · rw [List.getLast?_concat]
        rintro _ ⟨⟩
        exact .inl hop
    -- What begins an operand goes left, what ends the one around it goes right.
    cases hkind : next.kind with
    | number => exact .inl ⟨next, rfl, .inl hkind⟩
    | name => exact .inl ⟨next, rfl, .inr (.inl hkind)⟩
    | opening => exact .inl ⟨next, rfl, .inr (.inr (.inl hkind))⟩
    | operator => exact .inl ⟨next, rfl, .inr (.inr (.inr (hbegins hkind)))⟩
    | closing => exact .inr ⟨next, rfl, .inl hkind⟩
    | comma => exact .inr ⟨next, rfl, .inr hkind⟩
    | other => exact absurd hkind hother

end Sides

/-- A closing parenthesis and a comma begin no operand. -/
theorem not_beginsOperand {before after : List Token} {next : Token}
    (h : next.kind = .closing ∨ next.kind = .comma) : ¬BeginsOperand before (next :: after) := by
  rintro ⟨_, ⟨⟩, hbegins⟩
  unfold IsUnaryMinus at hbegins
  rcases h with hkind | hkind
  · simp [hkind] at hbegins
  · simp [hkind] at hbegins

/-- **Operands of an accepted formula.** Every operator of a formula without a problem follows an
operand unless it is a unary minus. It is followed by one, or by a closing parenthesis or a comma;
so no operand is missing just if no operator stands ahead of these. -/
theorem hasOperands_iff {formula : Text} (h : problems formula known = []) :
    HasLeftOperands (tokens formula) ∧
      (HasOperands (tokens formula) ↔
        ∀ before op next after, tokens formula = before ++ op :: next :: after →
          op.kind = .operator → next.kind ≠ .closing ∧ next.kind ≠ .comma) := by
  have hsound : Sound known .start (tokens formula) := problems_eq_nil_iff.mp h
  have hleft : HasLeftOperands (tokens formula) := by
    intro before op after hsplit
    rw [hsplit] at hsound
    exact hsound.endsOperand
  refine ⟨hleft, fun hoperands => ?_, fun hahead => ⟨hleft, ?_⟩⟩
  · intro before op next after hsplit hop
    have hbegins := hoperands.2 before op (next :: after) hsplit hop
    rw [← not_or]
    exact fun hnext => not_beginsOperand hnext hbegins
  · -- The operator is not last, so there is a next token, and it is neither of the two.
    intro before op after hsplit hop
    rw [hsplit] at hsound
    rcases hsound.beginsOperand hop with hbegins | ⟨next, hnext, hkind⟩
    · exact hbegins
    · obtain ⟨rest, rfl⟩ : ∃ rest, after = next :: rest := by
        cases after with
        | nil => cases hnext
        | cons first rest =>
          cases hnext
          exact ⟨rest, rfl⟩
      obtain ⟨hclosing, hcomma⟩ := hahead before op next rest hsplit hop
      exact absurd hkind (not_or.mpr ⟨hclosing, hcomma⟩)

/-- A sum that is closed ahead of its second operand is accepted. -/
theorem hasOperands_iff_openSum :
    problems "(1 + )" [] = [] ∧ HasLeftOperands (tokens "(1 + )") ∧
      ¬HasOperands (tokens "(1 + )") := by
  have haccepted : problems "(1 + )" [] = [] := by decide +kernel
  have htokens : tokens "(1 + )"
      = [⟨.opening, "("⟩, ⟨.number, "1"⟩, ⟨.operator, "+"⟩, ⟨.closing, ")"⟩] := by
    decide +kernel
  obtain ⟨hleft, hiff⟩ := hasOperands_iff haccepted
  refine ⟨haccepted, hleft, fun hoperands => ?_⟩
  exact (hiff.mp hoperands [⟨.opening, "("⟩, ⟨.number, "1"⟩] _ _ [] htokens rfl).1 rfl

end FamilyDesign.Formula
