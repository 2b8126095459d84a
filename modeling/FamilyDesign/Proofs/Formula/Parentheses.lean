import FamilyDesign.Proofs.Formula.Scanning
import Mathlib.Data.List.TakeWhile

/-!
# Parentheses of a formula

A scan passes over blanks and nothing else, and a parenthesis is never part of a longer token. So
the parentheses among the tokens are those of the formula, and the count of the open ones, which
starts anew from zero when one is closed too many, tells whether the formula is balanced.

* **`flatMap_tokens`** — the texts of the tokens are the formula without its blanks.
* **`Token.Parenthesised`** — the parentheses in a token.
* **`BalancedFrom`** — characters that are balanced behind some parentheses left open, with one law
  per kind of character.
* **`unbalanced_mem_syntaxProblems_iff`** — what the count says of tokens.
* **`tokens_exact`** — the headline: tokens are lossless, and the check of parentheses is exact.
-/

namespace FamilyDesign.Formula

/-! ## Characters of tokens -/

/-- What a token may hold behind its first character. -/
inductive Continues : CodePoint → Prop
  | digit {c : CodePoint} (h : Text.isDecimalDigit c = true) : Continues c
  | point : Continues (.char '.')
  | name {c : CodePoint} (h : inName c = true) : Continues c
  | equal : Continues (.char '=')

/-- What continues a token is not blank. -/
theorem isBlank_of_continues {c : CodePoint} (h : Continues c) : Text.isBlank c = false := by
  cases h with
  | digit h => exact isBlank_of_isDecimalDigit h
  | point => decide
  | name h =>
    unfold inName at h
    rcases Bool.or_eq_true_iff.mp h with hstart | hdigit
    · exact isBlank_of_startsName hstart
    · exact isBlank_of_isDecimalDigit (isDecimalDigit_of_isDigit hdigit)
  | equal => decide

/-- An opening parenthesis continues no token. -/
theorem not_continues_opening : ¬Continues (.char '(') := by
  intro h
  cases h with
  | digit h => exact absurd h (by decide)
  | name h => exact absurd h (by decide)

/-- A closing parenthesis continues no token. -/
theorem not_continues_closing : ¬Continues (.char ')') := by
  intro h
  cases h with
  | digit h => exact absurd h (by decide)
  | name h => exact absurd h (by decide)

variable {c x : CodePoint} {cs rest : List CodePoint}

/-- The places behind a point continue the number. -/
theorem continues_of_mem_splitFraction (h : x ∈ (splitFraction cs).1) : Continues x := by
  unfold splitFraction at h
  split at h
  · rcases List.mem_cons.mp h with rfl | hmem
    · exact .point
    · exact .digit (List.mem_takeWhile_imp hmem)
  · cases h

/-- Behind the first character of a symbol only what continues one is taken. -/
theorem continues_of_mem_takeSymbol (h : x ∈ (takeSymbol c rest).2.1) : x = c ∨ Continues x := by
  unfold takeSymbol at h
  split at h
  · rcases List.mem_cons.mp h with rfl | hmem
    · exact .inl rfl
    · rw [List.mem_singleton.mp hmem]
      exact .inr .equal
  · repeat' split at h
    all_goals exact .inl (List.mem_singleton.mp h)

/-- Behind the first character of a token only what continues one is taken. -/
theorem continues_of_mem_takeToken (h : x ∈ (takeToken c rest).2.1) : x = c ∨ Continues x := by
  unfold takeToken at h
  split at h
  · refine (List.mem_cons.mp h).imp_right fun hmem => ?_
    rcases List.mem_append.mp hmem with hwhole | hfraction
    · exact .digit (List.mem_takeWhile_imp hwhole)
    · exact continues_of_mem_splitFraction hfraction
  · split at h
    · exact (List.mem_cons.mp h).imp_right fun hmem => .digit (List.mem_takeWhile_imp hmem)
    · split at h
      · exact (List.mem_cons.mp h).imp_right fun hmem => .name (List.mem_takeWhile_imp hmem)
      · exact continues_of_mem_takeSymbol h

/-! ## Tokens and the formula -/

/-- **Only blanks are passed over.** Induction along the scan. -/
theorem flatMap_tokens (cs : List CodePoint) :
    (tokens (.ofList cs)).flatMap (·.text.toList) = cs.filter (!Text.isBlank ·) := by
  induction cs using scan.induct with
  | case1 =>
    rw [tokens_nil]
    rfl
  | case2 c rest hblank ih =>
    rw [tokens_blank hblank, ih, List.filter_cons_of_neg (by rw [hblank]; decide)]
  | case3 c rest hblank taken ih =>
    -- A token has no blank in it, so the filter keeps all of it.
    have hvisible : ∀ x ∈ (takeToken c rest).2.1, (!Text.isBlank x) = true := by
      intro x hx
      rcases continues_of_mem_takeToken hx with rfl | hcontinues
      · simpa using hblank
      · rw [isBlank_of_continues hcontinues]
        rfl
    rw [tokens_cons (Bool.eq_false_iff.mpr hblank), List.flatMap_cons, ih,
      ← takeToken_append c rest, List.filter_append, List.filter_eq_self.mpr hvisible]

/-- How a token accounts for the parentheses in it: it is one, or has none. -/
inductive Token.Parenthesised : Token → Prop
  | opening : Parenthesised ⟨.opening, "("⟩
  | closing : Parenthesised ⟨.closing, ")"⟩
  | plain {token : Token} (hopening : token.kind ≠ .opening) (hclosing : token.kind ≠ .closing)
      (hopens : .char '(' ∉ token.text.toList) (hcloses : .char ')' ∉ token.text.toList) :
      Parenthesised token

/-- A symbol that does not open with a parenthesis is none. -/
theorem takeSymbol_kind (hopening : c ≠ .char '(') (hclosing : c ≠ .char ')')
    (rest : List CodePoint) :
    (takeSymbol c rest).1 ≠ .opening ∧ (takeSymbol c rest).1 ≠ .closing := by
  unfold takeSymbol
  rw [if_neg hopening, if_neg hclosing]
  repeat' split
  all_goals exact ⟨nofun, nofun⟩

/-- A token that does not open with a parenthesis is none. -/
theorem takeToken_kind (hopening : c ≠ .char '(') (hclosing : c ≠ .char ')')
    (rest : List CodePoint) :
    (takeToken c rest).1 ≠ .opening ∧ (takeToken c rest).1 ≠ .closing := by
  unfold takeToken
  split
  · exact ⟨nofun, nofun⟩
  · split
    · exact ⟨nofun, nofun⟩
    · split
      · exact ⟨nofun, nofun⟩
      · exact takeSymbol_kind hopening hclosing rest

/-- A parenthesis is taken alone, and never within another token. -/
theorem parenthesised_takeToken (c : CodePoint) (rest : List CodePoint) :
    Token.Parenthesised ⟨(takeToken c rest).1, .ofList (takeToken c rest).2.1⟩ := by
  by_cases hopening : c = .char '('
  · rw [hopening]
    exact .opening
  by_cases hclosing : c = .char ')'
  · rw [hclosing]
    exact .closing
  obtain ⟨hnotOpening, hnotClosing⟩ := takeToken_kind hopening hclosing rest
  -- A parenthesis further in would have to continue the token, and neither does.
  refine .plain hnotOpening hnotClosing (fun hmem => ?_) (fun hmem => ?_)
  · rcases continues_of_mem_takeToken hmem with heq | hcontinues
    · exact hopening heq.symm
    · exact not_continues_opening hcontinues
  · rcases continues_of_mem_takeToken hmem with heq | hcontinues
    · exact hclosing heq.symm
    · exact not_continues_closing hcontinues

/-- Every parenthesis is a token of its own. Induction along the scan. -/
theorem parenthesised_of_mem_tokens {token : Token} (h : token ∈ tokens (.ofList cs)) :
    token.Parenthesised := by
  induction cs using scan.induct with
  | case1 =>
    rw [tokens_nil] at h
    cases h
  | case2 c rest hblank ih =>
    rw [tokens_blank hblank] at h
    exact ih h
  | case3 c rest hblank taken ih =>
    rw [tokens_cons (Bool.eq_false_iff.mpr hblank)] at h
    rcases List.mem_cons.mp h with rfl | hmem
    · exact parenthesised_takeToken c rest
    · exact ih hmem

/-- A token with a parenthesis in it is that parenthesis. -/
theorem Token.Parenthesised.mem_iff {token : Token} (h : token.Parenthesised) :
    (.char '(' ∈ token.text.toList ↔ token = ⟨.opening, "("⟩) ∧
      (.char ')' ∈ token.text.toList ↔ token = ⟨.closing, ")"⟩) := by
  cases h with
  | opening => exact ⟨by decide, by decide⟩
  | closing => exact ⟨by decide, by decide⟩
  | plain hopening hclosing hopens hcloses =>
    refine ⟨iff_of_false hopens ?_, iff_of_false hcloses ?_⟩
    · rintro rfl
      exact hopening rfl
    · rintro rfl
      exact hclosing rfl

/-! ## Balance -/

/-- Characters that are balanced behind `depth` parentheses left open: no part at the front closes
more than are open, and in the end all are closed. -/
structure BalancedFrom (depth : Nat) (cs : List CodePoint) : Prop where
  front : ∀ before, before <+: cs →
    before.count (.char ')') ≤ depth + before.count (.char '(')
  total : cs.count (.char ')') = depth + cs.count (.char '(')

/-- Characters of which no part at the front closes more parentheses than it opens, and which as a
whole close as many as they open. -/
def Balanced (cs : List CodePoint) : Prop := BalancedFrom 0 cs

variable {depth : Nat}

/-- An empty rest is balanced just if nothing is open. -/
theorem balancedFrom_nil : BalancedFrom depth [] ↔ depth = 0 := by
  constructor
  · intro h
    exact h.total.symm
  · rintro rfl
    refine ⟨fun before hbefore => ?_, rfl⟩
    rw [List.prefix_nil.mp hbefore]
    exact Nat.le_refl 0

/-- The parts at the front of characters are nothing, or start with the first of them. -/
theorem balancedFrom_cons : BalancedFrom depth (c :: cs) ↔
    (∀ before, before <+: cs →
      (c :: before).count (.char ')') ≤ depth + (c :: before).count (.char '(')) ∧
      (c :: cs).count (.char ')') = depth + (c :: cs).count (.char '(') := by
  constructor
  · intro h
    exact ⟨fun before hbefore => h.front _ (List.cons_prefix_cons.mpr ⟨rfl, hbefore⟩), h.total⟩
  · rintro ⟨hfront, htotal⟩
    refine ⟨fun before hbefore => ?_, htotal⟩
    rcases List.prefix_cons_iff.mp hbefore with rfl | ⟨before, rfl, hrest⟩
    · exact Nat.zero_le _
    · exact hfront before hrest

/-- An opening parenthesis opens one more. -/
theorem balancedFrom_opening :
    BalancedFrom depth (.char '(' :: cs) ↔ BalancedFrom (depth + 1) cs := by
  have hcloses : ∀ cs : List CodePoint, (.char '(' :: cs).count (CodePoint.char ')')
      = cs.count (.char ')') := fun cs => List.count_cons_of_ne (by decide)
  have hopens : ∀ cs : List CodePoint, depth + (.char '(' :: cs).count (CodePoint.char '(')
      = depth + 1 + cs.count (.char '(') := by
    intro cs
    rw [List.count_cons_self]
    omega
  rw [balancedFrom_cons]
  simp only [hcloses, hopens]
  exact ⟨fun h => ⟨h.1, h.2⟩, fun h => ⟨h.front, h.total⟩⟩

/-- A closing parenthesis closes one of those open. -/
theorem balancedFrom_closing :
    BalancedFrom (depth + 1) (.char ')' :: cs) ↔ BalancedFrom depth cs := by
  have hcloses : ∀ cs : List CodePoint, (.char ')' :: cs).count (CodePoint.char ')')
      = cs.count (.char ')') + 1 := fun cs => List.count_cons_self
  have hopens : ∀ cs : List CodePoint, depth + 1 + (.char ')' :: cs).count (CodePoint.char '(')
      = depth + cs.count (.char '(') + 1 := by
    intro cs
    rw [List.count_cons_of_ne (by decide)]
    omega
  rw [balancedFrom_cons]
  simp only [hcloses, hopens, Nat.add_le_add_iff_right, Nat.add_right_cancel_iff]
  exact ⟨fun h => ⟨h.1, h.2⟩, fun h => ⟨h.front, h.total⟩⟩

/-- Nothing makes good for a parenthesis that is closed too many. -/
theorem not_balancedFrom_closing : ¬BalancedFrom 0 (.char ')' :: cs) := by
  intro h
  exact absurd (h.front [.char ')'] ⟨cs, rfl⟩) (by decide)

/-- Any other character leaves the count as it is. -/
theorem balancedFrom_plain (hopening : c ≠ .char '(') (hclosing : c ≠ .char ')') :
    BalancedFrom depth (c :: cs) ↔ BalancedFrom depth cs := by
  rw [balancedFrom_cons]
  simp only [List.count_cons_of_ne hopening, List.count_cons_of_ne hclosing]
  exact ⟨fun h => ⟨h.1, h.2⟩, fun h => ⟨h.front, h.total⟩⟩

/-- A front without parentheses leaves the count as it is. -/
theorem balancedFrom_append (hopens : .char '(' ∉ cs) (hcloses : .char ')' ∉ cs) :
    BalancedFrom depth (cs ++ rest) ↔ BalancedFrom depth rest := by
  induction cs with
  | nil => exact Iff.rfl
  | cons c cs ih =>
    rw [List.mem_cons, not_or] at hopens hcloses
    rw [List.cons_append, balancedFrom_plain (Ne.symm hopens.1) (Ne.symm hcloses.1),
      ih hopens.2 hcloses.2]

/-- Characters other than parentheses may be left out. -/
theorem balancedFrom_filter {p : CodePoint → Bool} (hopening : p '(' = true)
    (hclosing : p ')' = true) : BalancedFrom depth (cs.filter p) ↔ BalancedFrom depth cs := by
  induction cs generalizing depth with
  | nil => exact Iff.rfl
  | cons c cs ih =>
    by_cases hopen : c = .char '('
    · rw [hopen, List.filter_cons_of_pos hopening, balancedFrom_opening, balancedFrom_opening, ih]
    by_cases hclose : c = .char ')'
    · rw [hclose, List.filter_cons_of_pos hclosing]
      -- At depth zero both sides fail, whatever comes after.
      cases depth with
      | zero => exact iff_of_false not_balancedFrom_closing not_balancedFrom_closing
      | succ depth => rw [balancedFrom_closing, balancedFrom_closing, ih]
    rw [balancedFrom_plain hopen hclose, ← ih]
    cases hp : p c with
    | true => rw [List.filter_cons_of_pos hp, balancedFrom_plain hopen hclose]
    | false => rw [List.filter_cons_of_neg (by rw [hp]; exact Bool.false_ne_true)]

/-! ## The count of open parentheses -/

/-- One token is reported as unbalanced if it closes what was not opened; the rest is checked from
the count behind it. -/
theorem unbalanced_mem_cons_iff {place : Place} {token : Token} {ts : List Token} :
    .unbalanced ∈ syntaxProblems depth place (token :: ts) ↔
      (token.kind = .closing ∧ depth = 0) ∨
        .unbalanced ∈ syntaxProblems (Stage.after ⟨depth, place, false⟩ token.kind).depth
          token.kind.placeAfter ts := by
  have hleft : Problem.unbalanced ∉
      (if lacksLeft place token then [.missingLeft token.text] else []) := by
    split <;> simp
  rw [syntaxProblems, List.mem_append, List.mem_append, or_iff_right hleft]
  refine or_congr ?_ Iff.rfl
  split
  · next h => exact iff_of_true List.mem_cons_self h
  · next h => exact iff_of_false List.not_mem_nil h

/-- **What the count says of tokens.** A count that has started anew has reported the closing
parenthesis before, so it does not matter what it counts from there. Induction on the tokens. -/
theorem unbalanced_mem_syntaxProblems_iff {place : Place} {ts : List Token}
    (h : ∀ token ∈ ts, token.Parenthesised) :
    .unbalanced ∈ syntaxProblems depth place ts ↔
      ¬BalancedFrom depth (ts.flatMap (·.text.toList)) := by
  induction ts generalizing depth place with
  | nil =>
    rw [List.flatMap_nil, balancedFrom_nil, syntaxProblems, List.mem_append]
    by_cases hdepth : 0 < depth
    · rw [if_pos hdepth]
      exact iff_of_true (.inl List.mem_cons_self) (Nat.ne_of_gt hdepth)
    · rw [if_neg hdepth]
      refine iff_of_false ?_ (fun hne => hne (Nat.eq_zero_of_not_pos hdepth))
      split <;> simp
  | cons token ts ih =>
    obtain ⟨htoken, hrest⟩ := List.forall_mem_cons.mp h
    rw [unbalanced_mem_cons_iff, ih hrest, List.flatMap_cons]
    cases htoken with
    | opening =>
      rw [or_iff_right (nofun : ¬(TokenKind.opening = .closing ∧ depth = 0))]
      exact not_congr balancedFrom_opening.symm
    | closing =>
      cases depth with
      | zero => exact iff_of_true (.inl ⟨rfl, rfl⟩) not_balancedFrom_closing
      | succ depth =>
        rw [or_iff_right (nofun : ¬(TokenKind.closing = .closing ∧ depth + 1 = 0))]
        exact not_congr balancedFrom_closing.symm
    | plain hopening hclosing hopens hcloses =>
      have hdepth : (Stage.after ⟨depth, place, false⟩ token.kind).depth = depth := by
        unfold Stage.after
        cases hkind : token.kind with
        | opening => exact absurd hkind hopening
        | closing => exact absurd hkind hclosing
        | _ => rfl
      rw [or_iff_right (fun hboth => hclosing hboth.1), hdepth]
      exact not_congr (balancedFrom_append hopens hcloses).symm

/-! ## The headline -/

/-- Texts of which one begins with what the other does not begin with. -/
theorem ne_of_start (start : Text) {t other : Text} (ht : start.toList <+: t.toList)
    (hother : start.toList.isPrefixOf other.toList = false) : t ≠ other := by
  rintro rfl
  rw [List.isPrefixOf_iff_prefix.mpr ht] at hother
  cases hother

/-- No other problem has the wording of unbalanced parentheses. -/
theorem message_eq_unbalanced_iff {problem : Problem} :
    problem.message = "Unbalanced parentheses" ↔ problem = .unbalanced := by
  cases problem with
  | unbalanced => exact iff_of_true rfl rfl
  | empty => exact iff_of_false (by decide +kernel) nofun
  | noOperator => exact iff_of_false (by decide +kernel) nofun
  | selfReference => exact iff_of_false (by decide +kernel) nofun
  | endsWithOperator => exact iff_of_false (by decide +kernel) nofun
  -- The messages that carry a text are told apart by how they start.
  | unexpected text =>
    refine iff_of_false (ne_of_start "Unexpected character: " ?_ ?_) nofun
    · exact List.prefix_append _ _
    · decide +kernel
  | undefinedName name =>
    refine iff_of_false (ne_of_start "Undefined parameter reference: " ?_ ?_) nofun
    · exact List.prefix_append _ _
    · decide +kernel
  | missingLeft operator =>
    refine iff_of_false (ne_of_start "Operator '" ?_ ?_) nofun
    · exact (List.prefix_append _ _).trans (List.prefix_append _ _)
    · decide +kernel

/-- A problem of a single token is none of the parentheses. -/
theorem tokenProblem?_ne_unbalanced {known : List Text} (token : Token) :
    tokenProblem? known token ≠ some .unbalanced := by
  unfold tokenProblem?
  repeat' split
  all_goals nofun

/-- Without a token there is no parenthesis. -/
theorem balanced_of_isAllBlank {formula : Text} (h : Text.isAllBlank formula = true) :
    Balanced formula.toList := by
  have hnone := flatMap_tokens formula.toList
  rw [tokens_of_all_blank h] at hnone
  unfold Balanced
  rw [← balancedFrom_filter (p := (!Text.isBlank ·)) (by decide) (by decide), ← hnone]
  exact balancedFrom_nil.mpr rfl

/-- A formula is reported as unbalanced just if it is. -/
theorem unbalanced_mem_problems_iff {formula : Text} {known : List Text} :
    .unbalanced ∈ problems formula known ↔ ¬Balanced formula.toList := by
  unfold problems
  split
  · next hblank =>
    exact iff_of_false (by simp) (not_not_intro (balanced_of_isAllBlank hblank))
  · -- The other checks report problems of other kinds.
    have hoperator : Problem.unbalanced ∉
        (if (tokens formula).any (·.kind == .operator) then [] else [Problem.noOperator]) := by
      split <;> simp
    have htokens : Problem.unbalanced ∉ (tokens formula).filterMap (tokenProblem? known) := by
      intro hmem
      obtain ⟨token, -, hproblem⟩ := List.mem_filterMap.mp hmem
      exact tokenProblem?_ne_unbalanced token hproblem
    rw [List.mem_append, List.mem_append, or_iff_right (not_or.mpr ⟨hoperator, htokens⟩),
      unbalanced_mem_syntaxProblems_iff fun token => parenthesised_of_mem_tokens,
      flatMap_tokens formula.toList, balancedFrom_filter (by decide) (by decide)]
    exact Iff.rfl

/-- **Tokens are lossless and the check of parentheses is exact.** Of every formula the texts of the
tokens, one after another, are its characters without the blanks; a token with a parenthesis in it
is that parenthesis and nothing else. Whatever names are known, the formula is reported as
unbalanced just if it is: some part at its front closes more parentheses than it opens, or there are
not as many closed as opened. A blank formula, which is reported as empty only, is balanced. -/
theorem tokens_exact (formula : Text) (known : List Text) :
    (tokens formula).flatMap (·.text.toList) = formula.toList.filter (!Text.isBlank ·) ∧
    (∀ token ∈ tokens formula,
      (.char '(' ∈ token.text.toList ↔ token = ⟨.opening, "("⟩) ∧
        (.char ')' ∈ token.text.toList ↔ token = ⟨.closing, ")"⟩)) ∧
    (("Unbalanced parentheses" : Text) ∈ (problems formula known).map Problem.message ↔
      ¬Balanced formula.toList) := by
  refine ⟨flatMap_tokens formula.toList, fun token htoken => ?_, ?_⟩
  · exact (parenthesised_of_mem_tokens htoken).mem_iff
  · -- The check is proved of the problem; its wording belongs to no other.
    have hproblem : .unbalanced ∈ problems formula known ↔ ¬Balanced formula.toList :=
      unbalanced_mem_problems_iff
    rw [← hproblem, List.mem_map]
    constructor
    · rintro ⟨problem, hproblem, hmessage⟩
      rwa [message_eq_unbalanced_iff.mp hmessage] at hproblem
    · intro hproblem
      exact ⟨_, hproblem, rfl⟩

end FamilyDesign.Formula
