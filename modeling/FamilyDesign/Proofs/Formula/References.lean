import FamilyDesign.Proofs.Formula.Numerals
import FamilyDesign.Proofs.Formula.Replacing
import Mathlib.Data.List.TakeWhile

/-!
# References of a replaced formula

A name starts at any character that a name may start with, behind a digit too; but behind a digit it
is not a whole word, so a number is put in its place only elsewhere. Numbers and symbols are no
references, whichever way a scan groups them, so what a substitution does to the references of a
formula is told name by name.

* **`references_append`** — characters at which no name starts do not matter.
* **`Stuck`** — the word stands right behind digits that do not belong to a name.
* **`filter_references_replaceFrom`**, **`mem_references_replaceFrom_iff`** — the references of the
  replaced text: other names stay, and the word stays just where it is stuck.
* **`references_substitute`** — the headline: the word is gone, and nothing else, just if it is
  stuck nowhere.
-/

namespace FamilyDesign.Formula

variable {c : CodePoint} {cs rest : List CodePoint}

/-! ## References of a text -/

/-- The reference that a name is, unless it is a function. -/
def referenceOf (name : List CodePoint) : List Text :=
  ([⟨.name, .ofList name⟩].filter Token.isReference).map (·.text)

theorem references_nil : references (.ofList []) = [] := by
  unfold references
  rw [tokens_nil]
  rfl

theorem references_blank (hblank : Text.isBlank c = true) (cs : List CodePoint) :
    references (.ofList (c :: cs)) = references (.ofList cs) := by
  unfold references
  rw [tokens_blank hblank]

/-- The references of a text are its first token, if it is one, and those behind it. -/
theorem references_token (hblank : Text.isBlank c = false) (cs : List CodePoint) :
    references (.ofList (c :: cs))
      = ([⟨(takeToken c cs).1, .ofList (takeToken c cs).2.1⟩].filter Token.isReference).map (·.text)
        ++ references (.ofList (takeToken c cs).2.2) := by
  unfold references
  rw [tokens_cons hblank, ← List.singleton_append, List.filter_append, List.map_append]

/-- Only names are references. -/
theorem filter_isReference_of_kind {token : Token} (h : token.kind ≠ .name) :
    [token].filter Token.isReference = [] := by
  refine List.filter_cons_of_neg ?_
  unfold Token.isReference
  rw [beq_false_of_ne h, Bool.false_and]
  exact Bool.false_ne_true

/-- A token at whose first character no name starts is no name, and none starts within it. -/
theorem takeToken_plain (hstart : startsName c = false) (cs : List CodePoint) :
    (takeToken c cs).1 ≠ .name ∧ ∀ x ∈ (takeToken c cs).2.1, startsName x = false := by
  have hdigits : ∀ {cs : List CodePoint}, ∀ x ∈ cs.takeWhile Text.isDecimalDigit,
      startsName x = false :=
    fun x hx => startsName_of_isDecimalDigit (List.mem_takeWhile_imp hx)
  -- Numbers, decimals that open with a point and symbols remain, and none has a letter in it.
  unfold takeToken
  split
  · refine ⟨nofun, List.forall_mem_cons.mpr ⟨hstart, fun x hx => ?_⟩⟩
    rcases List.mem_append.mp hx with hwhole | hfraction
    · exact hdigits x hwhole
    · unfold splitFraction at hfraction
      split at hfraction
      · rcases List.mem_cons.mp hfraction with rfl | hplaces
        · rfl
        · exact hdigits x hplaces
      · cases hfraction
  · split
    · exact ⟨nofun, List.forall_mem_cons.mpr ⟨hstart, hdigits⟩⟩
    · rw [hstart, if_neg Bool.false_ne_true]
      unfold takeSymbol
      split
      · exact ⟨nofun, List.forall_mem_cons.mpr ⟨hstart, List.forall_mem_singleton.mpr rfl⟩⟩
      · repeat' split
        all_goals exact ⟨nofun, List.forall_mem_singleton.mpr hstart⟩

/-- A name is taken whole, up to what stops it. -/
theorem takeToken_of_isName {name : List CodePoint} (hstart : startsName c = true)
    (hname : ∀ x ∈ name, inName x = true) (hstops : StopsName rest) :
    takeToken c (name ++ rest) = (.name, c :: name, rest) := by
  have hpoint : c ≠ .char '.' := by
    rintro rfl
    cases hstart
  unfold takeToken
  rw [isDecimalDigit_of_startsName hstart, if_neg Bool.false_ne_true, beq_false_of_ne hpoint,
    Bool.false_and, if_neg Bool.false_ne_true, if_pos hstart, takeWhile_inName hname hstops,
    dropWhile_inName hname hstops]

/-- A name in front is a reference unless it is a function's. -/
theorem references_name {name : List CodePoint} (hname : IsName name) (hstops : StopsName rest) :
    references (.ofList (name ++ rest)) = referenceOf name ++ references (.ofList rest) := by
  obtain ⟨c, name, rfl, hstart, hname⟩ := hname
  rw [List.cons_append, references_token (isBlank_of_startsName hstart),
    takeToken_of_isName hstart hname hstops]
  rfl

/-- **Characters at which no name starts do not matter.** They fall into other tokens when more of
them are ahead, so the induction is on the length of the whole text. -/
theorem references_append {plain : List CodePoint} (hplain : ∀ x ∈ plain, startsName x = false)
    (rest : List CodePoint) :
    references (.ofList (plain ++ rest)) = references (.ofList rest) := by
  induction hlength : (plain ++ rest).length using Nat.strongRecOn generalizing plain rest with
  | ind n ih =>
    cases plain with
    | nil => rfl
    | cons c plain =>
      rw [List.forall_mem_cons] at hplain
      have hshorter : (plain ++ rest).length < n := by
        rw [← hlength]
        exact Nat.lt_succ_self _
      have hahead := ih _ hshorter hplain.2 rest rfl
      cases hblank : Text.isBlank c with
      | true => rw [List.cons_append, references_blank hblank, hahead]
      | false =>
        obtain ⟨hkind, htext⟩ := takeToken_plain hplain.1 (plain ++ rest)
        have happend := takeToken_append c (plain ++ rest)
        obtain ⟨first, more, htaken⟩ :=
          List.exists_cons_of_ne_nil (takeToken_ne_nil c (plain ++ rest))
        rw [htaken, List.cons_append, List.cons.injEq] at happend
        rw [htaken, List.forall_mem_cons] at htext
        -- what the token leaves and what was left before have the same references
        have htail := ih _ hshorter htext.2 _ (congrArg List.length happend.2)
        rw [happend.2, hahead] at htail
        rw [List.cons_append, references_token hblank, filter_isReference_of_kind hkind, htail]
        rfl

/-- Induction along a text by its names, each taken whole, and the characters between them. -/
@[elab_as_elim]
theorem names_induction {motive : List CodePoint → Prop} (nil : motive [])
    (plain : ∀ c rest, startsName c = false → motive rest → motive (c :: rest))
    (name : ∀ c name rest, startsName c = true → (∀ x ∈ name, inName x = true) → StopsName rest →
      motive rest → motive (c :: name ++ rest))
    (cs : List CodePoint) : motive cs := by
  induction cs using pieces_induction with
  | nil => exact nil
  | blank c rest hblank ih => exact plain c rest (startsName_of_isBlank hblank) ih
  | digit c rest hdigit ih => exact plain c rest (startsName_of_isDecimalDigit hdigit) ih
  | point rest ih => exact plain _ rest rfl ih
  | name c word rest hstart hname hstops ih => exact name c word rest hstart hname hstops ih
  | symbol c rest hsymbol ih =>
    refine plain c rest hsymbol.name ?_
    -- A symbol of two characters is passed over as two plain ones.
    rcases takeSymbol_rest c rest with hrest | hrest
    · rwa [hrest] at ih
    · rw [hrest]
      exact plain _ _ rfl ih

/-! ## Words behind digits -/

/-- Digits are ahead, if any, and right behind them the word. -/
def BehindDigits (word cs : List CodePoint) : Prop :=
  ∃ digits after, cs = digits ++ (word ++ after) ∧ (∀ c ∈ digits, c.isDigit = true) ∧
    StopsName after

/-- Somewhere the word stands right behind digits that do not belong to a name. -/
def Stuck (word cs : List CodePoint) : Prop :=
  ∃ before digit rest, cs = before ++ digit :: rest ∧ (∀ c ∈ before.getLast?, inName c = false) ∧
    digit.isDigit = true ∧ BehindDigits word rest

variable {word number name : List CodePoint}

theorem startsName_of_isDigit (h : c.isDigit = true) : startsName c = false :=
  startsName_of_isDecimalDigit (isDecimalDigit_of_isDigit h)

theorem inName_of_isDigit (h : c.isDigit = true) : inName c = true := by
  unfold inName
  rw [h, Bool.or_true]

theorem inName_of_not_startsName (h : startsName c = false) : inName c = c.isDigit := by
  unfold inName
  rw [h, Bool.false_or]

theorem not_behindDigits_nil (hword : IsName word) : ¬BehindDigits word [] := by
  rintro ⟨digits, after, heq, -⟩
  exact hword.ne_nil (List.append_eq_nil_iff.mp (List.append_eq_nil_iff.mp heq.symm).2).1

theorem not_stuck_nil : ¬Stuck word [] := by
  rintro ⟨before, digit, rest, heq, -⟩
  exact List.cons_ne_nil _ _ (List.append_eq_nil_iff.mp heq.symm).2

/-- In front of the digits that lead to the word stand only more digits. -/
theorem behindDigits_cons_iff (hword : IsName word) (hstart : startsName c = false) :
    BehindDigits word (c :: cs) ↔ c.isDigit = true ∧ BehindDigits word cs := by
  constructor
  · rintro ⟨digits, after, heq, hdigits, hstops⟩
    cases digits with
    | nil =>
      obtain ⟨first, name, rfl, hfirst, -⟩ := hword
      cases heq
      rw [hstart] at hfirst
      cases hfirst
    | cons c' digits =>
      cases heq
      rw [List.forall_mem_cons] at hdigits
      exact ⟨hdigits.1, digits, after, rfl, hdigits.2, hstops⟩
  · rintro ⟨hdigit, digits, after, rfl, hdigits, hstops⟩
    exact ⟨c :: digits, after, rfl, List.forall_mem_cons.mpr ⟨hdigit, hdigits⟩, hstops⟩

/-- A character at which no name starts, be it a digit ahead of the word or nothing of the kind. -/
theorem stuck_cons_iff (hstart : startsName c = false) :
    Stuck word (c :: cs) ↔ c.isDigit = true ∧ BehindDigits word cs ∨ Stuck word cs := by
  constructor
  · rintro ⟨before, digit, rest, heq, hbefore, hdigit, hbehind⟩
    cases before with
    | nil =>
      cases heq
      exact .inl ⟨hdigit, hbehind⟩
    | cons c' before =>
      cases heq
      refine .inr ⟨before, digit, rest, rfl, fun x hx => hbefore x ?_, hdigit, hbehind⟩
      rw [List.getLast?_cons, Option.mem_def.mp hx]
      rfl
  · rintro (⟨hdigit, hbehind⟩ | ⟨before, digit, rest, rfl, hbefore, hdigit, hbehind⟩)
    · exact ⟨[], c, cs, rfl, nofun, hdigit, hbehind⟩
    · cases before with
      | cons c' before =>
        refine ⟨c :: c' :: before, digit, rest, rfl, ?_, hdigit, hbehind⟩
        rwa [List.getLast?_cons_cons]
      | nil =>
        cases hc : c.isDigit with
        | false =>
          have hout : inName c = false := (inName_of_not_startsName hstart).trans hc
          refine ⟨[c], digit, rest, rfl, fun x hx => ?_, hdigit, hbehind⟩
          rw [List.getLast?_singleton, Option.mem_some_iff] at hx
          rwa [← hx]
        | true =>
          -- the digits begin one character earlier
          obtain ⟨digits, after, rfl, hdigits, hstops⟩ := hbehind
          exact ⟨[], c, _, rfl, nofun, hc, digit :: digits, after, rfl,
            List.forall_mem_cons.mpr ⟨hdigit, hdigits⟩, hstops⟩

/-- A name stands right at the front just if it is the word. -/
theorem behindDigits_name_iff (hword : IsName word) (hname : IsName name)
    (hstops : StopsName rest) : BehindDigits word (name ++ rest) ↔ name = word := by
  constructor
  · rintro ⟨digits, after, heq, hdigits, hafter⟩
    cases digits with
    | nil => exact (name_inj hname.forall_inName hword.forall_inName hstops hafter heq).1
    | cons digit digits =>
      obtain ⟨first, name, rfl, hfirst, -⟩ := hname
      rw [List.cons_append, List.cons_append, List.cons.injEq] at heq
      rw [heq.1, startsName_of_isDigit (hdigits _ List.mem_cons_self)] at hfirst
      cases hfirst
  · rintro rfl
    exact ⟨[], rest, rfl, nofun, hstops⟩

/-- Within a name no digits begin, and neither right behind it. -/
theorem stuck_name_iff (hname : IsName name) (hstops : StopsName rest) :
    Stuck word (name ++ rest) ↔ Stuck word rest := by
  have hhead : ∀ {digit tail}, rest = digit :: tail → digit.isDigit = true → False := by
    rintro digit tail rfl hdigit
    have hin := hstops digit rfl
    rw [inName_of_isDigit hdigit] at hin
    cases hin
  constructor
  · rintro ⟨before, digit, tail, heq, hbefore, hdigit, hbehind⟩
    rcases List.append_eq_append_iff.mp heq with ⟨more, rfl, hrest⟩ | ⟨more, hsplit, hrest⟩
    · refine ⟨more, digit, tail, hrest, fun x hx => hbefore x ?_, hdigit, hbehind⟩
      rw [Option.mem_def.mp (List.mem_getLast?_append_of_mem_getLast? hx)]
      rfl
    · cases more with
      | nil => exact (hhead hrest.symm hdigit).elim
      | cons first more =>
        cases hrest
        cases hlast : before.getLast? with
        | none =>
          -- the name itself would start with the digit
          rw [List.getLast?_eq_none_iff.mp hlast] at hsplit
          obtain ⟨first, letters, rfl, hfirst, -⟩ := hname
          cases hsplit
          rw [startsName_of_isDigit hdigit] at hfirst
          cases hfirst
        | some x =>
          have hmem : x ∈ name := by
            rw [hsplit]
            exact List.mem_append_left _ (List.mem_of_getLast? hlast)
          have hout := hbefore x hlast
          rw [hname.forall_inName x hmem] at hout
          cases hout
  · rintro ⟨before, digit, tail, rfl, hbefore, hdigit, hbehind⟩
    cases before with
    | nil => exact (hhead rfl hdigit).elim
    | cons first before =>
      refine ⟨name ++ first :: before, digit, tail, (List.append_assoc ..).symm, ?_, hdigit,
        hbehind⟩
      rwa [List.getLast?_append_cons]

/-! ## References of the replaced text -/

variable {form : Form} {glued : Bool}

/-- No name starts in a number without an exponent. -/
theorem startsName_of_mem_magnitude (h : Magnitude form number) (hform : form ≠ .scientific) :
    ∀ x ∈ number, startsName x = false := by
  cases h with
  | integral hne hdigits => exact fun x hx => startsName_of_isDigit (hdigits x hx)
  | positional hne hdigits hne' hplaces =>
    intro x hx
    rcases List.mem_append.mp hx with hx | hx
    · exact startsName_of_isDigit (hdigits x hx)
    · rcases List.mem_cons.mp hx with rfl | hx
      · rfl
      · exact startsName_of_isDigit (hplaces x hx)
  | scientific => exact absurd rfl hform

/-- The word itself is filtered out of its own references. -/
theorem filter_referenceOf_self (word : List CodePoint) :
    (referenceOf word).filter (· ≠ .ofList word) = [] := by
  unfold referenceOf
  refine List.filter_eq_nil_iff.mpr fun text htext => ?_
  obtain ⟨token, htoken, rfl⟩ := List.mem_map.mp htext
  rw [List.mem_singleton.mp (List.mem_filter.mp htoken).1]
  simp

theorem mem_referenceOf_iff {text : Text} :
    text ∈ referenceOf name ↔ text = .ofList name ∧ Token.isReference ⟨.name, text⟩ = true := by
  unfold referenceOf
  rw [List.mem_map]
  constructor
  · rintro ⟨token, htoken, rfl⟩
    obtain ⟨hmem, hreference⟩ := List.mem_filter.mp htoken
    rw [List.mem_singleton.mp hmem] at hreference ⊢
    exact ⟨rfl, hreference⟩
  · rintro ⟨rfl, hreference⟩
    exact ⟨_, List.mem_filter.mpr ⟨List.mem_singleton.mpr rfl, hreference⟩, rfl⟩

section Replaced

variable (hword : IsName word) (hplain : ∀ x ∈ number, startsName x = false)
include hword hplain

/-- **The other references stay**, in their order. Induction over names and what is between. -/
theorem filter_references_replaceFrom (glued : Bool) (cs : List CodePoint) :
    (references (.ofList (replaceFrom word number 0 glued cs))).filter (· ≠ .ofList word)
      = (references (.ofList cs)).filter (· ≠ .ofList word) := by
  induction cs using names_induction generalizing glued with
  | nil => rw [replaceFrom_nil hword]
  | plain c rest hstart ih =>
    have hskip := fun cs => references_append (List.forall_mem_singleton.mpr hstart) cs
    simp only [List.singleton_append] at hskip
    rw [replaceFrom_cons hword hstart, hskip, hskip, ih]
  | name c name rest hstart hname hstops ih =>
    have hisName : IsName (c :: name) := ⟨c, name, rfl, hstart, hname⟩
    have hstops' : StopsName (replaceFrom word number 0 false rest) := hstops.replaceFrom hword
    rw [replaceFrom_name hword hstart hname hstops, references_name hisName hstops,
      List.filter_append, ← ih false]
    -- Either the name is replaced, by characters that are no reference, or it is kept.
    split
    · next h =>
      rw [references_append hplain, h.2, filter_referenceOf_self, List.nil_append]
    · rw [references_name hisName hstops', List.filter_append]

/-- **The word stays where it is stuck.** In a text behind a digit that belongs to no name it may be
stuck to that digit already. -/
theorem mem_references_replaceFrom_iff (hreference : Token.isReference ⟨.name, .ofList word⟩ = true)
    (glued : Bool) (cs : List CodePoint) :
    .ofList word ∈ references (.ofList (replaceFrom word number 0 glued cs)) ↔
      glued = true ∧ BehindDigits word cs ∨ Stuck word cs := by
  induction cs using names_induction generalizing glued with
  | nil =>
    rw [replaceFrom_nil hword, references_nil]
    refine iff_of_false List.not_mem_nil ?_
    rintro (⟨-, h⟩ | h)
    · exact not_behindDigits_nil hword h
    · exact not_stuck_nil h
  | plain c rest hstart ih =>
    have hskip := fun cs => references_append (List.forall_mem_singleton.mpr hstart) cs
    simp only [List.singleton_append] at hskip
    -- Whether the rest is glued depends on this character: a digit glues it.
    rw [replaceFrom_cons hword hstart, hskip, ih, inName_of_not_startsName hstart,
      behindDigits_cons_iff hword hstart, stuck_cons_iff hstart]
    tauto
  | name c name rest hstart hname hstops ih =>
    have hisName : IsName (c :: name) := ⟨c, name, rfl, hstart, hname⟩
    have hstops' : StopsName (replaceFrom word number 0 false rest) := hstops.replaceFrom hword
    have hrest : .ofList word ∈ references (.ofList (replaceFrom word number 0 false rest)) ↔
        Stuck word rest := by
      rw [ih]
      exact or_iff_right fun h => Bool.false_ne_true h.1
    rw [replaceFrom_name hword hstart hname hstops, behindDigits_name_iff hword hisName hstops,
      stuck_name_iff hisName hstops]
    split
    · next h =>
      rw [references_append hplain, hrest, h.1]
      exact (or_iff_right fun h => Bool.false_ne_true h.1).symm
    · next h =>
      rw [references_name hisName hstops', List.mem_append, hrest, mem_referenceOf_iff]
      refine or_congr_left ⟨fun hmem => ?_, fun hsame => ⟨by rw [hsame.2], hreference⟩⟩
      have hsame : c :: name = word := by
        have := congrArg Text.toList hmem.1
        simpa using this.symm
      refine ⟨?_, hsame⟩
      cases glued with
      | false => exact absurd ⟨rfl, hsame⟩ h
      -- Only a name glued to digits is kept although it is the word.
      | true => rfl

end Replaced

/-- A reference is a name that is no function. -/
theorem isReference_of_mem {formula text : Text} (h : text ∈ references formula) :
    Token.isReference ⟨.name, text⟩ = true := by
  obtain ⟨token, htoken, rfl⟩ := List.mem_map.mp h
  have hreference := (List.mem_filter.mp htoken).2
  unfold Token.isReference at hreference ⊢
  rw [Bool.and_eq_true] at hreference ⊢
  exact ⟨rfl, hreference.2⟩

/-- **Putting a number in the place of a name takes the name out of the references and leaves the
others, just if the name is stuck to no digits.** The number is written without an exponent; a name
behind digits is a token but no whole word. -/
theorem references_substitute {formula name number : Text} (hname : name ∈ references formula)
    (hnumber : Magnitude form number.toList) (hform : form ≠ .scientific) :
    ∃ replaced, substitute formula name number = .ok replaced ∧
      (references replaced).filter (· ≠ name) = (references formula).filter (· ≠ name) ∧
      (references replaced = (references formula).filter (· ≠ name) ↔
        ¬Stuck name.toList formula.toList) := by
  have hword := isName_of_mem_references hname
  have hplain := startsName_of_mem_magnitude hnumber hform
  have hfilter := filter_references_replaceFrom hword hplain false formula.toList
  have hmem := mem_references_replaceFrom_iff hword hplain (isReference_of_mem hname) false
    formula.toList
  rw [or_iff_right fun h => Bool.false_ne_true h.1] at hmem
  refine ⟨.ofList (replaceWord name.toList number.toList formula.toList), ?_, hfilter, ?_⟩
  · unfold substitute
    rw [expand_numeral name.toList (.unsigned hnumber)]
    rfl
  · -- All others stay either way, so all depends on whether the name itself is still there.
    rw [← hmem]
    constructor
    · intro heq hmem
      have hother := List.mem_filter.mp (heq ▸ hmem)
      exact of_decide_eq_true hother.2 rfl
    · intro hgone
      rw [← hfilter]
      refine (List.filter_eq_self.mpr fun text htext => decide_eq_true ?_).symm
      rintro rfl
      exact hgone htext

theorem references_substitute_apart :
    ("x" : Text) ∈ references "2 * x + xy" ∧ Magnitude .positional ("1.5" : Text).toList ∧
    ∃ replaced, substitute "2 * x + xy" "x" "1.5" = .ok replaced ∧
      (references replaced).filter (· ≠ ("x" : Text))
        = (references "2 * x + xy").filter (· ≠ ("x" : Text)) ∧
      (references replaced = (references "2 * x + xy").filter (· ≠ ("x" : Text)) ↔
        ¬Stuck ("x" : Text).toList ("2 * x + xy" : Text).toList) := by
  have hname : ("x" : Text) ∈ references "2 * x + xy" := by decide +kernel
  have hnumber : Magnitude .positional ("1.5" : Text).toList :=
    .positional (List.cons_ne_nil _ _) (List.forall_mem_singleton.mpr rfl)
      (List.cons_ne_nil _ _) (List.forall_mem_singleton.mpr rfl)
  exact ⟨hname, hnumber, references_substitute hname hnumber nofun⟩

/-- A name right behind a digit is a reference, and stays. -/
theorem references_substitute_not :
    ¬∀ formula name number form, name ∈ references formula → Magnitude form number.toList →
      form ≠ .scientific →
      ∃ replaced, substitute formula name number = .ok replaced ∧
        references replaced = (references formula).filter (· ≠ name) := by
  intro h
  have hnumber : Magnitude .integral ("5" : Text).toList :=
    .integral (List.cons_ne_nil _ _) (List.forall_mem_singleton.mpr rfl)
  have hname : ("x" : Text) ∈ references "2x" := by decide +kernel
  obtain ⟨replaced, hok, hreferences⟩ := h "2x" "x" "5" .integral hname hnumber nofun
  have hstays : substitute "2x" "x" "5" = .ok "2x" := rfl
  rw [hstays] at hok
  rw [← Except.ok.inj hok] at hreferences
  exact absurd hreferences (by decide +kernel)

end FamilyDesign.Formula
