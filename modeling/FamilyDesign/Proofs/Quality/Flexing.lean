import FamilyDesign.Proofs.Formula.Splicing
import FamilyDesign.Proofs.Quality.Outcome
import FamilyDesign.Quality.Flexing

/-!
# Which formulas do not bear flexing

The flexing pass puts numbers in the place of a name and asks the check of formulas again. A number
is not always one token, so a formula that is valid may not stay so: a default that is written with
an exponent brings the name `e` into the formula, and a fraction leaves over a point that ended
another number before. Nothing else can happen, whatever the formula and the numbers.

* **`Bears`** — what stands behind an occurrence does not clash with the numbers.
* **`forall_flexed_iff`** — a formula stays valid for all numbers just if every occurrence bears
  them.
* **`no_failed_scenario_iff`** — the pass has no fault, and records no failed scenario just if the
  formulas of the design bear flexing.
-/

namespace FamilyDesign.Quality

/-! ## Findings of one kind -/

namespace Outcome

/-- An outcome without a fault that has no finding under a key just if a condition holds. -/
structure Tells (key : Text) (condition : Prop) (o : Outcome) : Prop where
  fault : o.fault = none
  findings : (∀ f ∈ o.findings, f.key ≠ key) ↔ condition

variable {key : Text}

theorem tells_clear : Tells key True clear := ⟨rfl, iff_of_true nofun trivial⟩

theorem tells_issue_of_eq (message : Text) : Tells key False (issue key message) :=
  ⟨rfl, iff_of_false (fun h => h _ List.mem_cons_self rfl) id⟩

/-- An issue of another kind tells nothing. -/
theorem tells_issue_of_ne {key' : Text} (hne : key' ≠ key) (message : Text) :
    Tells key True (issue key' message) := by
  refine ⟨rfl, iff_of_true ?_ trivial⟩
  intro f hf
  cases List.mem_singleton.mp hf
  exact hne

/-- Two outcomes together tell of both conditions. -/
theorem Tells.append {p q : Prop} {a b : Outcome} (ha : Tells key p a) (hb : Tells key q b) :
    Tells key (p ∧ q) (a ++ b) where
  fault := (fault_append b ha.fault).trans hb.fault
  findings := by
    rw [findings_append b ha.fault, List.forall_mem_append, ha.findings, hb.findings]

theorem Tells.congr {p q : Prop} {o : Outcome} (h : Tells key p o) (hpq : p ↔ q) : Tells key q o :=
  ⟨h.fault, h.findings.trans hpq⟩

/-- The outcomes of a list tell of the condition on every element. -/
theorem tells_all_map {α : Type} {f : α → Outcome} {p : α → Prop} {items : List α}
    (h : ∀ a ∈ items, Tells key (p a) (f a)) :
    Tells key (∀ a ∈ items, p a) (Outcome.all (items.map f)) := by
  induction items with
  | nil => exact tells_clear.congr (iff_of_true trivial (List.forall_mem_nil _))
  | cons a rest ih =>
    rw [List.forall_mem_cons] at h
    show Tells key _ (f a ++ Outcome.all (rest.map f))
    exact (h.1.append (ih h.2)).congr List.forall_mem_cons.symm

/-- Outcomes that tell nothing tell nothing together. -/
theorem tells_all_of_true {outcomes : List Outcome} (h : ∀ o ∈ outcomes, Tells key True o) :
    Tells key True (Outcome.all outcomes) := by
  have hall := tells_all_map (f := id) (p := fun _ => True) h
  rw [List.map_id] at hall
  exact hall.congr (iff_of_true (fun _ _ => trivial) trivial)

end Outcome

namespace Flexing

open Formula

/-! ## The numbers of a parameter -/

/-- Nothing, an integer or a finite real. -/
def IsAmount : Json → Prop
  | .null | .int _ => True
  | .real x => x.isFinite = true
  | _ => False

/-- Whether a value is a real that is written with an exponent. -/
def showsExponent : Json → Bool
  | .real x => x.natural.toList.contains 'e'
  | _ => false

/-- Whether a value is a real that is written with a minus and a point. -/
def isSignedFraction : Json → Bool
  | .real x => x.isNegative && !x.natural.toList.contains 'e'
  | _ => false

theorem isSignedFraction_real (x : Numeric.Binary64) :
    isSignedFraction (.real x) = (x.isNegative && !showsExponent (.real x)) := rfl

/-- What follows an occurrence of the name of a parameter does not clash with its numbers: the mark
of an exponent is known, and no point is left over. -/
structure Bears (known : List Text) (flexed : Parameter) (tail : List CodePoint) : Prop where
  mark : showsExponent flexed.default = true → ("e" : Text) ∈ known
  point : ¬Strands flexed.name.toList (isSignedFraction flexed.default) tail

/-- The smallest scale is written with a point. -/
theorem numeral_tenth : Numeral false .positional (Json.plain (.real 0.1)).toList := by
  have htext : (Json.plain (.real 0.1)).toList = ("0.1" : Text).toList := by decide +kernel
  have hzero : ∀ c ∈ [CodePoint.char '0'], c.isDigit = true := List.forall_mem_singleton.mpr rfl
  have hone : ∀ c ∈ [CodePoint.char '1'], c.isDigit = true := List.forall_mem_singleton.mpr rfl
  rw [htext]
  exact .unsigned (.positional (List.cons_ne_nil _ _) hzero (List.cons_ne_nil _ _) hone)

/-- An integer is written in digits. -/
theorem numeral_int (n : Int) :
    Numeral (decide (n < 0)) .integral (Json.plain (.int n)).toList :=
  numeral_intText n

/-- A finite real is written with a point or an exponent. -/
theorem exists_numeral_real {x : Numeric.Binary64} (h : x.isFinite = true) :
    ∃ form, form ≠ .integral ∧ (form = .scientific ↔ showsExponent (.real x) = true) ∧
      Numeral x.isNegative form (Json.plain (.real x)).toList := by
  obtain ⟨form, hform, hnumeral⟩ := exists_numeral_natural h
  refine ⟨form, hform, ?_, hnumeral⟩
  rw [← mark_mem_numeral_iff hnumeral]
  unfold showsExponent
  simp

/-- A parameter is flexed to its default, if there is one, and to the scales. -/
theorem mem_flexValues_iff {flexed : Parameter} {v : Json} :
    v ∈ flexValues flexed ↔ v ≠ .null ∧ v = flexed.default ∨ v ∈ scales := by
  unfold flexValues
  rw [List.mem_append, Option.mem_toList]
  refine or_congr_left ⟨fun h => ?_, ?_⟩
  · obtain rfl := Json.eq_of_present?_eq_some h
    refine ⟨?_, rfl⟩
    rintro hnull
    rw [hnull] at h
    cases h
  · rintro ⟨hnull, rfl⟩
    cases hdefault : flexed.default with
    | null => exact absurd hdefault hnull
    | _ => rfl

/-- A number that a parameter is flexed through: its exponent and its minus ahead of a fraction are
those of the default. -/
structure IsFlexNumber (flexed : Parameter) (v : Json) (signed : Bool) (form : Form) : Prop where
  numeral : Numeral signed form v.plain.toList
  mark : form = .scientific → showsExponent flexed.default = true
  point : (∃ part, landing signed form part = .fraction) → signed = true →
    isSignedFraction flexed.default = true

/-- All that a parameter is flexed to are numbers in writing. -/
theorem exists_isFlexNumber {flexed : Parameter} (hamount : IsAmount flexed.default) {v : Json}
    (hv : v ∈ flexValues flexed) : ∃ signed form, IsFlexNumber flexed v signed form := by
  rcases mem_flexValues_iff.mp hv with ⟨hnull, hdefault⟩ | hscale
  · rw [← hdefault] at hamount
    cases v with
    | null => exact absurd rfl hnull
    | int n =>
      refine ⟨_, _, numeral_int n, nofun, ?_⟩
      -- behind a minus the digits are a number of their own
      rintro ⟨part, hlanding⟩ hsigned
      rw [hsigned] at hlanding
      cases hlanding
    | real x =>
      obtain ⟨form, hform, hmark, hnumeral⟩ := exists_numeral_real hamount
      refine ⟨_, _, hnumeral, ?_, ?_⟩
      · rw [← hdefault]
        exact hmark.mp
      · rintro ⟨part, hlanding⟩ hsigned
        have hplain : showsExponent (.real x) = false := by
          rw [← Bool.not_eq_true, ← hmark]
          rintro rfl
          cases hlanding
        rw [← hdefault, isSignedFraction_real, hsigned, hplain]
        rfl
    | bool | text | array | object => cases hamount
  · unfold scales at hscale
    simp only [List.mem_cons, List.not_mem_nil, or_false] at hscale
    rcases hscale with rfl | rfl | rfl | rfl
    · exact ⟨_, _, numeral_tenth, nofun, fun _ => nofun⟩
    · exact ⟨_, _, numeral_int 1, nofun, fun _ => nofun⟩
    · exact ⟨_, _, numeral_int 10, nofun, fun _ => nofun⟩
    · exact ⟨_, _, numeral_int 100, nofun, fun _ => nofun⟩

/-! ## One formula -/

/-- A formula with a value in the place of the name of a parameter. -/
def spliced (flexed : Parameter) (formula : Text) (v : Json) : Text :=
  .ofList (replaceWord flexed.name.toList v.plain.toList formula.toList)

/-- The flexed formula is the formula with the number in the place of the name. -/
theorem flexedFormula_eq {flexed p : Parameter} {formula : Text} (hp : p.formula? = some formula)
    {v : Json} {signed : Bool} {form : Form} (h : Numeral signed form v.plain.toList) :
    flexedFormula flexed p v = .ok (spliced flexed formula v) := by
  unfold flexedFormula substitute
  rw [hp, expand_numeral _ h]
  rfl

section Formula

variable {known : List Text} {flexed : Parameter} {formula : Text}
  (hname : IsName flexed.name.toList) (hamount : IsAmount flexed.default)
include hname hamount

omit hamount in
/-- What is found at an occurrence if a formula stays valid for a finite real. -/
theorem known_of_problems_spliced {x : Numeric.Binary64} (hfinite : x.isFinite = true)
    (h : problems (spliced flexed formula (.real x)) known = []) {tail : List CodePoint}
    (hfollows : Follows flexed.name.toList false formula.toList tail) :
    (showsExponent (.real x) = true → ("e" : Text) ∈ known) ∧
      (isSignedFraction (.real x) = true → ¬Strands flexed.name.toList true tail) := by
  obtain ⟨form, hform, hmark, hnumeral⟩ := exists_numeral_real hfinite
  obtain ⟨hknown, hstrands⟩ := known_of_problems_replaceWord hname hnumeral h hfollows
  refine ⟨fun hshows => knownName_mark_iff.mp (hknown (hmark.mpr hshows)), fun hsigned => ?_⟩
  rw [isSignedFraction_real, Bool.and_eq_true, Bool.not_eq_true'] at hsigned
  rw [hsigned.1] at hstrands
  refine hstrands ?_
  cases form with
  | integral => exact absurd rfl hform
  | positional => rfl
  | scientific =>
    rw [hmark.mp rfl] at hsigned
    cases hsigned.2

/-- Where a formula stays valid for all numbers, every occurrence bears them. -/
theorem bears_of_forall_flexed
    (h : ∀ v ∈ flexValues flexed, problems (spliced flexed formula v) known = [])
    {tail : List CodePoint} (hfollows : Follows flexed.name.toList false formula.toList tail) :
    Bears known flexed tail := by
  -- the scale of a tenth comes with a point, whatever the default
  have htenth : ¬Strands flexed.name.toList false tail :=
    (known_of_problems_replaceWord hname numeral_tenth
      (h _ (mem_flexValues_iff.mpr (.inr List.mem_cons_self))) hfollows).2 rfl
  cases hvalue : flexed.default with
  | real x =>
    rw [hvalue] at hamount
    have hmem : Json.real x ∈ flexValues flexed :=
      mem_flexValues_iff.mpr (.inl ⟨nofun, hvalue.symm⟩)
    obtain ⟨hmark, hpoint⟩ := known_of_problems_spliced hname hamount (h _ hmem) hfollows
    refine ⟨hvalue ▸ hmark, hvalue ▸ ?_⟩
    cases hsigned : isSignedFraction (.real x) with
    | false => exact htenth
    | true => exact hpoint hsigned
  | null | int | bool | text | array | object => exact ⟨hvalue ▸ nofun, hvalue ▸ htenth⟩

/-- **A formula stays valid for all numbers of a parameter just if every occurrence of its name
bears them.** -/
theorem forall_flexed_iff (hformula : problems formula known = []) :
    (∀ v ∈ flexValues flexed, problems (spliced flexed formula v) known = []) ↔
      ∀ tail, Follows flexed.name.toList false formula.toList tail → Bears known flexed tail := by
  refine ⟨fun h tail => bears_of_forall_flexed hname hamount h, fun hbears v hv => ?_⟩
  obtain ⟨signed, form, hnumber⟩ := exists_isFlexNumber hamount hv
  refine problems_replaceWord hname hnumber.numeral hformula ?_
  intro tail hfollows
  obtain ⟨hmark, hpoint⟩ := hbears tail hfollows
  refine ⟨fun hform => knownName_mark_iff.mpr (hmark (hnumber.mark hform)), ?_⟩
  exact fun hlanding hstrands => hpoint (hstrands.mono (hnumber.point hlanding))

end Formula

/-! ## The pass -/

/-- The key under which a failed scenario is recorded. -/
def failedKey : Text := "flexing.scenario_failed"

/-- What is recorded of one formula: a failed scenario unless every value leaves it valid. -/
theorem tells_checkDependent {known : List Text} {flexed p : Parameter} {formula : Text}
    (hp : p.formula? = some formula) {values : List Json}
    (hvalues : ∀ v ∈ values, ∃ signed form, Numeral signed form v.plain.toList) :
    Outcome.Tells failedKey (∀ v ∈ values, problems (spliced flexed formula v) known = [])
      (checkDependent known flexed p values) := by
  induction values with
  | nil => exact Outcome.tells_clear.congr (iff_of_true trivial (List.forall_mem_nil _))
  | cons v rest ih =>
    rw [List.forall_mem_cons] at hvalues
    obtain ⟨⟨signed, form, hnumeral⟩, hrest⟩ := hvalues
    unfold checkDependent
    rw [flexedFormula_eq hp hnumeral, List.forall_mem_cons, Outcome.attempt]
    -- The first value that leaves the formula invalid ends the check with an issue.
    split
    · next hvalid => exact (ih hrest).congr (and_iff_right hvalid).symm
    · next hproblems =>
      refine (Outcome.tells_issue_of_eq _).congr (iff_of_false id fun h => ?_)
      rw [h.1] at hproblems
      cases hproblems

/-- What is recorded of one flexed parameter. -/
theorem tells_checkFlexed {known : List Text} {parameters : List Parameter} {flexed : Parameter}
    (hamount : IsAmount flexed.default) (hformulas : ∀ p ∈ parameters, ∀ formula,
      p.formula? = some formula → problems formula known = []) :
    Outcome.Tells failedKey (∀ p ∈ parameters, dependsOn flexed p = true → ∀ formula,
        p.formula? = some formula → ∀ tail,
          Follows flexed.name.toList false formula.toList tail → Bears known flexed tail)
      (checkFlexed known parameters flexed) := by
  refine (Outcome.tells_all_map fun p hp => ?_).congr
    (List.forall_mem_filter.trans (forall₂_congr fun p hp => Iff.rfl))
  obtain ⟨hmem, hdepends⟩ := List.mem_filter.mp hp
  cases hformula : p.formula? with
  | none =>
    unfold dependsOn at hdepends
    rw [hformula] at hdepends
    cases hdepends
  | some formula =>
    -- The formula refers to the parameter, so its name is one that a scan reads.
    have hname : IsName flexed.name.toList := by
      unfold dependsOn at hdepends
      rw [hformula] at hdepends
      dsimp only at hdepends
      rw [Bool.and_eq_true, List.contains_iff_mem] at hdepends
      exact isName_of_mem_references hdepends.2
    refine (tells_checkDependent hformula fun v hv => ?_).congr ?_
    · obtain ⟨signed, form, hnumber⟩ := exists_isFlexNumber hamount hv
      exact ⟨signed, form, hnumber.numeral⟩
    · rw [forall_flexed_iff hname hamount (hformulas p hmem formula hformula)]
      simp only [Option.some.injEq, forall_eq']

/-- A constraint records no failed scenario. -/
theorem tells_checkConstraint (index : Nat) (c : Constraint) :
    Outcome.Tells failedKey True (checkConstraint index c) := by
  unfold checkConstraint Outcome.onlyIf
  split
  · exact Outcome.tells_issue_of_ne (by decide) _
  · exact Outcome.tells_clear

/-- What the pass asks of the formulas of a design: every occurrence of the name of a flexed
parameter, in a formula that depends on it, bears the numbers of that parameter. -/
def BearsFlexing (d : Design) : Prop :=
  ∀ flexed ∈ d.parameters, isFlexed flexed = true → ∀ p ∈ d.parameters,
    dependsOn flexed p = true → ∀ formula, p.formula? = some formula → ∀ tail,
      Follows flexed.name.toList false formula.toList tail →
        Bears (d.parameters.map (·.name)) flexed tail

/-- **Failed scenarios are recorded just if some formula does not bear flexing.** -/
theorem tells_check (d : Design) (code : Option Text)
    (hformulas : ∀ p ∈ d.parameters, ∀ formula, p.formula? = some formula →
      problems formula (d.parameters.map (·.name)) = [])
    (hamounts : ∀ flexed ∈ d.parameters, isFlexed flexed = true → IsAmount flexed.default) :
    Outcome.Tells failedKey (BearsFlexing d) (check d code) := by
  have hflexed : Outcome.Tells failedKey
      (∀ flexed ∈ d.parameters.filter isFlexed, ∀ p ∈ d.parameters, dependsOn flexed p = true →
        ∀ formula, p.formula? = some formula → ∀ tail,
          Follows flexed.name.toList false formula.toList tail →
            Bears (d.parameters.map (·.name)) flexed tail)
      (.all ((d.parameters.filter isFlexed).map
        (checkFlexed (d.parameters.map (·.name)) d.parameters))) := by
    refine Outcome.tells_all_map fun flexed hflexed => ?_
    obtain ⟨hmem, htype⟩ := List.mem_filter.mp hflexed
    exact tells_checkFlexed (hamounts flexed hmem htype) hformulas
  have hdetail : ∀ v, Outcome.Tells failedKey True (.detail "scenarios" v) :=
    fun v => ⟨rfl, iff_of_true nofun trivial⟩
  -- Constraints have findings of a kind of their own.
  have hconstraints : Outcome.Tells failedKey True
      (.all (d.constraints.mapIdx checkConstraint)) := by
    refine Outcome.tells_all_of_true fun o ho => ?_
    obtain ⟨index, hindex, rfl⟩ := List.mem_mapIdx.mp ho
    exact tells_checkConstraint _ _
  refine ((hflexed.append (hdetail _)).append hconstraints).congr ?_
  rw [and_true, and_true, List.forall_mem_filter]
  exact Iff.rfl

/-- **When the pass records no failed scenario**, for a design in which every formula is valid and
every flexed parameter has nothing, an integer or a finite real as its default: just if every
occurrence of a flexed name bears the numbers that take its place. There is never a fault. -/
theorem no_failed_scenario_iff (d : Design) (code : Option Text)
    (hformulas : ∀ p ∈ d.parameters, ∀ formula, p.formula? = some formula →
      problems formula (d.parameters.map (·.name)) = [])
    (hamounts : ∀ flexed ∈ d.parameters, isFlexed flexed = true → IsAmount flexed.default) :
    (check d code).fault = none ∧
      ((∀ f ∈ (check d code).findings, f.key ≠ "flexing.scenario_failed") ↔ BearsFlexing d) := by
  obtain ⟨hfault, hfindings⟩ := tells_check d code hformulas hamounts
  exact ⟨hfault, hfindings⟩

/-- A width of a hundred thousandth of a foot, and a parameter that is computed from it. -/
def hairlineDesign : Design where
  parameterSet := some { family := [
    { name := "Width", default := .real 0.00001 },
    { name := "Total", formula := some "Width + 1" }] }

/-- A default that is written with an exponent fails its scenario, though the formula is valid. -/
theorem failed_scenario_hairlineDesign : (check hairlineDesign none).fault = none ∧
    ¬∀ f ∈ (check hairlineDesign none).findings, f.key ≠ "flexing.scenario_failed" := by
  obtain ⟨hfault, hiff⟩ := no_failed_scenario_iff hairlineDesign none (by
      intro p hp formula hformula
      have hall : ∀ p ∈ hairlineDesign.parameters, ∀ formula ∈ p.formula?,
          problems formula (hairlineDesign.parameters.map (·.name)) = [] := by decide +kernel
      exact hall p hp formula hformula) (by
      intro flexed hflexed _
      have hmem : flexed ∈ [({ name := "Width", default := .real 0.00001 } : Parameter),
        { name := "Total", formula := some "Width + 1" }] := hflexed
      simp only [List.mem_cons, List.not_mem_nil, or_false] at hmem
      rcases hmem with rfl | rfl
      · show Numeric.Binary64.isFinite 0.00001 = true
        decide +kernel
      · trivial)
  have hfollows : Follows ("Width" : Text).toList false ("Width + 1" : Text).toList
      (" + 1" : Text).toList := by
    have hsplit : ("Width + 1" : Text).toList
        = ("Width" : Text).toList ++ (" + 1" : Text).toList := by decide
    have hstops : StopsName (" + 1" : Text).toList := by
      intro c hc
      have hspace : c = .char ' ' := (Option.some.inj hc).symm
      rw [hspace]
      decide
    rw [hsplit]
    exact .here hstops
  -- The exponent asks for a parameter named e, and there is none.
  refine ⟨hfault, fun h => ?_⟩
  have hbears := hiff.mp h _ List.mem_cons_self rfl _ (List.mem_cons_of_mem _ List.mem_cons_self)
    (by decide +kernel) "Width + 1" rfl (" + 1" : Text).toList hfollows
  exact absurd (hbears.mark (by decide +kernel)) (by decide)

end Flexing

end FamilyDesign.Quality
