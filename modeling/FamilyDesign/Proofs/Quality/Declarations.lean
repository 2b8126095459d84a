import FamilyDesign.Proofs.Design.Values
import FamilyDesign.Proofs.Quality.Outcome
import FamilyDesign.Quality.Parameters
import Mathlib.Data.List.Nodup

/-!
# What the parameters pass asks

The pass looks at one parameter after the other, with the names that came before, and then at the
values of the family types, each under the parameter that its name stands for. A design that passes
is told by its parameters and values alone. Names are matched by a pattern that ends at the end of
the text or ahead of a last newline, so that it takes in more names than it describes.

* **`Design.DeclaresAlike`** — designs with the same parameters but for the defaults, at which the
  pass does not look.
* **`Parameters.clean_check_iff`** — the check part by part.
* **`clean_checkEach_iff`** — what is asked of the parameters.
* **`Sound`** — what is asked of a design, given which names will do.
* **`passed_run_iff`** — the pass is passed just if the design is sound for the names that match;
  for identifiers alone it is so just if no parameter of a design that passes ends with a newline.
-/

namespace FamilyDesign

open Quality (Outcome)

/-- A parameter without its default. -/
def Parameter.declaration (p : Parameter) : Parameter := { p with default := .null }

namespace Design

/-- Whether a value fits what the parameter of a name declares, if there is one. -/
def Fits (d : Design) (name : Text) (v : Json) : Prop :=
  ∀ p, d.definition? name = some p → valueProblem? v p.type = .ok none

/-- A value fits just if its parameter, as it is defined last, has no problem with it. -/
theorem fits_iff_of_definition? {d : Design} {name : Text} {p : Parameter}
    (h : d.definition? name = some p) {v : Json} :
    d.Fits name v ↔ valueProblem? v p.type = .ok none := by
  constructor
  · intro hfits
    exact hfits p h
  · intro hvalue q hq
    rw [h] at hq
    cases hq
    exact hvalue

theorem definition?_eq_some {d : Design} {name : Text} {p : Parameter}
    (h : d.definition? name = some p) : p ∈ d.parameters ∧ p.name = name := by
  have hname := List.find?_some h
  exact ⟨List.mem_reverse.mp (List.mem_of_find?_eq_some h), eq_of_beq hname⟩

/-- Whether two designs declare the same parameters, whatever the defaults. -/
def DeclaresAlike (d d' : Design) : Prop :=
  d.parameters.map (·.declaration) = d'.parameters.map (·.declaration)

/-- What is found of a definition depends on the declarations only. -/
theorem map_declaration_definition? (d : Design) (name : Text) :
    (d.definition? name).map (·.declaration)
      = (d.parameters.map (·.declaration)).reverse.find? (·.name == name) := by
  unfold definition?
  rw [← List.map_reverse, List.find?_map]
  rfl

/-- A name then stands for parameters of one type. -/
theorem DeclaresAlike.definedType {d d' : Design} (h : d.DeclaresAlike d') (name : Text) :
    (d.definition? name).map (·.type) = (d'.definition? name).map (·.type) := by
  have hdefinition : (d.definition? name).map (·.declaration)
      = (d'.definition? name).map (·.declaration) := by
    rw [map_declaration_definition?, map_declaration_definition?, h]
  have htype := congrArg (Option.map (·.type)) hdefinition
  rwa [Option.map_map, Option.map_map] at htype

/-- Of designs that declare alike the same values fit. -/
theorem DeclaresAlike.fits_iff {d d' : Design} (h : d.DeclaresAlike d') {name : Text} {v : Json} :
    d.Fits name v ↔ d'.Fits name v := by
  have hfits : ∀ d : Design, d.Fits name v ↔
      ∀ type ∈ (d.definition? name).map (·.type), valueProblem? v type = .ok none := by
    intro d
    unfold Fits
    cases d.definition? name <;> simp
  rw [hfits, hfits, h.definedType]

theorem DeclaresAlike.names_eq {d d' : Design} (h : d.DeclaresAlike d') :
    d.parameters.map (·.name) = d'.parameters.map (·.name) := by
  have hnames := congrArg (List.map (·.name)) h
  rwa [List.map_map, List.map_map] at hnames

/-- Where names differ, each parameter is the one that its name stands for. -/
theorem definition?_of_mem {d : Design} (h : (d.parameters.map (·.name)).Nodup)
    {p : Parameter} (hp : p ∈ d.parameters) : d.definition? p.name = some p := by
  cases hfound : d.definition? p.name with
  | none =>
    have hnot := List.find?_eq_none.mp hfound p (List.mem_reverse.mpr hp)
    rw [beq_self_eq_true] at hnot
    exact absurd rfl hnot
  | some q =>
    obtain ⟨hq, hname⟩ := definition?_eq_some hfound
    rw [List.inj_on_of_nodup_map h hq hp hname]

end Design

namespace Quality.Parameters

/-! ## Values and types -/

/-- A binding raises no issue just if its value fits. -/
theorem clean_checkBinding_iff {d : Design} {label name : Text} {v : Json} :
    (checkBinding d label name v).Clean ↔ d.Fits name v := by
  unfold checkBinding
  cases hdefinition : d.definition? name with
  | none =>
    refine ⟨fun _ p hp => ?_, fun _ => Outcome.clean_clear⟩
    rw [hdefinition] at hp
    cases hp
  | some p =>
    rw [Design.fits_iff_of_definition? hdefinition]
    dsimp only
    cases hproblem : valueProblem? v p.type with
    | error fault =>
      -- a fault ends the check
      refine ⟨fun h => ?_, nofun⟩
      cases h.fault
    | ok problem =>
      cases problem with
      | none => exact ⟨fun _ => rfl, fun _ => Outcome.clean_clear⟩
      | some message => exact ⟨fun h => absurd h (Outcome.not_clean_issue _ _), nofun⟩

/-- A type raises no issue just if it has a name and its values fit. -/
theorem clean_checkFamilyType_iff {d : Design} {index : Nat} {t : FamilyType} :
    (checkFamilyType d index t).Clean ↔
      Text.isAllBlank t.name = false ∧ ∀ b ∈ t.bindings, d.Fits b.1 b.2 := by
  unfold checkFamilyType
  dsimp only
  rw [Outcome.clean_append_iff, Outcome.clean_onlyIf_issue_iff, Outcome.clean_all_iff,
    List.forall_mem_map]
  exact and_congr_right fun _ => forall₂_congr fun b _ => clean_checkBinding_iff

/-- Parameters that a category calls for are never an issue. -/
theorem clean_checkEssentials (category : Text) (names : List Text) :
    (checkEssentials category names).Clean := by
  refine Outcome.clean_all_iff.mpr ?_
  intro o ho
  obtain ⟨essential, -, rfl⟩ := List.mem_map.mp ho
  exact Outcome.clean_onlyIf_warning _ _ _

/-- What the pass asks of parameters, apart from values. -/
def DeclaresWell (d : Design) : Prop :=
  d.parameters.isEmpty = false ∧
    (checkEach (d.parameters.map (·.name)) [] d.parameters).Clean

/-- The checks of a parameter do not look at its default. -/
theorem checkEach_map_declaration (known seen : List Text) (parameters : List Parameter) :
    checkEach known seen (parameters.map (·.declaration)) = checkEach known seen parameters := by
  induction parameters generalizing seen with
  | nil => rfl
  | cons p rest ih =>
    rw [List.map_cons]
    unfold checkEach
    rw [ih]
    rfl

/-- Designs that declare alike declare equally well. -/
theorem declaresWell_iff_of_alike {d d' : Design} (h : d.DeclaresAlike d') :
    DeclaresWell d ↔ DeclaresWell d' := by
  have hempty := congrArg List.isEmpty h
  rw [List.isEmpty_map, List.isEmpty_map] at hempty
  unfold DeclaresWell
  rw [hempty, h.names_eq, ← checkEach_map_declaration, h, checkEach_map_declaration]

/-- **What the parameters pass asks of a design**: sound declarations, and types with names whose
values fit. Parameters that its category calls for are only warned of. -/
theorem clean_check_iff {d : Design} {code : Option Text} :
    (check d code).Clean ↔ DeclaresWell d ∧
      ∀ t ∈ d.types, Text.isAllBlank t.name = false ∧ ∀ b ∈ t.bindings, d.Fits b.1 b.2 := by
  -- The essentials are only warned of, so they drop out.
  have hessentials : (Outcome.onlyIf (!d.parameters.isEmpty)
      (checkEssentials d.category (d.parameters.map (·.name)))).Clean := by
    unfold Outcome.onlyIf
    split
    · exact clean_checkEssentials _ _
    · exact Outcome.clean_clear
  have htypes : (Outcome.all (d.types.mapIdx (checkFamilyType d))).Clean ↔
      ∀ t ∈ d.types, Text.isAllBlank t.name = false ∧ ∀ b ∈ t.bindings, d.Fits b.1 b.2 := by
    refine Outcome.clean_mapIdx_iff ?_
    intro index t
    exact clean_checkFamilyType_iff
  unfold check DeclaresWell
  dsimp only
  rw [Outcome.clean_append_iff, Outcome.clean_append_iff, Outcome.clean_append_iff,
    Outcome.clean_onlyIf_issue_iff, htypes]
  simp only [hessentials, and_true]

/-! ## Names -/

/-- An ASCII letter, and behind it ASCII letters, digits and underscores. -/
def IsIdentifier (name : Text) : Prop :=
  ∃ c rest, name.toList = c :: rest ∧ c.isAlpha = true ∧
    ∀ x ∈ rest, x.isAlpha = true ∨ x.isDigit = true ∨ x = '_'

/-- An identifier with one newline behind it. -/
def IsTrailed (name : Text) : Prop := ∃ s, IsIdentifier s ∧ name = s ++ ("\n" : Text)

theorem inName_iff {c : CodePoint} :
    Formula.inName c = true ↔ c.isAlpha = true ∨ c.isDigit = true ∨ c = '_' := by
  unfold Formula.inName Formula.startsName
  rw [Bool.or_eq_true, Bool.or_eq_true, beq_iff_eq]
  tauto

/-- A name is well-formed just if it is an identifier. -/
theorem isWellFormed_iff {name : Text} : isWellFormed name.toList = true ↔ IsIdentifier name := by
  unfold IsIdentifier
  cases name.toList with
  | nil => exact ⟨nofun, fun ⟨c, rest, hcons, _⟩ => nomatch hcons⟩
  | cons c rest =>
    unfold isWellFormed
    rw [Bool.and_eq_true, List.all_eq_true]
    simp only [inName_iff, List.cons.injEq]
    constructor
    · rintro ⟨hfirst, hrest⟩
      exact ⟨c, rest, ⟨rfl, rfl⟩, hfirst, hrest⟩
    · rintro ⟨c', rest', ⟨rfl, rfl⟩, hfirst, hrest⟩
      exact ⟨hfirst, hrest⟩

/-- An identifier has no newline in it, so it is not trailed. -/
theorem IsIdentifier.not_trailed {name : Text} (h : IsIdentifier name) : ¬IsTrailed name := by
  rintro ⟨s, -, rfl⟩
  obtain ⟨c, rest, hcons, hfirst, hrest⟩ := h
  have hmem : CodePoint.char '\n' ∈ c :: rest := by
    rw [← hcons]
    exact List.mem_append_right _ List.mem_cons_self
  rcases List.mem_cons.mp hmem with rfl | hmem
  · cases hfirst
  · rcases hrest _ hmem with h | h | h <;> cases h

/-- The names that match. -/
theorem acceptsName_iff {name : Text} :
    acceptsName name = true ↔ IsIdentifier name ∨ IsTrailed name := by
  unfold acceptsName
  dsimp only
  rw [Bool.or_eq_true, isWellFormed_iff, Bool.and_eq_true, beq_iff_eq]
  refine or_congr_right ?_
  constructor
  · rintro ⟨hlast, hformed⟩
    refine ⟨⟨name.toList.dropLast⟩, isWellFormed_iff.mp hformed, ?_⟩
    have hsplit := List.dropLast_append_getLast? _ hlast
    show name = ⟨name.toList.dropLast ++ [CodePoint.char '\n']⟩
    rw [hsplit]
  · rintro ⟨s, hs, rfl⟩
    have hlist : (s ++ ("\n" : Text)).toList = s.toList ++ [CodePoint.char '\n'] := rfl
    rw [hlist, List.getLast?_concat, List.dropLast_concat]
    exact ⟨rfl, isWellFormed_iff.mpr hs⟩

/-! ## Parameters -/

/-- Whether a formula has no problem among the `known` names and does not refer to `name`. -/
def FormulaSound (known : List Text) (name formula : Text) : Prop :=
  Formula.problems formula known = [] ∧ name ∉ Formula.references formula

/-- A formula has no problem just if it is sound. -/
theorem problemsOf_eq_nil_iff {name formula : Text} {known : List Text} :
    Formula.problemsOf name formula known = [] ↔ FormulaSound known name formula := by
  unfold Formula.problemsOf FormulaSound
  rw [List.append_eq_nil_iff]
  refine and_congr_right fun _ => ?_
  simp

/-- A formula raises no issue just if it is sound, or there is none. -/
theorem clean_checkFormula_iff {known : List Text} {p : Parameter} :
    (checkFormula known p).Clean ↔
      ∀ formula, p.formula = some formula → formula.isEmpty = false →
        FormulaSound known p.name formula := by
  -- An empty formula counts as none.
  have hformula : ∀ formula, p.formula? = some formula ↔
      p.formula = some formula ∧ formula.isEmpty = false := by
    intro formula
    unfold Parameter.formula? nonempty?
    rw [Option.filter_eq_some_iff, Bool.not_eq_true']
  simp only [← and_imp, ← hformula]
  unfold checkFormula
  cases p.formula? with
  | none => exact ⟨fun _ => nofun, fun _ => Outcome.clean_clear⟩
  | some formula =>
    dsimp only
    rw [Outcome.clean_all_iff, List.forall_mem_map]
    simp only [Outcome.not_clean_issue, Option.some.injEq, forall_eq', ← problemsOf_eq_nil_iff,
      List.eq_nil_iff_forall_not_mem]

/-- What the pass asks of a parameter by itself. -/
structure ParameterSound (isName : Text → Prop) (known : List Text) (p : Parameter) : Prop where
  named : isName p.name
  typed : ∃ t : ValueType, p.type = t.name
  computed : ∀ formula, p.formula = some formula → formula.isEmpty = false →
    FormulaSound known p.name formula

/-- A name passes if it is an identifier, or one with a newline behind it. -/
theorem clean_checkName_iff {p : Parameter} :
    (checkName p).Clean ↔ IsIdentifier p.name ∨ IsTrailed p.name := by
  unfold checkName
  rw [Outcome.clean_onlyIf_issue_iff, Bool.not_eq_false', acceptsName_iff]

/-- A type passes just if it is one of those there are. -/
theorem clean_checkType_iff {p : Parameter} :
    (checkType p).Clean ↔ ∃ t : ValueType, p.type = t.name := by
  unfold checkType
  rw [Outcome.clean_onlyIf_issue_iff, Option.isNone_eq_false_iff, Option.isSome_iff_exists]
  constructor
  · rintro ⟨t, ht⟩
    exact ⟨t, (ValueType.name_of_ofName? ht).symm⟩
  · rintro ⟨t, ht⟩
    exact ⟨t, by rw [ht, t.ofName?_name]⟩

/-- A name passes just if it was not seen before. -/
theorem clean_checkUnique_iff {seen : List Text} {p : Parameter} :
    (checkUnique seen p).Clean ↔ p.name ∉ seen := by
  unfold checkUnique
  rw [Outcome.clean_onlyIf_issue_iff]
  simp

/-- **What is asked of the parameters**: names that differ, also from those that came before, and
each parameter sound by itself. Induction on the parameters, any names before them. -/
theorem clean_checkEach_iff {known seen : List Text} {parameters : List Parameter} :
    (checkEach known seen parameters).Clean ↔
      (parameters.map (·.name)).Nodup ∧ (∀ p ∈ parameters, p.name ∉ seen) ∧
        ∀ p ∈ parameters, ParameterSound (fun s => IsIdentifier s ∨ IsTrailed s) known p := by
  induction parameters generalizing seen with
  | nil =>
    exact iff_of_true Outcome.clean_clear
      ⟨List.nodup_nil, List.forall_mem_nil _, List.forall_mem_nil _⟩
  | cons p rest ih =>
    have hsound : (checkName p).Clean ∧ (checkType p).Clean ∧ (checkFormula known p).Clean ↔
        ParameterSound (fun s => IsIdentifier s ∨ IsTrailed s) known p := by
      rw [clean_checkName_iff, clean_checkType_iff, clean_checkFormula_iff]
      exact ⟨fun ⟨h₁, h₂, h₃⟩ => ⟨h₁, h₂, h₃⟩, fun h => ⟨h.named, h.typed, h.computed⟩⟩
    -- What comes behind must differ from this name and from those before it.
    have hlater : (∀ q ∈ rest, q.name ∉ p.name :: seen) ↔
        p.name ∉ rest.map (·.name) ∧ ∀ q ∈ rest, q.name ∉ seen := by
      simp only [List.mem_cons, not_or, List.mem_map, not_exists, not_and]
      exact ⟨fun h => ⟨fun q hq => (h q hq).1, fun q hq => (h q hq).2⟩,
        fun h q hq => ⟨h.1 q hq, h.2 q hq⟩⟩
    show (checkUnique seen p ++ checkName p ++ checkType p ++ checkFormula known p
      ++ checkEach known (p.name :: seen) rest).Clean ↔ _
    rw [Outcome.clean_append_iff, Outcome.clean_append_iff, Outcome.clean_append_iff,
      Outcome.clean_append_iff, ih, clean_checkUnique_iff, List.map_cons, List.nodup_cons,
      List.forall_mem_cons, List.forall_mem_cons, ← hsound, hlater]
    tauto

/-! ## Designs -/

/-- What is asked of the parameters and the family types of a design, where `isName` tells which
names of parameters will do. -/
structure Sound (isName : Text → Prop) (d : Design) : Prop where
  declared : d.parameters ≠ []
  distinct : (d.parameters.map (·.name)).Nodup
  sound : ∀ p ∈ d.parameters, ParameterSound isName (d.parameters.map (·.name)) p
  titled : ∀ t ∈ d.types, ∃ c ∈ t.name.toList, Text.isBlank c = false
  fitting : ∀ t ∈ d.types, ∀ b ∈ t.bindings, ∀ p ∈ d.parameters, p.name = b.1 →
    ∀ valueType : ValueType, p.type = valueType.name → valueType.Suits b.2

/-- A sound design stays so for any names that its parameters have. -/
theorem Sound.mono {isName isName' : Text → Prop} {d : Design} (h : Sound isName d)
    (hnames : ∀ p ∈ d.parameters, isName' p.name) : Sound isName' d where
  declared := h.declared
  distinct := h.distinct
  sound p hp := ⟨hnames p hp, (h.sound p hp).typed, (h.sound p hp).computed⟩
  titled := h.titled
  fitting := h.fitting

/-- Where names differ and types are known, a value fits just if it is one of the type that is
declared under its name. -/
theorem fits_iff_suits {d : Design} (hdistinct : (d.parameters.map (·.name)).Nodup)
    (htyped : ∀ p ∈ d.parameters, ∃ t : ValueType, p.type = t.name) {name : Text} {v : Json} :
    d.Fits name v ↔ ∀ p ∈ d.parameters, p.name = name →
      ∀ t : ValueType, p.type = t.name → t.Suits v := by
  constructor
  · rintro h p hp rfl t ht
    have hproblem := h p (Design.definition?_of_mem hdistinct hp)
    rw [ht, valueProblem?_eq_none_iff] at hproblem
    exact ValueType.fits_iff.mp hproblem
  · intro h p hp
    obtain ⟨hmem, hname⟩ := Design.definition?_eq_some hp
    obtain ⟨t, ht⟩ := htyped p hmem
    rw [ht, valueProblem?_eq_none_iff]
    exact ValueType.fits_iff.mpr (h p hmem hname t ht)

/-- **The parameters pass raises no issue just of a sound design**, names with a newline behind them
included. -/
theorem clean_check_iff_sound (d : Design) (code : Option Text) :
    (check d code).Clean ↔ Sound (fun s => IsIdentifier s ∨ IsTrailed s) d := by
  -- A name that is not blank has a character that shows.
  have htitled : ∀ t : FamilyType, Text.isAllBlank t.name = false ↔
      ∃ c ∈ t.name.toList, Text.isBlank c = false := by
    intro t
    unfold Text.isAllBlank
    rw [List.all_eq_false]
    simp only [Bool.not_eq_true]
  rw [clean_check_iff]
  unfold DeclaresWell
  rw [clean_checkEach_iff, List.isEmpty_eq_false_iff]
  constructor
  · rintro ⟨⟨hdeclared, hdistinct, -, hsound⟩, htypes⟩
    have htyped : ∀ p ∈ d.parameters, ∃ t : ValueType, p.type = t.name :=
      fun p hp => (hsound p hp).typed
    exact {
      declared := hdeclared
      distinct := hdistinct
      sound := hsound
      titled := fun t ht => (htitled t).mp (htypes t ht).1
      fitting := fun t ht b hb => (fits_iff_suits hdistinct htyped).mp ((htypes t ht).2 b hb) }
  · intro h
    have htyped : ∀ p ∈ d.parameters, ∃ t : ValueType, p.type = t.name :=
      fun p hp => (h.sound p hp).typed
    refine ⟨⟨h.declared, h.distinct, fun p _ => List.not_mem_nil, h.sound⟩, fun t ht => ?_⟩
    exact ⟨(htitled t).mpr (h.titled t ht),
      fun b hb => (fits_iff_suits h.distinct htyped).mpr (h.fitting t ht b hb)⟩

/-- **When the parameters pass is passed**: just if the design is sound for identifiers and for
identifiers with a newline behind them. This comes to soundness for identifiers alone just if no
design passes that has a name of the second kind. -/
theorem passed_run_iff (deductions : Deductions) (d : Design) (code : Option Text) :
    ((Pass.parameters.run deductions d code).passed = true ↔
      Sound (fun s => IsIdentifier s ∨ IsTrailed s) d) ∧
    (((Pass.parameters.run deductions d code).passed = true ↔ Sound IsIdentifier d) ↔
      ¬((Pass.parameters.run deductions d code).passed = true ∧
        ∃ p ∈ d.parameters, IsTrailed p.name)) := by
  have hpassed : (Pass.parameters.run deductions d code).passed = true ↔
      Sound (fun s => IsIdentifier s ∨ IsTrailed s) d :=
    (Pass.parameters.passed_verdict_iff deductions _).trans (clean_check_iff_sound d code)
  refine ⟨hpassed, ?_⟩
  rw [hpassed]
  constructor
  · -- A design with such a name passes and is not sound for identifiers alone.
    rintro h ⟨hsound, p, hp, htrailed⟩
    exact ((h.mp hsound).sound p hp).named.not_trailed htrailed
  · intro h
    constructor
    · intro hsound
      refine hsound.mono fun p hp => ?_
      rcases (hsound.sound p hp).named with hidentifier | htrailed
      · exact hidentifier
      · exact absurd ⟨hsound, p, hp, htrailed⟩ h
    · intro hsound
      exact hsound.mono fun p hp => Or.inl (hsound.sound p hp).named

/-- A design with one parameter, of which the name has a newline behind it. -/
def trailedDesign : Design where
  parameterSet := some { family := [{ name := "Width\n" }] }

/-- It passes, and its name is no identifier. -/
theorem passed_run_trailedDesign :
    (Pass.parameters.run .standard trailedDesign none).passed = true ∧
      ¬Sound IsIdentifier trailedDesign := by
  have hpassed : (Pass.parameters.run .standard trailedDesign none).passed = true := by
    decide +kernel
  have htrailed : IsTrailed "Width\n" :=
    ⟨"Width", isWellFormed_iff.mp (by decide +kernel), by decide +kernel⟩
  refine ⟨hpassed, fun hsound => ?_⟩
  obtain ⟨-, hiff⟩ := passed_run_iff .standard trailedDesign none
  exact hiff.mp (iff_of_true hpassed hsound) ⟨hpassed, _, List.mem_cons_self, htrailed⟩

end Quality.Parameters

end FamilyDesign
