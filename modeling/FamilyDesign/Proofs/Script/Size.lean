import FamilyDesign.Script.Emission
import FamilyDesign.Proofs.Fallible
import FamilyDesign.Proofs.Script.Alike

/-!
# How many lines a script takes

How many lines a section writes depends on what there is in a design: how many entries, and which
of their optional parts.

* **`Section.size`** — the number of lines, by section.
* **`size_of_alike`** — designs alike but for their texts have as many lines to write.
-/

namespace FamilyDesign.Script

-- Sums start from the zero of the core library, whatever algebra is imported beside this module.
attribute [local instance (1100)] Zero.ofOfNat0

/-! ## One entry of a section -/

@[simp] theorem length_indent (lines : List Text) : (indent lines).length = lines.length :=
  List.length_map _

theorem length_sides (profile : List Point2) : (sides profile).length = profile.length := by
  simp [sides]
  omega

/-- How many lines an extrusion takes. -/
def extrusionSize (e : Extrusion) : Nat :=
  e.profile.length + (if (nonempty? e.material).isSome then 1 else 0) + 9

/-- An extrusion has a line for each side, and those of its frame. -/
theorem length_extrusionLines (role : Role) (e : Extrusion) :
    (extrusionLines role e).length = extrusionSize e := by
  unfold extrusionLines materialLines extrusionSize
  cases nonempty? e.material with
  | none => simp [length_sides]
  | some material => simp [length_sides]

/-- How many lines a parameter takes. -/
def parameterSize (p : Parameter) : Nat :=
  (if p.default.present?.isSome ∧ p.type ≠ "Material" then 1 else 0)
    + (if p.formula?.isSome then 1 else 0) + 4

/-- A default takes a line, if it is there and no material. -/
theorem length_defaultLines {p : Parameter} {lines : List Text} (h : defaultLines p = .ok lines) :
    lines.length = if p.default.present?.isSome ∧ p.type ≠ "Material" then 1 else 0 := by
  unfold defaultLines at h
  cases hv : p.default.present? with
  | none =>
    rw [hv] at h
    cases h
    rfl
  | some v =>
    rw [hv] at h
    dsimp only at h
    split at h
    · next hmaterial =>
      cases h
      simp [hmaterial]
    · next hmaterial =>
      obtain ⟨written, -, hnone⟩ := bind_eq_ok_iff.mp h
      cases hnone
      simp [hmaterial]

/-- The lines of a parameter are as many as its size says. -/
theorem length_parameterEntryLines {p : Parameter} {lines : List Text}
    (h : parameterEntryLines p = .ok lines) : lines.length = parameterSize p := by
  obtain ⟨setDefault, hdefault, h⟩ := bind_eq_ok_iff.mp h
  have hformula : (formulaLines p).length = if p.formula?.isSome then 1 else 0 := by
    unfold formulaLines
    cases p.formula? <;> rfl
  cases h
  simp only [List.length_append, length_defaultLines hdefault, hformula, List.length_cons,
    List.length_nil, parameterSize]
  omega

/-- How many lines a value takes that is bound under a type. -/
def bindingSize (d : Design) (name : Text) : Nat :=
  if boundTypeOf d name = "Material" then 0 else 1

theorem length_bindingLines {d : Design} {name : Text} {v : Json} {lines : List Text}
    (h : bindingLines d name v = .ok lines) : lines.length = bindingSize d name := by
  unfold bindingLines at h
  unfold bindingSize
  dsimp only at h
  split at h
  · next hmaterial =>
    cases h
    rw [if_pos hmaterial]
    rfl
  · next hmaterial =>
    obtain ⟨written, -, hnone⟩ := bind_eq_ok_iff.mp h
    cases hnone
    rw [if_neg hmaterial]
    rfl

/-- How many lines a family type takes. -/
def familyTypeSize (d : Design) (t : FamilyType) : Nat :=
  (t.bindings.map fun b => bindingSize d b.1).sum + 3

theorem length_familyTypeEntryLines {d : Design} {t : FamilyType} {lines : List Text}
    (h : familyTypeEntryLines d t = .ok lines) : lines.length = familyTypeSize d t := by
  obtain ⟨bindings, hbindings, h⟩ := bind_eq_ok_iff.mp h
  have hsum : bindings.map List.length = t.bindings.map fun b => bindingSize d b.1 :=
    map_eq_of_mapM hbindings fun _ _ => length_bindingLines
  cases h
  simp [List.length_flatten, hsum, familyTypeSize]

/-! ## Whole sections -/

namespace Section

/-- The number of lines that a section writes. -/
def size : Section → Design → Nat
  | imports, d => standardImports.length + (categoryImport d.category).length + 2
  | familySetup, _ => 24
  | referencePlanes, d => 4 * d.referencePlanes.length + 3
  | parameters, d => (d.parameters.map parameterSize).sum + 3
  | geometry, d =>
    (materialTableLines d.roles).length + (d.extrusions.map extrusionSize).sum + 3
  | constraints, d => 2 * d.constraints.length + 4
  | materials, d => 5 * d.materials.length + 3
  | familyTypes, d => (d.types.map (familyTypeSize d)).sum + 3
  | visibility, _ => 6
  | validation, _ => 15

theorem length_geometryLines (d : Design) : (geometryLines d).length = size geometry d := by
  have hlength : d.extrusions.length ≤ d.roles.length := Nat.le_of_eq (Role.length_assign _ _).symm
  have hentries : (d.roles.zip d.extrusions).map (fun x => extrusionSize x.2) =
      d.extrusions.map extrusionSize := by
    conv_rhs => rw [← List.map_snd_zip hlength]
    simp [Function.comp_def]
  simp [geometryLines, geometryHead, List.length_flatMap, length_extrusionLines, hentries, size]
  omega

/-- **A section that is written has as many lines as its size says.** -/
theorem length_lines {s : Section} {d : Design} {lines : List Text} (h : s.lines d = .ok lines) :
    lines.length = s.size d := by
  cases s with
  | imports =>
    cases h
    simp [importLines, size]
    omega
  | familySetup =>
    unfold Section.lines setup at h
    dsimp only at h
    split at h
    · cases h
      rfl
    · cases h
  | referencePlanes =>
    cases h
    simp [referencePlaneLines, tableHead, size, List.length_flatMap, planeLines, Nat.mul_comm]
  -- Entries that can fail are counted through the traversal.
  | parameters =>
    obtain ⟨entries, hentries, hlines⟩ := bind_eq_ok_iff.mp (mapError_eq_ok_iff.mp h)
    cases hlines
    have hsum : entries.map List.length = d.parameters.map parameterSize :=
      map_eq_of_mapM hentries fun _ _ => length_parameterEntryLines
    simp [tableHead, size, List.length_flatten, hsum]
  | geometry =>
    cases h
    exact length_geometryLines d
  | constraints =>
    cases h
    simp [constraintLines, constraintHead, size, List.length_flatMap, constraintEntryLines]
    omega
  | materials =>
    cases h
    simp [materialSectionLines, tableHead, size, List.length_flatMap, materialEntryLines,
      Nat.mul_comm]
  | familyTypes =>
    obtain ⟨entries, hentries, hlines⟩ := bind_eq_ok_iff.mp (mapError_eq_ok_iff.mp h)
    cases hlines
    have hsum : entries.map List.length = d.types.map (familyTypeSize d) :=
      map_eq_of_mapM hentries fun _ _ => length_familyTypeEntryLines
    simp [tableHead, size, List.length_flatten, hsum]
  | visibility =>
    cases h
    rfl
  | validation =>
    cases h
    rfl

/-! ## Designs that are alike -/

theorem parameterSize_of_alike {p p' : Parameter} (h : p.Alike p') :
    parameterSize p = parameterSize p' := by
  have hformula : p.formula?.isSome = p'.formula?.isSome := isSome_nonempty?_of_alike h.formula
  simp only [parameterSize, h.default.isSome_present?, h.type, hformula]

/-- Extrusions alike have one size. -/
theorem extrusionSize_of_alike {e e' : Extrusion} (h : e.Alike e') :
    extrusionSize e = extrusionSize e' := by
  have hprofile : e.profile.length = e'.profile.length := by
    simpa using congrArg List.length h.profile
  simp only [extrusionSize, hprofile, isSome_nonempty?_of_alike h.material]

/-- Family types alike have one size. -/
theorem familyTypeSize_of_alike {d d' : Design} {t t' : FamilyType} (h : TypesAlike d d' t t') :
    familyTypeSize d t = familyTypeSize d' t' := by
  have hbindings : t.bindings.map (fun b => bindingSize d b.1)
      = t'.bindings.map fun b => bindingSize d' b.1 := by
    refine map_eq_of_forall₂ h.bindings fun b b' hb => ?_
    simp only [bindingSize, hb.type]
  simp only [familyTypeSize, hbindings]

/-- Designs alike but for their texts have as many lines to write. -/
theorem size_of_alike {d d' : Design} (h : d.Alike d') (s : Section) : s.size d = s.size d' := by
  cases s with
  | imports => simp only [size, h.category]
  | familySetup => rfl
  | referencePlanes => simp only [size, h.referencePlanes.length_eq]
  | parameters =>
    simp only [size, map_eq_of_forall₂ h.parameters fun _ _ => parameterSize_of_alike]
  | geometry =>
    simp only [size, h.roles, map_eq_of_forall₂ h.extrusions fun _ _ => extrusionSize_of_alike]
  | constraints => simp only [size, h.constraints.length_eq]
  | materials => simp only [size, h.materials.length_eq]
  | familyTypes =>
    simp only [size, map_eq_of_forall₂ h.types fun _ _ => familyTypeSize_of_alike]
  | visibility => rfl
  | validation => rfl

end Section

end FamilyDesign.Script
