import FamilyDesign.Script.Emission
import FamilyDesign.Proofs.Script.Literal

/-!
# Where a script breaks its lines

A text of a design stands in a script as a literal, which never breaks a line, or in a comment,
where it stands as it is.

* **`commented`** — the texts that a section shows in comments.
* **`totalBreaks_lines`** — no other text of a design breaks a line of the section.
-/

namespace FamilyDesign.Script

open Text (totalBreaks breaks_literal)

/-! ## Pieces of lines -/

/-- Indentation breaks no line. -/
@[simp] theorem totalBreaks_indent (lines : List Text) :
    totalBreaks (indent lines) = totalBreaks lines := by
  unfold totalBreaks
  rw [map_indent]
  intro line
  simp (disch := decide) [breaks_literal]

/-- A quoted text has its newlines escaped. -/
@[simp] theorem breaks_quote (s : Text) : (quote s).breaks = 0 := Text.breaks_jsonQuote s

@[simp] theorem breaks_quoteOptional (s : Option Text) : (quoteOptional s).breaks = 0 :=
  breaks_quote _

@[simp] theorem breaks_blankLine : blankLine.breaks = 0 :=
  breaks_literal (by decide)

@[simp] theorem breaks_word (role : Role) : role.word.breaks = 0 := by
  cases role <;> exact breaks_literal (by decide)

@[simp] theorem breaks_pointOf (x y z : Text) :
    (pointOf x y z).breaks = x.breaks + y.breaks + z.breaks := by
  simp (disch := decide) [pointOf, breaks_literal]

@[simp] theorem breaks_point (x y z : Numeric.Binary64) : (point x y z).breaks = 0 := by
  simp [point]

@[simp] theorem breaks_groundPoint (x y : Numeric.Binary64) : (groundPoint x y).breaks = 0 := by
  simp (disch := decide) [groundPoint, breaks_literal]

/-! ## One entry of a section -/

/-- A plane breaks lines with the name in its comment. -/
theorem totalBreaks_planeLines (p : ReferencePlane) :
    totalBreaks (planeLines p) = p.name.breaks := by
  simp (disch := decide) [planeLines, breaks_literal]

theorem totalBreaks_extrusionLines (role : Role) (e : Extrusion) :
    totalBreaks (extrusionLines role e) = e.name.breaks := by
  have hsides : totalBreaks ((sides e.profile).map (sideLine role.word)) = 0 := by
    refine Text.totalBreaks_eq_zero fun line hline => ?_
    obtain ⟨side, -, rfl⟩ := List.mem_map.mp hline
    simp (disch := decide) [sideLine, breaks_literal]
  have hmaterial : totalBreaks (materialLines role.word e) = 0 := by
    unfold materialLines
    split
    · simp (disch := decide) [breaks_literal]
    · rfl
  simp (disch := decide) [extrusionLines, hsides, hmaterial, breaks_literal]

theorem totalBreaks_constraintEntryLines (c : Constraint) : totalBreaks (constraintEntryLines c) =
    (c.first.getD "None").breaks + (c.second.getD "None").breaks := by
  simp (disch := decide) [constraintEntryLines, breaks_literal]

theorem totalBreaks_materialEntryLines (m : MaterialSlot) :
    totalBreaks (materialEntryLines m) = m.name.breaks := by
  simp (disch := decide) [materialEntryLines, breaks_literal]

theorem breaks_specOf (typeName : Text) : (specOf typeName).breaks = 0 := by
  unfold specOf
  split <;> exact breaks_literal (by decide)

theorem breaks_groupOf (name : Text) : (groupOf name).breaks = 0 := by
  -- what is looked up is a value of the table
  have htable : ∀ entry ∈ groups, entry.2.breaks = 0 := by
    simp (disch := decide) [groups, breaks_literal]
  unfold groupOf
  cases h : groups.lookup name with
  | none => exact breaks_literal (by decide)
  | some value =>
    obtain ⟨before, after, hentries, -⟩ := List.lookup_eq_some_iff.mp h
    exact htable (name, value) (by simp [hentries])

/-- A parameter breaks lines with the name and the type in its comment. -/
theorem totalBreaks_parameterEntryLines {p : Parameter} {lines : List Text}
    (h : parameterEntryLines p = .ok lines) :
    totalBreaks lines = p.name.breaks + p.type.breaks := by
  obtain ⟨setDefault, hdefault, h⟩ := bind_eq_ok_iff.mp h
  -- A default is written as a literal, a formula is quoted.
  have hset : totalBreaks setDefault = 0 := by
    unfold defaultLines at hdefault
    split at hdefault
    · cases hdefault
      rfl
    · split at hdefault
      · cases hdefault
        rfl
      · obtain ⟨written, hwritten, hnone⟩ := bind_eq_ok_iff.mp hdefault
        cases hnone
        simp (disch := decide) [breaks_formatValue hwritten, breaks_literal]
  have hformula : totalBreaks (formulaLines p) = 0 := by
    unfold formulaLines
    split
    · simp (disch := decide) [breaks_literal]
    · rfl
  cases h
  simp (disch := decide) [hset, hformula, breaks_specOf, breaks_groupOf, breaks_literal]

/-- A binding breaks none. -/
theorem totalBreaks_bindingLines {d : Design} {name : Text} {v : Json} {lines : List Text}
    (h : bindingLines d name v = .ok lines) : totalBreaks lines = 0 := by
  unfold bindingLines at h
  dsimp only at h
  split at h
  · cases h
    rfl
  · obtain ⟨written, hwritten, hnone⟩ := bind_eq_ok_iff.mp h
    cases hnone
    simp (disch := decide) [breaks_formatValue hwritten, breaks_literal]

/-- A family type breaks lines with its name. -/
theorem totalBreaks_familyTypeEntryLines {d : Design} {t : FamilyType} {lines : List Text}
    (h : familyTypeEntryLines d t = .ok lines) : totalBreaks lines = t.name.breaks := by
  obtain ⟨bindings, hbindings, h⟩ := bind_eq_ok_iff.mp h
  have hsum : bindings.map totalBreaks = t.bindings.map fun _ => 0 :=
    map_eq_of_mapM hbindings fun _ _ => totalBreaks_bindingLines
  cases h
  simp (disch := decide) [Text.totalBreaks_flatten, hsum, breaks_literal]

/-! ## Whole sections -/

namespace Section

/-- The texts of a design that a section shows in comments, as they are. -/
def commented : Section → Design → List Text
  | imports, d => [d.familyName]
  | referencePlanes, d => d.referencePlanes.map (·.name)
  | parameters, d => d.parameters.flatMap fun p => [p.name, p.type]
  | geometry, d => d.extrusions.map (·.name)
  | constraints, d => d.constraints.flatMap fun c => [c.first.getD "None", c.second.getD "None"]
  | materials, d => d.materials.map (·.name)
  | familyTypes, d => d.types.map (·.name)
  | familySetup, _ | visibility, _ | validation, _ => []

/-- The head of a script breaks lines with the family name. -/
theorem totalBreaks_imports (d : Design) : totalBreaks (importLines d) = d.familyName.breaks := by
  have hcategory : totalBreaks (categoryImport d.category) = 0 := by
    unfold categoryImport
    split
    · simp (disch := decide) [breaks_literal]
    · split
      · simp (disch := decide) [breaks_literal]
      · rfl
  simp (disch := decide) [importLines, standardImports, hcategory, breaks_literal]

/-- The setup quotes all its texts. -/
theorem totalBreaks_setupLines (m : Metadata) : totalBreaks (setupLines m) = 0 := by
  have hlod : (Text.ofString ((m.lod.map Numeric.intText).getD "None")).breaks = 0 := by
    cases m.lod with
    | none => exact breaks_literal (by decide)
    | some lod => exact Text.breaks_intText lod
  simp (disch := decide) [setupLines, hlod, breaks_literal]

/-- The geometry breaks lines with the names of its extrusions. -/
theorem totalBreaks_geometryLines (d : Design) :
    totalBreaks (geometryLines d) = totalBreaks (d.extrusions.map (·.name)) := by
  have htables : totalBreaks (materialTableLines d.roles) = 0 := by
    refine Text.totalBreaks_eq_zero fun line hline => ?_
    obtain ⟨role, -, rfl⟩ := List.mem_map.mp hline
    simp (disch := decide) [breaks_literal]
  have hlength : d.extrusions.length ≤ d.roles.length := Nat.le_of_eq (Role.length_assign _ _).symm
  have hentries : (d.roles.zip d.extrusions).map (fun x => x.2.name.breaks) =
      d.extrusions.map (·.name.breaks) := by
    conv_rhs => rw [← List.map_snd_zip hlength]
    simp [Function.comp_def]
  simp (disch := decide) [geometryLines, geometryHead, htables, Text.totalBreaks_flatMap,
    totalBreaks_extrusionLines, hentries, Text.totalBreaks_map, breaks_literal]

theorem breaks_visibilityEntry (level : Text) (names : List Text) :
    (visibilityEntry level names).breaks = 0 := by
  have hnames : (Text.joinWith ", " (names.map quote)).breaks = 0 := by
    cases names with
    | nil => rfl
    | cons first rest =>
      rw [List.map_cons, Text.breaks_joinWith]
      have hquoted : totalBreaks (quote first :: rest.map quote) = 0 :=
        Text.totalBreaks_eq_zero (by simp)
      simp (disch := decide) [hquoted, breaks_literal]
  simp (disch := decide) [visibilityEntry, hnames, breaks_literal]

theorem totalBreaks_visibilityLines (d : Design) : totalBreaks (visibilityLines d) = 0 := by
  simp (disch := decide) [visibilityLines, breaks_visibilityEntry, breaks_literal]

theorem totalBreaks_tableHead {title table : Text} (htitle : title.breaks = 0)
    (htable : table.breaks = 0) : totalBreaks (tableHead title table) = 0 := by
  simp (disch := decide) [tableHead, htitle, htable, breaks_literal]

/-- No text of a design breaks a line of a section but those in its comments. -/
theorem totalBreaks_lines {s : Section} {d : Design} {lines : List Text}
    (h : s.lines d = .ok lines) : totalBreaks lines = totalBreaks (s.commented d) := by
  cases s with
  | imports =>
    cases h
    simp [totalBreaks_imports, commented]
  | familySetup =>
    unfold Section.lines setup at h
    dsimp only at h
    split at h
    · cases h
      exact totalBreaks_setupLines _
    · cases h
  | referencePlanes =>
    cases h
    simp (disch := decide) [referencePlaneLines, totalBreaks_tableHead, commented,
      Text.totalBreaks_flatMap, totalBreaks_planeLines, Text.totalBreaks_map]
  -- Entries that can fail to be written are summed up through the traversal.
  | parameters =>
    obtain ⟨entries, hentries, hlines⟩ := bind_eq_ok_iff.mp (mapError_eq_ok_iff.mp h)
    cases hlines
    have hsum : entries.map totalBreaks = d.parameters.map fun p => p.name.breaks + p.type.breaks :=
      map_eq_of_mapM hentries fun _ _ => totalBreaks_parameterEntryLines
    simp (disch := decide) [totalBreaks_tableHead, commented, Text.totalBreaks_flatten,
      Text.totalBreaks_flatMap, hsum]
  | geometry =>
    cases h
    exact totalBreaks_geometryLines d
  | constraints =>
    cases h
    simp (disch := decide) [constraintLines, constraintHead, commented,
      Text.totalBreaks_flatMap, totalBreaks_constraintEntryLines, breaks_literal]
  | materials =>
    cases h
    simp (disch := decide) [materialSectionLines, totalBreaks_tableHead, commented,
      Text.totalBreaks_flatMap, totalBreaks_materialEntryLines, Text.totalBreaks_map]
  | familyTypes =>
    obtain ⟨entries, hentries, hlines⟩ := bind_eq_ok_iff.mp (mapError_eq_ok_iff.mp h)
    cases hlines
    have hsum : entries.map totalBreaks = d.types.map fun t => t.name.breaks :=
      map_eq_of_mapM hentries fun _ _ => totalBreaks_familyTypeEntryLines
    simp (disch := decide) [totalBreaks_tableHead, commented, Text.totalBreaks_flatten, hsum,
      Text.totalBreaks_map]
  | visibility =>
    cases h
    exact totalBreaks_visibilityLines d
  | validation =>
    cases h
    simp (disch := decide) [validationLines, commented, breaks_literal]

end Section

end FamilyDesign.Script
