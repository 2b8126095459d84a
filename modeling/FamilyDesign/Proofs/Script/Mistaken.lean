import FamilyDesign.Script.Emission
import FamilyDesign.Proofs.Fallible
import FamilyDesign.Proofs.Script.Words

/-!
# Lines that are mistaken

The lines of a script that build no detail and no void are written with pieces that mention none of
their variables, and with literals, in which the texts of a design stand. So such a line is taken
for one of a detail or a void just if a literal in it mentions one of these variables.

* **`Part`** — a line with the role of the extrusion that it builds, if it builds one.
* **`Section.literals`** — the literals of a section, details and voids left out.
* **`Section.any_isLost_parts`** — a section loses a line that it should keep just if one of them
  mentions a variable.
-/

namespace FamilyDesign.Script

/-! ## Lines and pieces -/

theorem any_indent (lines : List Text) :
    (indent lines).any isMistaken = lines.any isMistaken := by
  have hany := congrArg (List.any · id) (map_indent isMistaken_indented lines)
  rwa [List.any_map, List.any_map] at hany

@[simp] theorem isMistaken_blankLine : isMistaken blankLine = false := rfl

@[simp] theorem mentions_point (x y z : Numeric.Binary64) : mentions (point x y z) = false := by
  simp (disch := first | exact rfl | decide) [point, pointOf, append_assoc]

@[simp] theorem mentions_groundPoint (x y : Numeric.Binary64) :
    mentions (groundPoint x y) = false := by
  simp (disch := first | exact rfl | decide) [groundPoint, pointOf, append_assoc]

/-- Entries that are written one by one, each with its literals. -/
theorem any_flatten_of_mapM {α ε : Type} {f : α → Except ε (List Text)} {items : List α}
    {entries : List (List Text)} (h : items.mapM f = .ok entries) {literals : α → List Text}
    (hf : ∀ x lines, f x = .ok lines → lines.any isMistaken = (literals x).any mentions) :
    entries.flatten.any isMistaken = (items.flatMap literals).any mentions := by
  have hmap : entries.map (·.any isMistaken) = items.map fun x => (literals x).any mentions :=
    map_eq_of_mapM h hf
  have hany := congrArg (List.any · id) hmap
  rw [List.any_map, List.any_map] at hany
  rw [List.any_flatten, List.any_flatMap]
  exact hany

/-! ## One entry of a section -/

theorem any_planeLines (p : ReferencePlane) :
    (planeLines p).any isMistaken = mentions (quote p.name) := by
  simp (disch := first | exact rfl | decide) [planeLines, append_assoc]

theorem any_constraintEntryLines (c : Constraint) : (constraintEntryLines c).any isMistaken
    = [quote c.kind, quoteOptional c.first, quoteOptional c.second].any mentions := by
  simp (disch := first | exact rfl | decide) [constraintEntryLines, quoteOptional, append_assoc]

/-- The literals of a material. -/
def materialLiterals (m : MaterialSlot) : List Text :=
  [quote (materialParameterOf m), quote ((nonempty? m.default).getD m.name)]

theorem any_materialEntryLines (m : MaterialSlot) :
    (materialEntryLines m).any isMistaken = (materialLiterals m).any mentions := by
  simp (disch := first | exact rfl | decide) [materialEntryLines, materialLiterals, append_assoc]

@[simp] theorem mentions_specOf (typeName : Text) : mentions (specOf typeName) = false := by
  unfold specOf
  split <;> exact mentions_literal rfl (by decide)

@[simp] theorem mentions_groupOf (name : Text) : mentions (groupOf name) = false := by
  -- what is looked up is a value of the table
  have htable : ∀ entry ∈ groups, mentions entry.2 = false := by
    decide +kernel
  unfold groupOf
  cases h : groups.lookup name with
  | none => exact mentions_literal rfl (by decide)
  | some value =>
    obtain ⟨before, after, hentries, -⟩ := List.lookup_eq_some_iff.mp h
    exact htable (name, value) (by simp [hentries])

/-- The literal of a default value, if it is written. -/
def defaultLiteral (p : Parameter) : List Text :=
  if p.default.present?.isSome ∧ p.type ≠ "Material" then
    (formatValue p.default p.type).toOption.toList
  else []

/-- A default is mistaken if its literal mentions a variable. -/
theorem any_defaultLines {p : Parameter} {lines : List Text} (h : defaultLines p = .ok lines) :
    lines.any isMistaken = (defaultLiteral p).any mentions := by
  unfold defaultLines at h
  unfold defaultLiteral
  cases hpresent : p.default.present? with
  | none =>
    rw [hpresent] at h
    cases h
    simp
  | some v =>
    rw [hpresent] at h
    rw [Json.eq_of_present?_eq_some hpresent]
    dsimp only at h
    split at h
    · -- A default of type Material is not written.
      next hmaterial =>
      cases h
      simp [hmaterial]
    · next hmaterial =>
      obtain ⟨written, hwritten, hnone⟩ := bind_eq_ok_iff.mp h
      cases hnone
      rw [hwritten, if_pos ⟨rfl, hmaterial⟩]
      simp (disch := first | exact rfl | decide) [append_assoc, Except.toOption]

/-- The literals of a parameter. -/
def parameterLiterals (p : Parameter) : List Text :=
  quote p.name :: (defaultLiteral p ++ (p.formula?.map quote).toList)

/-- A parameter is mistaken if one of its literals mentions a variable. -/
theorem any_parameterEntryLines {p : Parameter} {lines : List Text}
    (h : parameterEntryLines p = .ok lines) :
    lines.any isMistaken = (parameterLiterals p).any mentions := by
  obtain ⟨setDefault, hdefault, h⟩ := bind_eq_ok_iff.mp h
  have hformula : (formulaLines p).any isMistaken = (p.formula?.map quote).toList.any mentions := by
    unfold formulaLines
    cases p.formula? with
    | none => rfl
    | some formula => simp (disch := first | exact rfl | decide) [append_assoc]
  cases h
  simp (disch := first | exact rfl | decide) [parameterLiterals, any_defaultLines hdefault,
    hformula, append_assoc]
  -- the name stands in two lines
  cases mentions (quote p.name) <;> simp

/-- The literals of a value that a family type binds, if it is written. -/
def bindingLiterals (d : Design) (b : Text × Json) : List Text :=
  if boundTypeOf d b.1 = "Material" then []
  else quote b.1 :: (formatValue b.2 (boundTypeOf d b.1)).toOption.toList

/-- A binding is mistaken if its name or its value mentions a variable. -/
theorem any_bindingLines {d : Design} {b : Text × Json} {lines : List Text}
    (h : bindingLines d b.1 b.2 = .ok lines) :
    lines.any isMistaken = (bindingLiterals d b).any mentions := by
  unfold bindingLines at h
  unfold bindingLiterals
  dsimp only at h
  split at h
  · next hmaterial =>
    cases h
    rw [if_pos hmaterial]
    rfl
  · next hmaterial =>
    obtain ⟨written, hwritten, hnone⟩ := bind_eq_ok_iff.mp h
    cases hnone
    rw [if_neg hmaterial, hwritten]
    simp (disch := first | exact rfl | decide) [append_assoc, Except.toOption]

/-- The literals of a family type. -/
def familyTypeLiterals (d : Design) (t : FamilyType) : List Text :=
  quote t.name :: t.bindings.flatMap (bindingLiterals d)

/-- A family type is mistaken if one of its literals mentions a variable. -/
theorem any_familyTypeEntryLines {d : Design} {t : FamilyType} {lines : List Text}
    (h : familyTypeEntryLines d t = .ok lines) :
    lines.any isMistaken = (familyTypeLiterals d t).any mentions := by
  obtain ⟨bindings, hbindings, h⟩ := bind_eq_ok_iff.mp h
  have hbound := any_flatten_of_mapM hbindings fun b lines => any_bindingLines (b := b)
  unfold familyTypeLiterals
  rw [List.any_cons, ← hbound]
  cases h
  simp (disch := first | exact rfl | decide) [append_assoc]

/-! ## The primary extrusion -/

/-- The literals of an extrusion. -/
def extrusionLiterals (e : Extrusion) : List Text :=
  quote e.name :: ((nonempty? e.material).map quote).toList

/-- The word for the primary extrusion runs on into what is behind it. -/
theorem word_primary_append (s : String) :
    Role.primary.word ++ Text.ofString s = Text.ofString ("extrusion" ++ s) := by
  show Text.ofList _ = Text.ofList _
  rw [String.toList_append, List.map_append]
  rfl

theorem word_primary_append_append (s : String) (t : Text) :
    Role.primary.word ++ (Text.ofString s ++ t) = Text.ofString ("extrusion" ++ s) ++ t := by
  rw [← append_assoc, word_primary_append]

/-- A primary extrusion is mistaken if one of its texts mentions a variable. -/
theorem any_extrusionLines (e : Extrusion) :
    (extrusionLines .primary e).any isMistaken = (extrusionLiterals e).any mentions := by
  -- The sides are written in numbers.
  have hsides : ((sides e.profile).map (sideLine Role.primary.word)).any isMistaken = false := by
    rw [List.any_map, List.any_eq_false]
    intro side _
    simp (disch := first | exact rfl | decide) [sideLine, append_assoc, word_primary_append_append]
  have hmaterial : (materialLines Role.primary.word e).any isMistaken
      = ((nonempty? e.material).any fun material =>
          mentions (quote e.name) || mentions (quote material)) := by
    unfold materialLines
    cases nonempty? e.material with
    | none => rfl
    | some material =>
      simp (disch := first | exact rfl | decide) [append_assoc, word_primary_append_append]
  unfold extrusionLines extrusionLiterals
  dsimp only
  rw [List.any_append, List.any_append, List.any_append, List.any_append, hsides, hmaterial]
  simp (disch := first | exact rfl | decide) [pointOf, append_assoc, word_primary_append]
  cases nonempty? e.material with
  | none => simp
  | some material => cases mentions (quote e.name) <;> simp

/-- The literals that the lines of an extrusion hold which is the primary one. -/
def primaryLiterals (x : Role × Extrusion) : List Text :=
  if x.1 = .primary then extrusionLiterals x.2 else []

/-! ## Whole sections -/

/-- A line of a script, with the role of the extrusion that it builds, if it builds one. -/
structure Part where
  role : Option Role
  line : Text

namespace Part

/-- Whether a line builds a detail or a void. -/
def isSecondary (x : Part) : Bool := x.role = some .detail || x.role = some .void

/-- Whether a line is lost that builds neither: it is mistaken for one that does. -/
def isLost (x : Part) : Bool := !x.isSecondary && isMistaken x.line

end Part

/-- Lines that are written for a role, or for none. -/
def partsOf (role : Option Role) (lines : List Text) : List Part := (indent lines).map (⟨role, ·⟩)

/-- The lines of the geometry, those of each extrusion and each table with their role. -/
def geometryParts (d : Design) : List Part :=
  partsOf none geometryHead
    ++ (Role.all.filter d.roles.contains).flatMap
      (fun role => partsOf (some role) [role.word ++ "_material = \x7b\x7d"])
    ++ partsOf none [blankLine]
    ++ (d.roles.zip d.extrusions).flatMap
      fun (role, e) => partsOf (some role) (extrusionLines role e)

theorem map_line_partsOf (role : Option Role) (lines : List Text) :
    (partsOf role lines).map (·.line) = indent lines := by
  unfold partsOf
  rw [List.map_map]
  exact List.map_id _

/-- The parts of the geometry are its lines. -/
theorem map_line_geometryParts (d : Design) : (geometryParts d).map (·.line) = geometryLines d := by
  have htables : (Role.all.filter d.roles.contains).flatMap (fun role =>
      indent [role.word ++ "_material = \x7b\x7d"]) = indent (materialTableLines d.roles) := by
    unfold indent materialTableLines
    rw [List.map_map, List.map_eq_flatMap]
    rfl
  unfold geometryParts geometryLines
  simp only [List.map_append, List.map_flatMap, map_line_partsOf, htables]
  simp only [indent, List.map_append, List.map_flatMap]

/-- Of lines that are written for a detail or a void none is lost, of others the mistaken ones. -/
theorem any_isLost_partsOf (role : Option Role) (lines : List Text) :
    (partsOf role lines).any Part.isLost
      = (!(Part.mk role blankLine).isSecondary && lines.any isMistaken) := by
  have hlost : Part.isLost ∘ (⟨role, ·⟩)
      = fun line => !(Part.mk role blankLine).isSecondary && isMistaken line := rfl
  unfold partsOf
  rw [List.any_map, hlost, ← any_indent lines]
  cases (Part.mk role blankLine).isSecondary with
  | false => simp
  | true => simp

/-- The setup is mistaken if one of its texts mentions a variable. -/
theorem any_setupLines (m : Metadata) : (setupLines m).any isMistaken
    = [quote m.familyName, quote m.category, quote m.description].any mentions := by
  have hlod : mentions (Text.ofString ((m.lod.map Numeric.intText).getD "None")) = false := by
    cases m.lod with
    | none => exact mentions_literal rfl (by decide)
    | some lod => exact mentions_intText lod
  simp (disch := first | exact rfl | decide) [setupLines, hlod]

/-- A list mentions what its members do. -/
theorem mentions_joinWith (names : List Text) :
    mentions (Text.joinWith ", " (names.map quote)) = (names.map quote).any mentions := by
  induction names with
  | nil => rfl
  | cons first rest ih =>
    cases rest with
    | nil =>
      show mentions (Text.joinWith ", " [quote first]) = _
      simp [Text.joinWith, List.intercalate]
    | cons second rest =>
      rw [List.map_cons, List.map_cons, Text.joinWith_cons_cons, ← List.map_cons,
        append_assoc, mentions_quote_append, mentions_literal_append rfl _ (by decide), ih,
        mentions_literal rfl (by decide)]
      rfl

/-- A level of visibility is mistaken if one of its names mentions a variable. -/
theorem isMistaken_visibilityEntry {level : Text} (hlevel : mentions (quote level) = false)
    (names : List Text) :
    isMistaken (visibilityEntry level names) = (names.map quote).any mentions := by
  unfold visibilityEntry
  rw [append_assoc, append_assoc, append_assoc, isMistaken_indented]
  simp (disch := first | exact rfl | decide) [hlevel, mentions_joinWith]

/-- No line at the head of a script is mistaken: its one open text is in a comment. -/
theorem any_importLines (d : Design) : (importLines d).any isMistaken = false := by
  have hcategory : (categoryImport d.category).any isMistaken = false := by
    unfold categoryImport
    split
    · simp (disch := first | exact rfl | decide)
    · split
      · simp (disch := first | exact rfl | decide)
      · rfl
  simp (disch := first | exact rfl | decide) [importLines, standardImports, hcategory]

theorem any_validationLines : validationLines.any isMistaken = false := by
  simp (disch := first | exact rfl | decide) [validationLines]

/-- The geometry loses a line just if a literal of its primary extrusion mentions a variable. -/
theorem any_geometryParts (d : Design) : (geometryParts d).any Part.isLost
    = ((d.roles.zip d.extrusions).flatMap primaryLiterals).any mentions := by
  have hhead : geometryHead.any isMistaken = false := by
    simp (disch := first | exact rfl | decide) [geometryHead]
  -- The table of a secondary role may be lost, and that of the primary one is not.
  have htables : ((Role.all.filter d.roles.contains).flatMap fun role =>
      partsOf (some role) [role.word ++ "_material = \x7b\x7d"]).any Part.isLost = false := by
    rw [List.any_flatMap, List.any_eq_false]
    intro role _
    rw [any_isLost_partsOf]
    cases role with
    | detail => exact Bool.false_ne_true
    | primary => decide +kernel
    | void => exact Bool.false_ne_true
  have hbuilt : ∀ role : Role, ∀ e : Extrusion,
      (partsOf (some role) (extrusionLines role e)).any Part.isLost
        = (primaryLiterals (role, e)).any mentions := by
    intro role e
    rw [any_isLost_partsOf]
    cases role with
    | detail => rfl
    | primary =>
      have hprimary : (Part.mk (some .primary) blankLine).isSecondary = false := rfl
      rw [hprimary, Bool.not_false, Bool.true_and, any_extrusionLines, primaryLiterals, if_pos rfl]
    | void => rfl
  have hnone : (Part.mk none blankLine).isSecondary = false := rfl
  unfold geometryParts
  rw [List.any_append, List.any_append, List.any_append, any_isLost_partsOf, hhead, htables,
    any_isLost_partsOf, hnone, List.any_flatMap, List.any_flatMap]
  simp only [hbuilt, List.any_cons, isMistaken_blankLine, List.any_nil, Bool.or_false,
    Bool.false_or, Bool.and_false]

namespace Section

/-- The literals of a section in which a text of the design stands, but for those in lines that
build details and voids. -/
def literals : Section → Design → List Text
  | imports, _ => []
  | familySetup, d =>
    d.metadata.toList.flatMap fun m => [quote m.familyName, quote m.category, quote m.description]
  | referencePlanes, d => d.referencePlanes.map fun p => quote p.name
  | parameters, d => d.parameters.flatMap parameterLiterals
  | geometry, d => (d.roles.zip d.extrusions).flatMap primaryLiterals
  | constraints, d =>
    d.constraints.flatMap fun c => [quote c.kind, quoteOptional c.first, quoteOptional c.second]
  | materials, d => d.materials.flatMap materialLiterals
  | familyTypes, d => d.types.flatMap (familyTypeLiterals d)
  | visibility, d =>
    let settings := d.visibility.getD {}
    (settings.coarse ++ settings.medium ++ settings.fine).map quote
  | validation, _ => []

/-- The lines of a section, those that build an extrusion with its role. -/
def parts (s : Section) (d : Design) : Except Fault (List Part) :=
  (s.lines d).map fun lines =>
    match s with
    | geometry => geometryParts d
    | _ => lines.map (⟨none, ·⟩)

theorem any_isLost_map_none (lines : List Text) :
    (lines.map fun line => (⟨none, line⟩ : Part)).any Part.isLost = lines.any isMistaken := by
  rw [List.any_map]
  rfl

/-- The parts of a section are its lines. -/
theorem lines_of_parts {s : Section} {d : Design} {parts : List Part}
    (h : s.parts d = .ok parts) : s.lines d = .ok (parts.map (·.line)) := by
  obtain ⟨lines, hlines, rfl⟩ := map_eq_ok_iff.mp h
  rw [hlines]
  by_cases hgeometry : s = geometry
  · subst hgeometry
    cases hlines
    exact congrArg Except.ok (map_line_geometryParts d).symm
  · have hmap : (lines.map fun line => (⟨none, line⟩ : Part)).map (·.line) = lines := by
      rw [List.map_map]
      exact List.map_id _
    cases s with
    | geometry => exact absurd rfl hgeometry
    | _ => exact congrArg Except.ok hmap.symm

/-- Entries below the head of a table, each with its literals. -/
theorem any_table {α : Type} {head : List Text} (hhead : head.any isMistaken = false)
    {items : List α} {f : α → List Text} {literals : α → List Text}
    (hf : ∀ x, (f x).any isMistaken = (literals x).any mentions) :
    (indent (head ++ items.flatMap f)).any isMistaken = (items.flatMap literals).any mentions := by
  rw [any_indent, List.any_append, hhead, Bool.false_or, List.any_flatMap, List.any_flatMap]
  simp only [hf]

/-- A line is mistaken in a section just if a literal of it mentions a variable. -/
theorem any_isMistaken_lines {s : Section} {d : Design} {lines : List Text}
    (h : s.lines d = .ok lines) (hs : s ≠ geometry) :
    lines.any isMistaken = (s.literals d).any mentions := by
  cases s with
  | imports => cases h; exact any_importLines d
  | familySetup =>
    cases hmetadata : d.metadata with
    | none => simp [Section.lines, setup, hmetadata] at h
    | some m =>
      simp only [Section.lines, setup, hmetadata, Except.ok.injEq] at h
      rw [← h, any_setupLines, literals, hmetadata]
      rfl
  | referencePlanes =>
    cases h
    rw [literals, List.map_eq_flatMap]
    refine any_table ?_ fun p => by rw [any_planeLines]; simp
    simp (disch := first | exact rfl | decide) [tableHead]
  | parameters =>
    obtain ⟨entries, hentries, h⟩ := bind_eq_ok_iff.mp (mapError_eq_ok_iff.mp h)
    cases h
    rw [any_indent, List.any_append,
      any_flatten_of_mapM hentries fun p lines => any_parameterEntryLines]
    simp (disch := first | exact rfl | decide) [tableHead, literals]
  | geometry => exact absurd rfl hs
  | constraints =>
    cases h
    have hhead : constraintHead.any isMistaken = false := by
      simp (disch := first | exact rfl | decide) [constraintHead]
    unfold constraintLines
    rw [any_indent, List.any_append, ← any_indent, any_table hhead any_constraintEntryLines]
    simp [literals]
  | materials =>
    cases h
    refine any_table ?_ any_materialEntryLines
    simp (disch := first | exact rfl | decide) [tableHead]
  | familyTypes =>
    obtain ⟨entries, hentries, h⟩ := bind_eq_ok_iff.mp (mapError_eq_ok_iff.mp h)
    cases h
    rw [any_indent, List.any_append,
      any_flatten_of_mapM hentries fun t lines => any_familyTypeEntryLines]
    simp (disch := first | exact rfl | decide) [tableHead, literals]
  -- The names of the levels are fixed, so only the elements listed can mention a variable.
  | visibility =>
    have hcoarse : mentions (quote "coarse") = false := by decide +kernel
    have hmedium : mentions (quote "medium") = false := by decide +kernel
    have hfine : mentions (quote "fine") = false := by decide +kernel
    cases h
    unfold visibilityLines
    rw [any_indent]
    simp (disch := first | exact rfl | decide) [isMistaken_visibilityEntry hcoarse,
      isMistaken_visibilityEntry hmedium, isMistaken_visibilityEntry hfine, literals]
  | validation => cases h; exact any_validationLines

/-- **What a section loses.** A line that builds no detail and no void is mistaken just if a literal
of the section mentions a variable of theirs. -/
theorem any_isLost_parts {s : Section} {d : Design} {parts : List Part}
    (h : s.parts d = .ok parts) : parts.any Part.isLost = (s.literals d).any mentions := by
  obtain ⟨lines, hlines, rfl⟩ := map_eq_ok_iff.mp h
  by_cases hgeometry : s = geometry
  · subst hgeometry
    exact any_geometryParts d
  · rw [← any_isMistaken_lines hlines hgeometry, ← any_isLost_map_none]
    cases s with
    | geometry => exact absurd rfl hgeometry
    | _ => rfl

end Section

end FamilyDesign.Script
