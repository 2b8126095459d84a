import FamilyDesign.Proofs.Quality.Outcome
import FamilyDesign.Proofs.Script.Loops

/-!
# Alarms of a script

A script is written without a loop that has no bound, yet it may be taken for one with such a loop:
the marks of loops are looked for in the whole text, and so in the comments and literals in which
the texts of a design stand. These alone raise the alarm, as far as the rules leave their lines.

* **`Tells`** — comments and inscriptions that account for the alarms of lines.
* **`Section.comments`**, **`Section.inscriptions`** — the comments of a section that hold a text of
  the design, and what other lines hold of one.
* **`Section.tells_lines`** — these account for the alarms of a section.
* **`loop_issue_iff`** — the headline: what raises the alarm over a script.
-/

namespace FamilyDesign.Script

open Quality.Outcome (records_all records_detail records_onlyIf_issue records_onlyIf_warning)
open Quality.Performance (hasUnboundedLoop)

/-! ## What accounts for alarms -/

/-- A mark is left in one of the lines just if it is in one of the comments, or in one of the
inscriptions, each of which is what one line of code holds. -/
def Tells (low : Bool) (lines comments : List Text) (inscriptions : List (List Text)) : Prop :=
  lines.any (rings low) = (comments.any (rings low) || inscriptions.any (sounds low))

section

variable {low : Bool} {lines lines' comments comments' : List Text}
  {inscriptions inscriptions' : List (List Text)}

/-- Lines one after another are accounted for by what accounts for each part. -/
theorem Tells.append (h : Tells low lines comments inscriptions)
    (h' : Tells low lines' comments' inscriptions') :
    Tells low (lines ++ lines') (comments ++ comments') (inscriptions ++ inscriptions') := by
  unfold Tells at h h' ⊢
  rw [List.any_append, List.any_append, List.any_append, h, h']
  simp only [Bool.or_assoc, Bool.or_left_comm]

theorem Tells.indent (h : Tells low lines comments inscriptions) :
    Tells low (indent lines) comments inscriptions := by
  unfold Tells at h ⊢
  rw [any_rings_indent, h]

theorem Tells.of_quiet (h : lines.any (rings low) = false) : Tells low lines [] [] := h

/-- Lines of numbers and fixed pieces raise no alarm, whether they are comments or not. -/
theorem Tells.of_loops (hbreaks : Text.totalBreaks lines = 0)
    (h : lines.any hasUnboundedLoop = false) : Tells low lines [] [] := by
  refine .of_quiet (List.any_eq_false.mpr fun line hline => ?_)
  have hunbroken := unbroken_of_totalBreaks hbreaks line hline
  have hnone : hasUnboundedLoop line = false := by
    simpa using List.any_eq_false.mp h line hline
  rw [rings_of_loops (Text.breaks_eq_zero_iff.mpr hunbroken) hnone]
  exact Bool.false_ne_true

/-- A comment accounts for itself. -/
theorem Tells.comment (comment : Text) : Tells low [comment] [comment] [] :=
  (Bool.or_false _).symm

/-- Entries that are written one by one. Induction on the entries. -/
theorem Tells.flatten {α : Type} {items : List α} {entries : List (List Text)}
    {comments : α → List Text} {inscriptions : α → List (List Text)}
    (h : List.Forall₂ (fun x lines => Tells low lines (comments x) (inscriptions x))
      items entries) :
    Tells low entries.flatten (items.flatMap comments) (items.flatMap inscriptions) := by
  induction h with
  | nil => rfl
  | cons hfirst _ ih => exact hfirst.append ih

/-- The lines of a list of items are accounted for item by item. -/
theorem Tells.flatMap {α : Type} {items : List α} {f : α → List Text} {comments : α → List Text}
    {inscriptions : α → List (List Text)}
    (h : ∀ x, Tells low (f x) (comments x) (inscriptions x)) :
    Tells low (items.flatMap f) (items.flatMap comments) (items.flatMap inscriptions) := by
  rw [List.flatMap_def]
  refine .flatten ?_
  rw [List.forall₂_map_right_iff, List.forall₂_same]
  exact fun x _ => h x

theorem Tells.of_mapM {α ε : Type} {f : α → Except ε (List Text)} {items : List α}
    {entries : List (List Text)} (h : items.mapM f = .ok entries) {comments : α → List Text}
    {inscriptions : α → List (List Text)}
    (hf : ∀ x lines, f x = .ok lines → Tells low lines (comments x) (inscriptions x)) :
    Tells low entries.flatten (items.flatMap comments) (items.flatMap inscriptions) :=
  .flatten ((mapM_eq_ok_iff.mp h).imp hf)

/-! ## One entry of a section -/

/-- The comment of a reference plane. -/
def planeComment (p : ReferencePlane) : Text := "# Reference plane: " ++ p.name

theorem tells_planeLines (p : ReferencePlane) :
    Tells low (planeLines p) [planeComment p] [[quote p.name]] := by
  simp (disch := first | exact rfl | decide | simp (disch := first | exact rfl | decide))
    [Tells, planeLines, planeComment, append_assoc, sounds]

/-- The comment of a constraint. -/
def constraintComment (c : Constraint) : Text :=
  "# Constraint: " ++ c.first.getD "None" ++ " -> " ++ c.second.getD "None"

theorem tells_constraintEntryLines (c : Constraint) : Tells low (constraintEntryLines c)
    [constraintComment c] [[quote c.kind, quoteOptional c.first, quoteOptional c.second]] := by
  simp (disch := first | exact rfl | decide | simp (disch := first | exact rfl | decide))
    [Tells, constraintEntryLines, constraintComment, quoteOptional, append_assoc, sounds]

/-- The comment of a material. -/
def materialComment (m : MaterialSlot) : Text := "# Material: " ++ m.name

/-- What the lines of a material hold of it. -/
def materialInscriptions (m : MaterialSlot) : List (List Text) :=
  [[quote (materialParameterOf m)],
    [quote (materialParameterOf m), quote ((nonempty? m.default).getD m.name)]]

theorem tells_materialEntryLines (m : MaterialSlot) :
    Tells low (materialEntryLines m) [materialComment m] (materialInscriptions m) := by
  simp (disch := first | exact rfl | decide | simp (disch := first | exact rfl | decide))
    [Tells, materialEntryLines, materialComment, materialInscriptions, append_assoc, sounds]

/-- The comment of a parameter. -/
def parameterComment (p : Parameter) : Text :=
  "# Parameter: " ++ p.name ++ " (" ++ p.type ++ ")"

/-- A default rings by its literal. -/
theorem tells_defaultLines {p : Parameter} {lines : List Text} (h : defaultLines p = .ok lines) :
    Tells low lines [] ((defaultLiteral p).map ([·])) := by
  unfold defaultLines at h
  unfold defaultLiteral
  cases hpresent : p.default.present? with
  | none =>
    rw [hpresent] at h
    cases h
    simp [Tells]
  | some v =>
    rw [hpresent] at h
    rw [Json.eq_of_present?_eq_some hpresent]
    dsimp only at h
    split at h
    · next hmaterial =>
      cases h
      simp [Tells, hmaterial]
    · next hmaterial =>
      -- The literal stands alone in its argument, so no loop runs into it from outside.
      obtain ⟨written, hwritten, hnone⟩ := bind_eq_ok_iff.mp h
      cases hnone
      rw [hwritten, if_pos ⟨rfl, hmaterial⟩]
      simp (disch := first | exact rfl | decide |
          simp (disch := first | exact rfl | decide) [breaks_formatValue hwritten])
        [Tells, append_assoc, Except.toOption, sounds, loops_formatValue_append hwritten]

/-- A parameter rings by its comment and its literals. -/
theorem tells_parameterEntryLines {p : Parameter} {lines : List Text}
    (h : parameterEntryLines p = .ok lines) :
    Tells low lines [parameterComment p] ((parameterLiterals p).map ([·])) := by
  obtain ⟨setDefault, hdefault, h⟩ := bind_eq_ok_iff.mp h
  have hset : Tells low setDefault [] ((defaultLiteral p).map ([·])) := tells_defaultLines hdefault
  have hformula : Tells low (formulaLines p) [] ((p.formula?.map quote).toList.map ([·])) := by
    unfold formulaLines
    cases p.formula? with
    | none => rfl
    | some formula =>
      simp (disch := first | exact rfl | decide | simp (disch := first | exact rfl | decide))
        [Tells, append_assoc, sounds]
  have hadded : Tells low [parameterComment p,
      "param = family_manager.AddParameter(" ++ quote p.name ++ ", "
        ++ groupOf (Text.lower (p.group.getD "")) ++ ", " ++ specOf p.type ++ ", "
        ++ truthLiteral p.isInstance ++ ")"] [parameterComment p] [[quote p.name]] := by
    simp (disch := first | exact rfl | decide |
        simp (disch := first | exact rfl | decide) [breaks_groupOf, breaks_specOf])
      [Tells, append_assoc, sounds]
  have hrecorded : Tells low ["created_parameters[" ++ quote p.name ++ "] = param", blankLine] []
      [[quote p.name]] := by
    simp (disch := first | exact rfl | decide | simp (disch := first | exact rfl | decide))
      [Tells, append_assoc, sounds]
  cases h
  have htells := ((hadded.append hset).append hformula).append hrecorded
  unfold Tells at htells ⊢
  refine htells.trans ?_
  unfold parameterLiterals
  -- the name stands in two lines
  cases hname : sounds low [quote p.name] <;> simp [hname]

/-- What the lines of a family type hold of it. -/
def familyTypeInscriptions (d : Design) (t : FamilyType) : List (List Text) :=
  [quote t.name] :: t.bindings.map (bindingLiterals d)

/-- The comment of a family type. -/
def familyTypeComment (t : FamilyType) : Text := "# Family type: " ++ t.name

/-- A binding rings by its literals. -/
theorem tells_bindingLines {d : Design} {b : Text × Json} {lines : List Text}
    (h : bindingLines d b.1 b.2 = .ok lines) : Tells low lines [] [bindingLiterals d b] := by
  unfold bindingLines at h
  unfold bindingLiterals
  dsimp only at h
  split at h
  · next hmaterial =>
    cases h
    rw [if_pos hmaterial]
    cases low <;> rfl
  · next hmaterial =>
    obtain ⟨written, hwritten, hnone⟩ := bind_eq_ok_iff.mp h
    cases hnone
    rw [if_neg hmaterial, hwritten]
    simp (disch := first | exact rfl | decide |
        simp (disch := first | exact rfl | decide) [breaks_formatValue hwritten])
      [Tells, append_assoc, Except.toOption, sounds, loops_formatValue_append hwritten]

/-- A family type rings by its comment, its name and its bindings. -/
theorem tells_familyTypeEntryLines {d : Design} {t : FamilyType} {lines : List Text}
    (h : familyTypeEntryLines d t = .ok lines) :
    Tells low lines [familyTypeComment t] (familyTypeInscriptions d t) := by
  obtain ⟨bindings, hbindings, h⟩ := bind_eq_ok_iff.mp h
  -- Bindings have no comments of their own.
  have hbound : Tells low bindings.flatten [] (t.bindings.map (bindingLiterals d)) := by
    have hmapM : Tells low bindings.flatten (t.bindings.flatMap fun _ => [])
        (t.bindings.flatMap fun b => [bindingLiterals d b]) :=
      .of_mapM hbindings fun b lines => tells_bindingLines
    rwa [← List.map_eq_flatMap, List.flatMap_eq_nil_iff.mpr fun _ _ => rfl] at hmapM
  have hcreated : Tells low [familyTypeComment t,
      "created_types[" ++ quote t.name ++ "] = family_manager.NewType(" ++ quote t.name ++ ")"]
      [familyTypeComment t] [[quote t.name]] := by
    simp (disch := first | exact rfl | decide | simp (disch := first | exact rfl | decide))
      [Tells, append_assoc, sounds]
  have hblank : Tells low [blankLine] [] [] := .of_quiet (by simp)
  cases h
  have htells := (hcreated.append hbound).append hblank
  rwa [List.append_nil, List.append_nil, List.append_nil] at htells

/-! ## Extrusions -/

/-- The comment of an extrusion. -/
def extrusionComment (x : Role × Extrusion) : Text :=
  "# Extrusion: " ++ x.2.name ++ " (" ++ x.1.word ++ ")"

/-- What the lines of an extrusion hold of it, with the variable by which the line is known. -/
def extrusionInscriptions (x : Role × Extrusion) : List (List Text) :=
  (nonempty? x.2.material).toList.map
      (fun material => [x.1.word ++ "_material", quote x.2.name, quote material])
    ++ [[quote x.2.name, x.1.word ++ "_obj"]]

/-- A line of code that starts with the word of a role. -/
theorem rings_word (role : Role) {t : Text} (h : t.breaks = 0) :
    rings low (role.word ++ t) = sounds low [role.word ++ t] := by
  have hcode : comments? role.word = some false := by
    cases role <;> exact comments?_literal rfl
  exact rings_of_comments? hcode (by rw [Text.breaks_append, breaks_word, h])

/-- A mention across the bracket of a material table is one of the table. -/
theorem mentions_material_append (role : Role) (t : Text) :
    mentions (role.word ++ ("_material[" ++ t))
      = (mentions (role.word ++ "_material") || mentions t) := by
  have hmark : Text.isWordChar '[' = false := isWordChar_of_mem_marks (by decide)
  refine mentions_mark hmark ?_
  cases role <;> rfl

/-- The material of an extrusion rings by its role, its name and itself. -/
theorem tells_materialLines (role : Role) (e : Extrusion) :
    Tells low (materialLines role.word e) [] ((nonempty? e.material).toList.map
      fun material => [role.word ++ "_material", quote e.name, quote material]) := by
  unfold materialLines
  cases nonempty? e.material with
  | none => rfl
  | some material =>
    simp (disch := first | exact rfl | decide | simp (disch := first | exact rfl | decide))
      [Tells, append_assoc, sounds, rings_word, mentions_material_append]

/-- An extrusion rings by its comment and its inscriptions. -/
theorem tells_extrusionLines (role : Role) (e : Extrusion) : Tells low (extrusionLines role e)
    [extrusionComment (role, e)] (extrusionInscriptions (role, e)) := by
  -- but for its comment, what is drawn is drawn with numbers
  have hopened : Tells low [
      "# From " ++ point e.start.x e.start.y e.start.z ++ " to "
        ++ point e.stop.x e.stop.y e.stop.z,
      role.word ++ "_sketch = SketchPlane.Create(doc, Plane.CreateByNormalAndOrigin(XYZ(0, 0, 1), "
        ++ pointOf "0" "0" e.start.z.natural ++ "))",
      role.word ++ "_curves = CurveArray()"] [] [] := by
    have horigin : hasUnboundedLoop (pointOf "0" "0" e.start.z.natural) = false := by
      simp (disch := first | exact rfl | decide) [pointOf, append_assoc]
    refine .of_loops ?_ ?_
    · simp (disch := first | exact rfl | decide)
    · simp (disch := first | exact rfl | decide) [horigin, append_assoc]
  have hsides : Tells low ((sides e.profile).map (sideLine role.word)) [] [] := by
    refine .of_loops (Text.totalBreaks_eq_zero (List.forall_mem_map.mpr fun side _ => ?_)) ?_
    · simp (disch := first | exact rfl | decide) [sideLine]
    · rw [List.any_map, List.any_eq_false]
      intro side _
      simp (disch := first | exact rfl | decide) [sideLine, append_assoc]
  have hbuilt : Tells low [role.word ++ "_profile = CurveArrArray()",
      role.word ++ "_profile.Append(" ++ role.word ++ "_curves)",
      role.word ++ "_obj = doc.FamilyCreate.NewExtrusion(" ++ truthLiteral (role != .void) ++ ", "
        ++ role.word ++ "_profile, " ++ role.word ++ "_sketch, "
        ++ (e.stop.z - e.start.z).natural ++ ")"] [] [] := by
    refine .of_loops ?_ ?_
    · simp (disch := first | exact rfl | decide)
    · simp (disch := first | exact rfl | decide) [append_assoc]
  have hrecorded : Tells low
      ["created_geometry[" ++ quote e.name ++ "] = " ++ role.word ++ "_obj", blankLine] []
      [[quote e.name, role.word ++ "_obj"]] := by
    simp (disch := first | exact rfl | decide | simp (disch := first | exact rfl | decide))
      [Tells, append_assoc, sounds]
  exact (((((Tells.comment (extrusionComment (role, e))).append hopened).append hsides).append
    hbuilt).append (tells_materialLines role e)).append hrecorded

/-! ## Whole sections -/

/-- The head of a script rings by the family name in its comment. -/
theorem tells_importLines (d : Design) :
    Tells low (importLines d) ["# Family: " ++ d.familyName] [] := by
  have hstandard : Tells low standardImports [] [] := by
    refine .of_loops ?_ ?_
    · simp (disch := first | exact rfl | decide) [standardImports]
    · simp (disch := first | exact rfl | decide) [standardImports]
  have hcategory : Tells low (categoryImport d.category) [] [] := by
    refine .of_quiet ?_
    unfold categoryImport
    split
    · simp (disch := first | exact rfl | decide)
    · split
      · simp (disch := first | exact rfl | decide)
      · rfl
  have hblank : Tells low [blankLine] [] [] := .of_quiet (by simp)
  exact (hstandard.append hcategory).append (hblank.append (.comment _))

/-- The setup rings by the texts it is given. -/
theorem tells_setupLines (m : Metadata) : Tells low (setupLines m) []
    [[quote m.familyName], [quote m.category], [quote m.description]] := by
  have hlod : hasUnboundedLoop (Text.ofString ((m.lod.map Numeric.intText).getD "None"))
      = false := by
    cases m.lod with
    | none => exact loops_literal rfl (by decide)
    | some lod => exact loops_intText lod
  have hbreaks : (Text.ofString ((m.lod.map Numeric.intText).getD "None")).breaks = 0 := by
    cases m.lod with
    | none => exact breaks_fixed rfl (by decide)
    | some lod => exact Text.breaks_intText lod
  simp (disch := first | exact rfl | decide |
      simp (disch := first | exact rfl | decide) [hbreaks])
    [Tells, setupLines, sounds, hlod]

theorem tells_validationLines : Tells low validationLines [] [] := by
  refine .of_loops ?_ ?_
  · simp (disch := first | exact rfl | decide) [validationLines]
  · simp (disch := first | exact rfl | decide) [validationLines]

/-- No loop runs across the commas of a list. -/
theorem loops_joinWith (names : List Text) : hasUnboundedLoop (Text.joinWith ", " (names.map quote))
    = (names.map quote).any hasUnboundedLoop := by
  have hempty : hasUnboundedLoop "" = false := loops_literal rfl (by decide)
  induction names with
  | nil => exact hempty
  | cons first rest ih =>
    cases rest with
    | nil =>
      rw [List.map_singleton, joinWith_singleton, List.any_cons, List.any_nil, Bool.or_false]
    | cons second rest =>
      rw [List.map_cons, List.map_cons, Text.joinWith_cons_cons, ← List.map_cons, append_assoc,
        loops_quote_append, loops_literal_append rfl (by decide), ih, List.any_cons,
        loops_literal rfl (by decide), Bool.false_or]

/-- A level of visibility rings by the names that are listed. -/
theorem rings_visibilityEntry {level : Text} (hmentions : mentions (quote level) = false)
    (hloops : hasUnboundedLoop (quote level) = false) (names : List Text) :
    rings low (visibilityEntry level names) = sounds low (names.map quote) := by
  have hbreaks := Section.breaks_visibilityEntry level names
  unfold visibilityEntry at hbreaks ⊢
  rw [append_assoc, append_assoc, append_assoc] at hbreaks ⊢
  rw [Text.breaks_append, Nat.add_eq_zero_iff] at hbreaks
  rw [rings_indented, rings_of_comments? (comments?_quote level) hbreaks.2]
  simp (disch := first | exact rfl | decide) [sounds, hmentions, hloops, mentions_joinWith,
    loops_joinWith]

/-- What the lines of each level of detail hold. -/
def visibilityInscriptions (settings : Visibility) : List (List Text) :=
  [settings.coarse.map quote, settings.medium.map quote, settings.fine.map quote]

/-- The visibility rings by the names of its levels. -/
theorem tells_visibilityLines (d : Design) :
    Tells low (visibilityLines d) [] (visibilityInscriptions (d.visibility.getD {})) := by
  have hcoarse : ∀ names,
      rings low (visibilityEntry "coarse" names) = sounds low (names.map quote) :=
    rings_visibilityEntry (by decide +kernel) (by decide +kernel)
  have hmedium : ∀ names,
      rings low (visibilityEntry "medium" names) = sounds low (names.map quote) :=
    rings_visibilityEntry (by decide +kernel) (by decide +kernel)
  have hfine : ∀ names,
      rings low (visibilityEntry "fine" names) = sounds low (names.map quote) :=
    rings_visibilityEntry (by decide +kernel) (by decide +kernel)
  refine Tells.indent ?_
  simp (disch := first | exact rfl | decide | simp (disch := first | exact rfl | decide))
    [Tells, hcoarse, hmedium, hfine, visibilityInscriptions]

/-- The geometry rings by its extrusions. -/
theorem tells_geometryLines (d : Design) : Tells low (geometryLines d)
    ((d.roles.zip d.extrusions).map extrusionComment)
    ((d.roles.zip d.extrusions).flatMap extrusionInscriptions) := by
  have hhead : Tells low geometryHead [] [] := by
    refine .of_quiet ?_
    simp (disch := first | exact rfl | decide) [geometryHead]
  -- The tables are named after roles, none of which rings.
  have htables : Tells low (materialTableLines d.roles) [] [] := by
    refine .of_loops (Text.totalBreaks_eq_zero (List.forall_mem_map.mpr fun role _ => ?_)) ?_
    · simp (disch := first | exact rfl | decide)
    · unfold materialTableLines
      rw [List.any_map, List.any_eq_false]
      intro role _
      simp (disch := first | exact rfl | decide)
  have hblank : Tells low [blankLine] [] [] := .of_quiet (by simp)
  have hbuilt : Tells low ((d.roles.zip d.extrusions).flatMap fun x =>
      extrusionLines x.1 x.2) ((d.roles.zip d.extrusions).flatMap ([extrusionComment ·]))
      ((d.roles.zip d.extrusions).flatMap extrusionInscriptions) :=
    .flatMap fun x => tells_extrusionLines x.1 x.2
  rw [← List.map_eq_flatMap] at hbuilt
  exact (((hhead.append htables).append hblank).append hbuilt).indent

/-- Entries below the head of a table. -/
theorem tells_table {head : List Text} (hhead : Tells low head [] [])
    (h : Tells low lines comments inscriptions) :
    Tells low (indent (head ++ lines)) comments inscriptions :=
  (hhead.append h).indent

end

namespace Section

/-- The comments of a section in which a text of the design stands. -/
def comments : Section → Design → List Text
  | imports, d => ["# Family: " ++ d.familyName]
  | referencePlanes, d => d.referencePlanes.map planeComment
  | parameters, d => d.parameters.map parameterComment
  | geometry, d => (d.roles.zip d.extrusions).map extrusionComment
  | constraints, d => d.constraints.map constraintComment
  | materials, d => d.materials.map materialComment
  | familyTypes, d => d.types.map familyTypeComment
  | familySetup, _ | visibility, _ | validation, _ => []

/-- The literals of a section in which a text of the design stands, those of one line together with
the variables by which the line is known. -/
def inscriptions : Section → Design → List (List Text)
  | familySetup, d => d.metadata.toList.flatMap fun m =>
    [[quote m.familyName], [quote m.category], [quote m.description]]
  | referencePlanes, d => d.referencePlanes.map fun p => [quote p.name]
  | parameters, d => d.parameters.flatMap fun p => (parameterLiterals p).map ([·])
  | geometry, d => (d.roles.zip d.extrusions).flatMap extrusionInscriptions
  | constraints, d =>
    d.constraints.map fun c => [quote c.kind, quoteOptional c.first, quoteOptional c.second]
  | materials, d => d.materials.flatMap materialInscriptions
  | familyTypes, d => d.types.flatMap (familyTypeInscriptions d)
  | visibility, d => visibilityInscriptions (d.visibility.getD {})
  | imports, _ | validation, _ => []

/-- **What raises an alarm in a section** are its comments and inscriptions. -/
theorem tells_lines {low : Bool} {s : Section} {d : Design} {lines : List Text}
    (h : s.lines d = .ok lines) : Tells low lines (s.comments d) (s.inscriptions d) := by
  cases s with
  | imports => cases h; exact tells_importLines d
  | familySetup =>
    cases hmetadata : d.metadata with
    | none => simp [Section.lines, setup, hmetadata] at h
    | some m =>
      simp only [Section.lines, setup, hmetadata, Except.ok.injEq] at h
      rw [← h, inscriptions, hmetadata]
      exact tells_setupLines m
  | referencePlanes =>
    cases h
    rw [comments, inscriptions, List.map_eq_flatMap, List.map_eq_flatMap]
    refine tells_table (.of_loops ?_ ?_) (.flatMap tells_planeLines) <;>
      simp (disch := first | exact rfl | decide) [tableHead, blankLine]
  | parameters =>
    obtain ⟨entries, hentries, h⟩ := bind_eq_ok_iff.mp (mapError_eq_ok_iff.mp h)
    cases h
    rw [comments, inscriptions, List.map_eq_flatMap]
    refine tells_table (.of_loops ?_ ?_)
        (.of_mapM hentries fun p lines => tells_parameterEntryLines) <;>
      simp (disch := first | exact rfl | decide) [tableHead, blankLine]
  | geometry => cases h; exact tells_geometryLines d
  | constraints =>
    cases h
    have hblank : Tells low [blankLine] [] [] := .of_quiet (by simp)
    have hconstraints : Tells low (d.constraints.flatMap constraintEntryLines) _ _ :=
      .flatMap tells_constraintEntryLines
    have hentries := hconstraints.append hblank
    rw [← List.map_eq_flatMap, ← List.map_eq_flatMap, List.append_nil, List.append_nil] at hentries
    unfold constraintLines
    rw [List.append_assoc]
    refine tells_table (.of_quiet ?_) hentries
    simp (disch := first | exact rfl | decide) [constraintHead]
  | materials =>
    cases h
    rw [comments, inscriptions, List.map_eq_flatMap]
    refine tells_table (.of_loops ?_ ?_) (.flatMap tells_materialEntryLines) <;>
      simp (disch := first | exact rfl | decide) [tableHead, blankLine]
  | familyTypes =>
    obtain ⟨entries, hentries, h⟩ := bind_eq_ok_iff.mp (mapError_eq_ok_iff.mp h)
    cases h
    rw [comments, inscriptions, List.map_eq_flatMap]
    refine tells_table (.of_loops ?_ ?_)
        (.of_mapM hentries fun t lines => tells_familyTypeEntryLines) <;>
      simp (disch := first | exact rfl | decide) [tableHead, blankLine]
  | visibility => cases h; exact tells_visibilityLines d
  | validation => cases h; exact tells_validationLines

end Section

/-! ## Whole scripts -/

/-- Empty lines between groups of lines raise no alarm. Induction on the groups. -/
theorem any_rings_intercalate (low : Bool) (groups : List (List Text)) :
    ([blankLine].intercalate groups).any (rings low) = groups.any (·.any (rings low)) := by
  induction groups with
  | nil => rfl
  | cons first rest ih =>
    cases rest with
    | nil => simp
    | cons second rest =>
      rw [List.intercalate_cons_cons, List.any_append, List.any_append, ih, List.any_cons]
      simp

/-- **What is found in a script that is written**: its comments and inscriptions that are left. -/
theorem loops_code {d : Design} {now : Instant} {e : Emission}
    (hemit : emit Rule.standard d now = .ok e) : hasUnboundedLoop e.code = Section.all.any fun s =>
      (s.comments d).any (rings (isLowDetail d)) ||
        (s.inscriptions d).any (sounds (isLowDetail d)) := by
  obtain ⟨d', hgate, hwrite⟩ := bind_eq_ok_iff.mp hemit
  cases Design.eq_of_checkEmittable (mapError_eq_ok_iff.mp hgate)
  obtain ⟨hsections, hcode⟩ := sections_of_write hwrite
  obtain ⟨parts, hparts, hcombined⟩ := exists_scriptParts hsections
  obtain ⟨groups, hgroups, hjoined⟩ := bind_eq_ok_iff.mp hparts
  cases hjoined
  have htold : groups.map (fun parts => (parts.map (·.line)).any (rings (isLowDetail d)))
      = Section.all.map fun s => (s.comments d).any (rings (isLowDetail d)) ||
        (s.inscriptions d).any (sounds (isLowDetail d)) :=
    map_eq_of_mapM hgroups fun s parts hparts =>
      Section.tells_lines (Section.lines_of_parts hparts)
  have hany := congrArg (List.any · id) htold
  rw [List.any_map, List.any_map] at hany
  -- The rules take whole lines out, and a loop lies within one line.
  rw [hcode, hcombined, loops_optimize, map_line_intercalate, any_rings_intercalate, List.any_map]
  exact hany

/-- The issue of a loop without a bound. -/
def loopIssue : Text := "Performance anti-pattern detected: unbounded loop"

/-- The pass has no issue but that of a loop. -/
theorem issues_performance (d : Design) (deductions : Quality.Deductions) (code : Text) :
    (Quality.Pass.performance.run deductions d (some code)).issues
      = if hasUnboundedLoop code then [loopIssue] else [] := by
  -- All other checks only warn or note.
  have hdetail : (Quality.Performance.checkDetail d).Records [] := by
    unfold Quality.Performance.checkDetail
    split
    · exact ⟨rfl, rfl⟩
    · exact records_onlyIf_warning _ _ _
  have hcode : (Quality.Performance.checkCode code).Records _ :=
    records_all (.cons (records_detail _ _) (.cons (records_detail _ _)
      (.cons (records_onlyIf_warning _ _ _) (.cons (records_onlyIf_issue _ _ _) .nil))))
  have hpoints : (Quality.Performance.checkPoints d).Records _ :=
    (records_detail _ _).append (records_onlyIf_warning _ _ _)
  have hparameters : (Quality.Performance.checkParameters d).Records [] :=
    records_onlyIf_warning _ _ _
  have htold := ((hcode.append hpoints).append hparameters).append hdetail
  refine (htold.issues_verdict _ deductions).trans ?_
  simp [loopIssue]

/-- **What raises the alarm over a script.** The script of a design is taken to loop without a bound
just if a mark of such loops stands in a comment or a literal with a text of the design, and the
rules leave the line. The lines of the script themselves, among which the scan of the categories is
the only loop, never raise it; a design may. -/
theorem loop_issue_iff {d : Design} {now : Instant} {e : Emission}
    (hemit : emit Rule.standard d now = .ok e) (deductions : Quality.Deductions) :
    loopIssue ∈ (Quality.Pass.performance.run deductions d (some e.code)).issues
      ↔ ∃ s : Section, (∃ comment ∈ s.comments d, rings (isLowDetail d) comment = true) ∨
        ∃ literals ∈ s.inscriptions d, sounds (isLowDetail d) literals = true := by
  have hall : ∀ s : Section, s ∈ Section.all := by
    intro s
    cases s <;> decide
  have hrecorded : loopIssue ∈ (Quality.Pass.performance.run deductions d (some e.code)).issues
      ↔ hasUnboundedLoop e.code = true := by
    rw [issues_performance]
    split
    · next hloop => simp [hloop]
    · next hloop => simp [hloop]
  rw [hrecorded, loops_code hemit, List.any_eq_true]
  simp only [hall, true_and, Bool.or_eq_true, List.any_eq_true]

/-- A door that has been there for a while. -/
def standingDoor : Design where
  metadata := some
    { familyName := "Door", category := "Doors", description := "Door for a while now",
      lod := some 300 }
  geometry := some {}
  parameterSet := some {}

/-- Its script is written and is taken to loop, for its description. -/
theorem loop_issue_iff_standingDoor : ∃ e, emit Rule.standard standingDoor default = .ok e ∧
    loopIssue ∈ (Quality.Pass.performance.run Quality.Deductions.standard standingDoor
      (some e.code)).issues := by
  obtain ⟨e, he⟩ : ∃ e, write Rule.standard standingDoor default = .ok e :=
    (exists_write_iff rfl).mpr ⟨nofun, nofun⟩
  have hemit : emit Rule.standard standingDoor default = .ok e := by
    rw [emit_of_checkEmittable rfl, he]
  have hsounds : sounds (isLowDetail standingDoor) [quote "Door for a while now"] = true := by
    decide +kernel
  exact ⟨e, hemit, (loop_issue_iff hemit _).mpr
    ⟨.familySetup, .inr ⟨_, .tail _ (.tail _ (.head _)), hsounds⟩⟩⟩

end FamilyDesign.Script
