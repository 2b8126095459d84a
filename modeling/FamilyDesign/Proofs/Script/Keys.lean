import FamilyDesign.Proofs.Script.Shortening
import FamilyDesign.Proofs.Script.Table
import FamilyDesign.Quality.Gateway

/-!
# Keys that a script reads

The parameters of a design and those of its materials are assigned in the table of a script before
its family types read from it, whatever else stands in the script, and at a low level of detail an
entry is dropped only together with the lines that read it. But a family type may bind any name, and
the script reads its entry though nothing may have assigned it.

* **`Section.accesses`** — what each section does to the table, line by line.
* **`findsKeys_iff`** — a script finds the keys that it reads just if each name that is bound is the
  one of a parameter or of the parameter of a material.
-/

namespace FamilyDesign.Script

open Text (totalBreaks)

/-! ## Lines of a script -/

/-- What a line of a script does to the table, where `low` tells that the rules apply: a line that
they drop does nothing. -/
def accessesIn (low : Bool) (line : Text) : List Access :=
  if low && isDropped line then [] else (access? line.toList).toList

section Lines

variable {low : Bool}

theorem accessesIn_of_none {line : Text} (h : access? line.toList = none) :
    accessesIn low line = [] := by
  unfold accessesIn
  rw [h, Option.toList_none, ite_self]

@[simp] theorem accessesIn_empty : accessesIn low (Text.ofString "") = [] := accessesIn_of_none rfl

@[simp] theorem accessesIn_blankLine : accessesIn low blankLine = [] := accessesIn_empty

section

variable {s : String} {cs : List Char} (hs : s = String.ofList cs) (t : Text)
include hs

@[simp] theorem accessesIn_code
    (h : beginsElsewhere ((cs.map .char).dropWhile isIndentation) = true) :
    accessesIn low (Text.ofString s ++ t) = [] :=
  accessesIn_of_none (access?_code hs t h)

@[simp] theorem accessesIn_literal
    (h : beginsElsewhere ((cs.map .char).dropWhile isIndentation) = true) :
    accessesIn low (Text.ofString s) = [] := by
  refine accessesIn_of_none ?_
  have hcode := access?_code hs (.ofList []) h
  rwa [Text.toList_append, List.append_nil] at hcode

end

@[simp] theorem accessesIn_word (role : Role) (t : Text) :
    accessesIn low (role.word ++ t) = [] := by
  cases role <;> exact accessesIn_code rfl t (by decide)

@[simp] theorem accessesIn_quote_append (s t : Text) : accessesIn low (quote s ++ t) = [] :=
  accessesIn_of_none (access?_of_beginsElsewhere [.char '"'] rfl (by decide))

/-- An indented line does what the line does. -/
theorem accessesIn_indented (line : Text) :
    accessesIn low ("    " ++ line) = accessesIn low line := by
  have haccess : access? ("    " ++ line).toList = access? line.toList := rfl
  unfold accessesIn isDropped
  rw [isComment_indented, mentions_indented, haccess]

theorem flatMap_indent (lines : List Text) :
    (indent lines).flatMap (accessesIn low) = lines.flatMap (accessesIn low) := by
  rw [List.flatMap_def, map_indent accessesIn_indented, ← List.flatMap_def]

/-! ## Lines that touch the table -/

/-- What a line does that opens with code, if the rules leave it. -/
theorem accessesIn_of_code (low : Bool) {line : Text} {access : Access}
    (hcode : comments? line = some false)
    (h : access? line.toList = some access) :
    accessesIn low line = if low && mentions line then [] else [access] := by
  unfold accessesIn isDropped
  rw [isComment_eq, hcode, h]
  rfl

/-- Entries of names that are assigned, where `low` tells that the rules apply: they drop the lines
in which the literal of a name mentions a variable. -/
def assignments (low : Bool) (names : List Text) : List Access :=
  (names.filter fun name => !(low && mentions (quote name))).map fun name => .assigns (keyOf name)

theorem assignments_append (names names' : List Text) :
    assignments low (names ++ names') = assignments low names ++ assignments low names' := by
  unfold assignments
  rw [List.filter_append, List.map_append]

theorem flatMap_assignments {α : Type} (items : List α) (f : α → Text) :
    items.flatMap (fun x => assignments low [f x]) = assignments low (items.map f) := by
  unfold assignments
  rw [List.map_eq_flatMap (l := items), List.filter_flatMap, List.map_flatMap]

/-- A line that opens a bracket of the table assigns the key in it, unless it is dropped. -/
theorem accessesIn_assigns (low : Bool) {s : String} {cs : List Char} (hs : s = String.ofList cs)
    (name t : Text)
    (hcode : (cs.map CodePoint.char).dropWhile isIndentation = tableName ++ [.char '['])
    (h : mentions (Text.ofString s ++ (quote name ++ t)) = mentions (quote name)) :
    accessesIn low (Text.ofString s ++ (quote name ++ t)) = assignments low [name] := by
  have hcomment : comments? (Text.ofString s ++ (quote name ++ t)) = some false := by
    rw [comments?_append, comments?_literal hs, hcode]
    rfl
  rw [accessesIn_of_code low hcomment (access?_assigns hs t name hcode), h]
  unfold assignments
  rw [List.filter_singleton]
  cases low && mentions (quote name) <;> rfl

end Lines

/-! ## Entries that touch the table -/

section Entries

variable {low : Bool}

/-- A parameter is assigned under its name, once. -/
theorem flatMap_parameterEntryLines {p : Parameter} {lines : List Text}
    (h : parameterEntryLines p = .ok lines) :
    lines.flatMap (accessesIn low) = assignments low [p.name] := by
  obtain ⟨setDefault, hdefault, h⟩ := bind_eq_ok_iff.mp h
  have hset : setDefault.flatMap (accessesIn low) = [] := by
    unfold defaultLines at hdefault
    split at hdefault
    · cases hdefault
      rfl
    · split at hdefault
      · cases hdefault
        rfl
      · obtain ⟨written, -, hnone⟩ := bind_eq_ok_iff.mp hdefault
        cases hnone
        simp (disch := first | exact rfl | decide) [append_assoc]
  have hformula : (formulaLines p).flatMap (accessesIn low) = [] := by
    unfold formulaLines
    split
    · simp (disch := first | exact rfl | decide) [append_assoc]
    · rfl
  -- The one line with a bracket behind the table is the one that records the parameter.
  have hrecorded := accessesIn_assigns low (s := "created_parameters[") rfl p.name
    "] = param" rfl (by simp (disch := first | exact rfl | decide))
  cases h
  rw [← hrecorded]
  simp (disch := first | exact rfl | decide) only [List.flatMap_append, List.flatMap_cons,
    List.flatMap_nil, accessesIn_code, accessesIn_blankLine, hset, hformula, append_assoc,
    List.nil_append, List.append_nil]

theorem flatMap_materialEntryLines (m : MaterialSlot) :
    (materialEntryLines m).flatMap (accessesIn low) = assignments low [materialParameterOf m] := by
  have hassigned := accessesIn_assigns low (s := "    created_parameters[") rfl
    (materialParameterOf m) ("] = family_manager.AddParameter(" ++ (quote (materialParameterOf m)
      ++ ", GroupTypeId.Materials, SpecTypeId.Reference.Material, True)")) rfl
    (by simp (disch := first | exact rfl | decide))
  rw [← hassigned]
  unfold materialEntryLines
  simp (disch := first | exact rfl | decide) only [List.flatMap_cons, List.flatMap_nil,
    accessesIn_code, accessesIn_empty, append_assoc, List.nil_append, List.append_nil]

/-- Whether the value that a family type binds to a name is written, and left where the rules
apply. -/
def isBound (d : Design) (b : Text × Json) : Bool :=
  boundTypeOf d b.1 != "Material" && !(isLowDetail d && (bindingLiterals d b).any mentions)

/-- A binding reads its key, unless it is left out or dropped. -/
theorem flatMap_bindingLines {d : Design} {b : Text × Json} {lines : List Text}
    (h : bindingLines d b.1 b.2 = .ok lines) :
    lines.flatMap (accessesIn (isLowDetail d))
      = ([b].filter (isBound d)).map fun b => .reads (keyOf b.1) := by
  unfold bindingLines at h
  dsimp only at h
  rw [List.filter_singleton]
  split at h
  · -- Materials are never bound.
    next hmaterial =>
    have hbound : isBound d b = false := by
      unfold isBound
      rw [hmaterial, bne_self_eq_false, Bool.false_and]
    cases h
    rw [hbound]
    rfl
  · next hmaterial =>
    obtain ⟨written, hwritten, hnone⟩ := bind_eq_ok_iff.mp h
    cases hnone
    have hbound : isBound d b
        = !(isLowDetail d && (mentions (quote b.1) || mentions written)) := by
      unfold isBound bindingLiterals
      rw [if_neg hmaterial, hwritten, bne_iff_ne.mpr hmaterial, Bool.true_and]
      simp [Except.toOption]
    have hmentions : mentions ("family_manager.Set(created_parameters["
        ++ (quote b.1 ++ ("], " ++ (written ++ ")"))))
        = (mentions (quote b.1) || mentions written) := by
      simp (disch := first | exact rfl | decide)
    have hcomment : comments? ("family_manager.Set(created_parameters["
        ++ (quote b.1 ++ ("], " ++ (written ++ ")")))) = some false := by
      rw [comments?_append, comments?_literal rfl]
      rfl
    have hread := accessesIn_of_code (isLowDetail d) hcomment (access?_reads rfl _ b.1 rfl)
    rw [hbound, List.flatMap_singleton, append_assoc, append_assoc, append_assoc, hread, hmentions]
    cases isLowDetail d && (mentions (quote b.1) || mentions written) <;> rfl

/-- Entries that are written one by one, each with what it does to the table. -/
theorem flatMap_flatten_of_mapM {α ε : Type} {f : α → Except ε (List Text)} {items : List α}
    {entries : List (List Text)} (h : items.mapM f = .ok entries) {accesses : α → List Access}
    (hf : ∀ x lines, f x = .ok lines → lines.flatMap (accessesIn low) = accesses x) :
    entries.flatten.flatMap (accessesIn low) = items.flatMap accesses := by
  have hmap := map_eq_of_mapM h hf
  rw [← List.flatMap_id, List.flatMap_assoc]
  simp only [id]
  rw [List.flatMap_def, hmap, ← List.flatMap_def]

/-- A family type reads the keys of its bindings. -/
theorem flatMap_familyTypeEntryLines {d : Design} {t : FamilyType} {lines : List Text}
    (h : familyTypeEntryLines d t = .ok lines) :
    lines.flatMap (accessesIn (isLowDetail d))
      = (t.bindings.filter (isBound d)).map fun b => .reads (keyOf b.1) := by
  obtain ⟨bindings, hbindings, h⟩ := bind_eq_ok_iff.mp h
  have hreads := flatMap_flatten_of_mapM hbindings fun b lines => flatMap_bindingLines (b := b)
  rw [← List.map_flatMap, ← List.filter_flatMap, List.flatMap_singleton'] at hreads
  cases h
  rw [← hreads]
  simp (disch := first | exact rfl | decide) only [List.flatMap_append, List.flatMap_cons,
    List.flatMap_nil, accessesIn_code, accessesIn_blankLine, append_assoc, List.nil_append,
    List.append_nil]

end Entries

/-! ## Whole sections -/

namespace Section

/-- What a section does to the table. -/
def accesses : Section → Design → List Access
  | parameters, d => .clears :: assignments (isLowDetail d) (d.parameters.map (·.name))
  | materials, d => assignments (isLowDetail d) (d.materials.map materialParameterOf)
  | familyTypes, d =>
    d.types.flatMap fun t => (t.bindings.filter (isBound d)).map fun b => .reads (keyOf b.1)
  | _, _ => []

section

variable {low : Bool}

/-- The head of a script touches no table. -/
theorem flatMap_importLines (d : Design) : (importLines d).flatMap (accessesIn low) = [] := by
  have hcategory : (categoryImport d.category).flatMap (accessesIn low) = [] := by
    unfold categoryImport
    split
    · simp (disch := first | exact rfl | decide)
    · split
      · simp (disch := first | exact rfl | decide)
      · rfl
  simp (disch := first | exact rfl | decide) [importLines, standardImports, hcategory]

theorem flatMap_setupLines (m : Metadata) : (setupLines m).flatMap (accessesIn low) = [] := by
  simp (disch := first | exact rfl | decide) [setupLines]

theorem flatMap_referencePlaneLines (d : Design) :
    (referencePlaneLines d).flatMap (accessesIn low) = [] := by
  have hplane : ∀ p : ReferencePlane, (planeLines p).flatMap (accessesIn low) = [] := by
    intro p
    simp (disch := first | exact rfl | decide) [planeLines, append_assoc]
  unfold referencePlaneLines
  rw [flatMap_indent, List.flatMap_append, List.flatMap_assoc]
  simp (disch := first | exact rfl | decide) [tableHead, hplane]

theorem flatMap_geometryLines (d : Design) :
    (geometryLines d).flatMap (accessesIn low) = [] := by
  have htables : (materialTableLines d.roles).flatMap (accessesIn low) = [] := by
    unfold materialTableLines
    rw [List.flatMap_map]
    simp
  -- All lines of an extrusion begin with its role, or with a call.
  have hextrusion : ∀ x : Role × Extrusion,
      (extrusionLines x.1 x.2).flatMap (accessesIn low) = [] := by
    intro x
    have hsides : ((sides x.2.profile).map (sideLine x.1.word)).flatMap (accessesIn low) = [] := by
      rw [List.flatMap_map]
      simp [sideLine, append_assoc]
    have hmaterial : (materialLines x.1.word x.2).flatMap (accessesIn low) = [] := by
      unfold materialLines
      split
      · simp [append_assoc]
      · rfl
    unfold extrusionLines
    simp (disch := first | exact rfl | decide) [hsides, hmaterial, append_assoc]
  unfold geometryLines
  rw [flatMap_indent, List.flatMap_append, List.flatMap_assoc]
  simp (disch := first | exact rfl | decide) [geometryHead, htables, hextrusion]

theorem flatMap_constraintLines (d : Design) :
    (constraintLines d).flatMap (accessesIn low) = [] := by
  have hentry : ∀ c : Constraint, (constraintEntryLines c).flatMap (accessesIn low) = [] := by
    intro c
    simp (disch := first | exact rfl | decide) [constraintEntryLines, append_assoc]
  unfold constraintLines
  rw [flatMap_indent, List.flatMap_append, List.flatMap_append, List.flatMap_assoc]
  simp (disch := first | exact rfl | decide) [constraintHead, hentry]

theorem flatMap_visibilityLines (d : Design) :
    (visibilityLines d).flatMap (accessesIn low) = [] := by
  have hentry : ∀ level names, accessesIn low (visibilityEntry level names) = [] := by
    intro level names
    unfold visibilityEntry
    rw [append_assoc, append_assoc, append_assoc, accessesIn_indented, accessesIn_quote_append]
  unfold visibilityLines
  rw [flatMap_indent]
  simp (disch := first | exact rfl | decide) [hentry]

theorem flatMap_validationLines : validationLines.flatMap (accessesIn low) = [] := by
  simp (disch := first | exact rfl | decide) [validationLines]

end

/-- The lines of a section do to the table what the section does. -/
theorem flatMap_lines {s : Section} {d : Design} {lines : List Text} (h : s.lines d = .ok lines) :
    lines.flatMap (accessesIn (isLowDetail d)) = s.accesses d := by
  cases s with
  | imports => cases h; exact flatMap_importLines d
  | familySetup =>
    unfold Section.lines setup at h
    dsimp only at h
    split at h
    · cases h
      exact flatMap_setupLines _
    · cases h
  | referencePlanes => cases h; exact flatMap_referencePlaneLines d
  | parameters =>
    obtain ⟨entries, hentries, h⟩ := bind_eq_ok_iff.mp (mapError_eq_ok_iff.mp h)
    -- The head of the table clears it, and no rule drops that line.
    have hclears : accessesIn (isLowDetail d) ("created_parameters" ++ " = \x7b\x7d")
        = [.clears] := by
      cases isLowDetail d <;> decide +kernel
    cases h
    rw [flatMap_indent, List.flatMap_append,
      flatMap_flatten_of_mapM hentries fun p lines => flatMap_parameterEntryLines,
      flatMap_assignments]
    simp (disch := first | exact rfl | decide) [tableHead, hclears, accesses]
  | geometry => cases h; exact flatMap_geometryLines d
  | constraints => cases h; exact flatMap_constraintLines d
  | materials =>
    cases h
    unfold materialSectionLines
    rw [flatMap_indent, List.flatMap_append, List.flatMap_assoc]
    simp (disch := first | exact rfl | decide) [tableHead, flatMap_materialEntryLines,
      flatMap_assignments, accesses]
  | familyTypes =>
    obtain ⟨entries, hentries, h⟩ := bind_eq_ok_iff.mp (mapError_eq_ok_iff.mp h)
    cases h
    rw [flatMap_indent, List.flatMap_append,
      flatMap_flatten_of_mapM hentries fun t lines => flatMap_familyTypeEntryLines]
    simp (disch := first | exact rfl | decide) [tableHead, accesses]
  | visibility => cases h; exact flatMap_visibilityLines d
  | validation => cases h; exact flatMap_validationLines

end Section

/-! ## Whole scripts -/

/-- What the lines of a script do to the table, in their order. -/
def accesses (code : Text) : List Access :=
  (Text.pieces (.char '\n') code.toList).filterMap access?

/-- Whether a script runs without asking the table for a key that it has no entry of. -/
def FindsKeys (code : Text) : Prop := ∃ table, runAccesses none (accesses code) = .ok table

/-- Of unbroken lines the accesses are those of each that is not dropped. -/
theorem accesses_unlines {lines : List Text} (h : Unbroken lines) (low : Bool) :
    accesses (unlines (lines.filter fun line => !(low && isDropped line)))
      = lines.flatMap (accessesIn low) := by
  have hline : ∀ line, accessesIn low line
      = (if !(low && isDropped line) then access? line.toList else none).toList := by
    intro line
    unfold accessesIn
    cases low && isDropped line <;> rfl
  have hlast : [[]].filterMap access? = [] := rfl
  unfold accesses
  rw [pieces_unlines (h.filter _), List.filterMap_append, List.filterMap_map, List.filterMap_filter,
    hlast, List.append_nil, List.filterMap_eq_flatMap_toList]
  exact List.flatMap_congr fun line _ => (hline line).symm

/-- What stands between groups does nothing. Induction on the groups. -/
theorem flatMap_intercalate {low : Bool} (groups : List (List Text)) :
    ([blankLine].intercalate groups).flatMap (accessesIn low)
      = groups.flatMap (·.flatMap (accessesIn low)) := by
  induction groups with
  | nil => rfl
  | cons first rest ih =>
    cases rest with
    | nil => simp
    | cons second rest =>
      rw [List.intercalate_cons_cons, List.flatMap_append, List.flatMap_append, ih,
        List.flatMap_singleton, accessesIn_blankLine, List.append_nil]
      rfl

/-- What a script does to the table is what its sections do. -/
theorem accesses_code {d : Design} {now : Instant} {e : Emission}
    (hemit : emit Rule.standard d now = .ok e)
    (hcommented : ∀ s : Section, totalBreaks (s.commented d) = 0) :
    accesses e.code = Section.all.flatMap (·.accesses d) := by
  obtain ⟨d', hgate, hwrite⟩ := bind_eq_ok_iff.mp hemit
  cases Design.eq_of_checkEmittable (mapError_eq_ok_iff.mp hgate)
  obtain ⟨hsections, hcode⟩ := sections_of_write hwrite
  obtain ⟨parts, hparts, hcombined⟩ := exists_scriptParts hsections
  have hunbroken := unbroken_scriptParts hparts hcommented
  obtain ⟨groups, hgroups, hparts⟩ := bind_eq_ok_iff.mp hparts
  cases hparts
  have hlines := map_eq_of_mapM hgroups fun s parts hparts =>
    Section.flatMap_lines (Section.lines_of_parts hparts)
  rw [hcode, hcombined, optimize_eq_unlines hunbroken, accesses_unlines hunbroken,
    map_line_intercalate, flatMap_intercalate, List.flatMap_map, List.flatMap_def, hlines,
    ← List.flatMap_def]

/-- The names under which a script makes entries. -/
def tableNames (d : Design) : List Text :=
  d.parameters.map (·.name) ++ d.materials.map materialParameterOf

/-- The keys that the lines for the names assign. -/
theorem assignments_eq (low : Bool) (names : List Text) : assignments low names
    = ((names.filter fun name => !(low && mentions (quote name))).map keyOf).map .assigns := by
  unfold assignments
  rw [List.map_map]
  rfl

/-- The keys that a script reads, in the order of its lines. -/
def readKeys (d : Design) : List Text :=
  d.types.flatMap fun t => (t.bindings.filter (isBound d)).map fun b => keyOf b.1

/-- Entries are assigned ahead of those that are read. -/
theorem flatMap_accesses (d : Design) : Section.all.flatMap (·.accesses d)
    = .clears :: (assignments (isLowDetail d) (tableNames d) ++ (readKeys d).map .reads) := by
  have hreads : (readKeys d).map Access.reads = Section.familyTypes.accesses d := by
    unfold readKeys Section.accesses
    rw [List.map_flatMap]
    simp only [List.map_map, Function.comp_def]
  rw [hreads]
  unfold tableNames
  rw [assignments_append, List.append_assoc]
  simp [Section.all, Section.accesses]

/-- The keys that are read are those of the bindings that are written. -/
theorem forall_mem_readKeys_iff {d : Design} {P : Text → Prop} : (∀ key ∈ readKeys d, P key) ↔
    ∀ t ∈ d.types, ∀ b ∈ t.bindings, isBound d b = true → P (keyOf b.1) := by
  unfold readKeys
  simp only [List.forall_mem_flatMap, List.forall_mem_map, List.mem_filter, and_imp]

/-- The lines that assign an entry are not dropped where one that reads it is left: they hold the
same literal. -/
theorem not_dropped_of_isBound {d : Design} {b : Text × Json} (h : isBound d b = true) {name : Text}
    (hkey : keyOf name = keyOf b.1) :
    (!(isLowDetail d && mentions (quote name))) = true := by
  have hquote : quote name = quote b.1 := by
    rw [← quote_keyOf name, hkey, quote_keyOf]
  unfold isBound bindingLiterals at h
  rw [Bool.and_eq_true, bne_iff_ne] at h
  obtain ⟨hmaterial, hleft⟩ := h
  rw [if_neg hmaterial, List.any_cons] at hleft
  rw [hquote]
  revert hleft
  cases isLowDetail d <;> cases mentions (quote b.1) <;> simp

/-- **When a script finds its keys.** A script is written of a design whose comments hold no
newline. It runs without asking its table for a key that is not there just if each name to which a
family type binds a value, in a line of the script, is the name of a parameter or of the parameter
of a material. A family type may bind other names too; the script then ends in an error. -/
theorem findsKeys_iff {d : Design} {now : Instant} {e : Emission}
    (hemit : emit Rule.standard d now = .ok e)
    (hcommented : ∀ s : Section, totalBreaks (s.commented d) = 0) :
    FindsKeys e.code ↔
      ∀ t ∈ d.types, ∀ b ∈ t.bindings, isBound d b = true →
        ∃ name ∈ tableNames d, keyOf name = keyOf b.1 := by
  unfold FindsKeys
  rw [accesses_code hemit hcommented, flatMap_accesses, runAccesses_clears, assignments_eq,
    runAccesses_assigns, runAccesses_reads_iff, forall_mem_readKeys_iff, List.append_nil]
  refine forall₂_congr fun t _ => forall₂_congr fun b _ => imp_congr_right fun hbound => ?_
  rw [List.mem_reverse, List.mem_map]
  refine exists_congr fun name => and_congr_left fun hkey => ?_
  rw [List.mem_filter, and_iff_left (not_dropped_of_isBound hbound hkey)]

/-- A door whose type binds a value to a name that nothing declares. -/
def hauntedDoor : Design where
  metadata := some {
    familyName := "Door", category := "Doors", description := "A door", lod := some 300 }
  geometry := some {
    extrusions := [{
      name := "Panel"
      profile := [{ x := 0, y := 0 }, { x := 3, y := 0 }, { x := 3, y := 1 }]
      stop := { x := 0, y := 0, z := 7 } }] }
  parameterSet := some {
    family := [{ name := "Width", default := .real 3 }]
    types := [{ name := "Standard", bindings := [("Width", .real 3), ("Ghost", .int 1)] }] }

/-- It is ready and its script is written, and the script asks for a key that is not there. -/
theorem findsKeys_iff_hauntedDoor :
    Quality.areReady (({} : Quality.Gateway).verdicts hauntedDoor none) = true ∧
    ∃ e, emit Rule.standard hauntedDoor default = .ok e ∧ ¬FindsKeys e.code := by
  have hready : Quality.areReady (({} : Quality.Gateway).verdicts hauntedDoor none) = true := by
    decide +kernel
  have hdefaults : ∀ p ∈ hauntedDoor.parameters, ValueType.ofName? p.type ≠ some .integer := by
    decide +kernel
  have hbindings : ∀ t ∈ hauntedDoor.types, ∀ b ∈ t.bindings,
      ValueType.ofName? (boundTypeOf hauntedDoor b.1) ≠ some .integer := by
    decide +kernel
  have hbounded : Bounded hauntedDoor :=
    ⟨fun p hp hrange => hdefaults p hp hrange.1,
      fun t ht b hb hrange => hbindings t ht b hb hrange.1⟩
  obtain ⟨e, he⟩ : ∃ e, write Rule.standard hauntedDoor default = .ok e :=
    (exists_write_iff rfl).mpr hbounded
  have hemit : emit Rule.standard hauntedDoor default = .ok e := by
    rw [emit_of_checkEmittable rfl, he]
  have hcommented : ∀ s : Section, totalBreaks (s.commented hauntedDoor) = 0 := by
    intro s
    cases s <;> decide +kernel
  refine ⟨hready, e, hemit, fun hfinds => ?_⟩
  obtain ⟨name, hname, hkey⟩ := (findsKeys_iff hemit hcommented).mp hfinds _ (.head _)
    ("Ghost", .int 1) (.tail _ (.head _)) (by decide +kernel)
  -- No parameter of the design has that name, so nothing assigns the key.
  have hnone : ∀ name ∈ tableNames hauntedDoor, keyOf name ≠ keyOf "Ghost" := by
    decide +kernel
  exact hnone name hname hkey

end FamilyDesign.Script
