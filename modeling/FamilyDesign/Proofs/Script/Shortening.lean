import FamilyDesign.Proofs.Design.Structure
import FamilyDesign.Proofs.Script.Mistaken
import FamilyDesign.Proofs.Script.Refusal
import FamilyDesign.Proofs.Text.Pattern
import FamilyDesign.Quality.Parameters

/-!
# What a shorter script loses

At a low level of detail a script is to lose its comments and what builds details and voids, and
nothing else. The rules drop whole lines, and tell the lines of a detail or a void by the variables
in them. So they drop what they should unless a text of the design reads like such a variable.

* **`optimize_unlines`** — the rules drop lines, and drop the same ones in any order.
* **`losesOnlySecondary_iff`** — the script loses what it should just if no literal of it, details
  and voids left out, mentions a variable of theirs.
-/

namespace FamilyDesign.Script

open Text (newlineLines joinWith totalBreaks)

/-! ## Whole lines -/

/-- Lines, each with the newline that ends it. -/
def unlines (lines : List Text) : Text :=
  Text.ofList (lines.flatMap fun line => line.toList ++ [.char '\n'])

theorem unlines_cons (line : Text) (lines : List Text) :
    unlines (line :: lines) = line ++ "\n" ++ unlines lines := rfl

/-- Lines one after another are joined one after another. -/
theorem unlines_append (lines lines' : List Text) :
    unlines (lines ++ lines') = unlines lines ++ unlines lines' := by
  show Text.ofList _ = Text.ofList _
  rw [List.flatMap_append]
  rfl

theorem joinWith_singleton (separator line : Text) : joinWith separator [line] = line := by
  unfold joinWith
  rw [List.map_singleton, List.intercalate_singleton]

/-- Lines that are joined by newlines, with one at the end. Induction on the lines. -/
theorem unlines_joinWith {lines : List Text} (h : lines ≠ []) :
    joinWith "\n" lines ++ "\n" = unlines lines := by
  induction lines with
  | nil => exact absurd rfl h
  | cons first rest ih =>
    cases rest with
    | nil =>
      rw [joinWith_singleton, unlines_cons]
      exact congrArg Text.ofList (List.append_nil _).symm
    | cons second rest =>
      rw [Text.joinWith_cons_cons, append_assoc, ih (List.cons_ne_nil _ _)]
      rfl

/-- Groups of lines that are joined by empty lines. Induction on the groups. -/
theorem unlines_intercalate {groups : List (List Text)} (h : groups ≠ [])
    (hgroups : ∀ lines ∈ groups, lines ≠ []) :
    joinWith "\n\n" (groups.map (joinWith "\n")) ++ "\n"
      = unlines ([blankLine].intercalate groups) := by
  induction groups with
  | nil => exact absurd rfl h
  | cons first rest ih =>
    rw [List.forall_mem_cons] at hgroups
    cases rest with
    | nil =>
      rw [List.map_singleton, joinWith_singleton, List.intercalate_singleton]
      exact unlines_joinWith hgroups.1
    | cons second rest =>
      have hrest := ih (List.cons_ne_nil _ _) hgroups.2
      have hseparator : ("\n\n" : Text) = "\n" ++ unlines [blankLine] := rfl
      rw [List.map_cons, List.map_cons, Text.joinWith_cons_cons, ← List.map_cons,
        List.intercalate_cons_cons, unlines_append, unlines_append, ← hrest,
        ← unlines_joinWith hgroups.1, hseparator]
      simp only [append_assoc]

/-- Lines without a newline. -/
def Unbroken (lines : List Text) : Prop := ∀ line ∈ lines, CodePoint.char '\n' ∉ line.toList

/-- Lines without breaks are unbroken. -/
theorem unbroken_of_totalBreaks {lines : List Text} (h : totalBreaks lines = 0) :
    Unbroken lines := by
  induction lines with
  | nil => exact List.forall_mem_nil _
  | cons line rest ih =>
    rw [Text.totalBreaks_cons, Nat.add_eq_zero_iff] at h
    exact List.forall_mem_cons.mpr ⟨Text.breaks_eq_zero_iff.mp h.1, ih h.2⟩

theorem newlineLines_append_newline {line : List CodePoint} (h : CodePoint.char '\n' ∉ line)
    (rest : List CodePoint) :
    newlineLines (line ++ .char '\n' :: rest) = (line ++ [.char '\n']) :: newlineLines rest :=
  Text.newlineLines_append h (Text.Pattern.endsLine_newline rest) (by simp)

/-- Whole lines are found again. Induction on the lines. -/
theorem newlineLines_unlines {lines : List Text} (h : Unbroken lines) :
    newlineLines (unlines lines).toList = lines.map (·.toList ++ [.char '\n']) := by
  induction lines with
  | nil => rfl
  | cons line rest ih =>
    obtain ⟨hline, hrest⟩ := List.forall_mem_cons.mp h
    have hfirst := newlineLines_append_newline hline (unlines rest).toList
    rw [ih hrest] at hfirst
    rw [List.map_cons, ← hfirst]
    exact congrArg newlineLines (List.append_assoc line.toList [.char '\n'] _)

/-- A piece ends at the mark. -/
theorem pieces_append_mark {mark : CodePoint} {line : List CodePoint} (h : mark ∉ line)
    (rest : List CodePoint) :
    Text.pieces mark (line ++ mark :: rest) = line :: Text.pieces mark rest := by
  induction line with
  | nil => simp [Text.pieces]
  | cons c line ih =>
    rw [List.mem_cons, not_or] at h
    rw [List.cons_append, Text.pieces, if_neg (Ne.symm h.1), ih h.2]

/-- Without their newlines they are too, and an empty one behind the last. -/
theorem pieces_unlines {lines : List Text} (h : Unbroken lines) :
    Text.pieces (.char '\n') (unlines lines).toList = lines.map (·.toList) ++ [[]] := by
  induction lines with
  | nil => rfl
  | cons line rest ih =>
    obtain ⟨hline, hrest⟩ := List.forall_mem_cons.mp h
    have hfirst := pieces_append_mark hline (unlines rest).toList
    rw [ih hrest] at hfirst
    rw [List.map_cons, List.cons_append, ← hfirst]
    exact congrArg (Text.pieces (.char '\n')) (List.append_assoc line.toList [.char '\n'] _)

/-- Unbroken lines can be told from their text. -/
theorem unlines_injective {lines lines' : List Text} (h : Unbroken lines) (h' : Unbroken lines')
    (heq : unlines lines = unlines lines') : lines = lines' := by
  have hfound := newlineLines_unlines h
  rw [heq, newlineLines_unlines h'] at hfound
  refine (List.map_injective_iff.mpr ?_ hfound).symm
  intro line line' hline
  cases line
  cases line'
  exact congrArg Text.ofList (List.append_cancel_right hline)

/-! ## Rules and whole lines -/

/-- The newline at the end of a line does not matter to a rule. -/
theorem drops_newline (rule : Rule) (line : List CodePoint) :
    rule.drops (line ++ [.char '\n']) = rule.drops line := by
  have hmark : Text.isWordChar '\n' = false := by
    decide +kernel
  have hrole : ∀ role : Role, buildsRole role (line ++ [.char '\n']) = buildsRole role line := by
    intro role
    exact (hasWord_append (areVariables_roleVariables role) hmark false line []).trans
      (Bool.or_false _)
  cases rule with
  | stripComments =>
    have hcomment := comments?_append (Text.ofList line) "\n"
    have hend : comments? "\n" = some false := rfl
    rw [hend] at hcomment
    show isComment (Text.ofList line ++ ("\n" : Text)).toList = isComment (Text.ofList line).toList
    rw [isComment_eq, isComment_eq, hcomment]
    cases comments? (Text.ofList line) <;> rfl
  | simplifiedGeometry => exact hrole .detail
  | minimizeVoids => exact hrole .void

/-- On unbroken lines a rule filters lines. -/
theorem keep_unlines (rule : Rule) {lines : List Text} (h : Unbroken lines) :
    rule.keep (unlines lines).toList = (unlines (lines.filter (!rule.drops ·.toList))).toList := by
  unfold Rule.keep
  rw [newlineLines_unlines h, List.filter_map, ← List.flatMap_def]
  simp only [Function.comp_def, drops_newline]
  rfl

theorem Unbroken.filter {lines : List Text} (h : Unbroken lines) (p : Text → Bool) :
    Unbroken (lines.filter p) :=
  fun line hline => h line (List.mem_of_mem_filter hline)

/-- **Rules drop lines.** Whatever the rules are, the lines that none of them drops are left.
Induction on the rules. -/
theorem foldl_applyRule (rules : List Rule) {lines : List Text} (h : Unbroken lines)
    (applied : List Text) :
    (rules.foldl (applyRule true) ((unlines lines).toList, applied)).1
      = (unlines (lines.filter fun line => !rules.any (·.drops line.toList))).toList := by
  induction rules generalizing lines applied with
  | nil => simp
  | cons rule rest ih =>
    obtain ⟨applied', hrule⟩ : ∃ applied', applyRule true ((unlines lines).toList, applied) rule
        = ((unlines (lines.filter (!rule.drops ·.toList))).toList, applied') := by
      unfold applyRule
      dsimp only
      rw [if_pos rfl, keep_unlines rule h]
      split
      · next hsame => exact ⟨_, congrArg (·, _) hsame.symm⟩
      · exact ⟨_, rfl⟩
    rw [List.foldl_cons, hrule, ih (h.filter _), List.filter_filter]
    simp [Bool.and_comm]

/-- Whether a rule drops a line. -/
def isDropped (line : Text) : Bool := isComment line.toList || mentions line

/-- On unbroken lines all rules together drop the lines that one of them drops. -/
theorem optimize_unlines {d : Design} (hlow : isLowDetail d = true) {lines : List Text}
    (h : Unbroken lines) :
    (optimize Rule.standard d (unlines lines)).1 = unlines (lines.filter (!isDropped ·)) := by
  have hdropped : ∀ line : Text, Rule.standard.any (·.drops line.toList) = isDropped line := by
    intro line
    simp [Rule.standard, Rule.drops, isDropped, mentions]
  unfold optimize
  rw [hlow]
  simp only [foldl_applyRule _ h, hdropped]

/-- Where the rules do not apply a script stays as it is. Induction on the rules. -/
theorem optimize_eq_unlines {d : Design} {lines : List Text} (h : Unbroken lines) :
    (optimize Rule.standard d (unlines lines)).1
      = unlines (lines.filter fun line => !(isLowDetail d && isDropped line)) := by
  cases hlow : isLowDetail d with
  | true => exact optimize_unlines hlow h
  | false =>
    have hrules : ∀ (rules : List Rule) code applied,
        (rules.foldl (applyRule false) (code, applied)).1 = code := by
      intro rules
      induction rules with
      | nil => exact fun _ _ => rfl
      | cons rule rest ih =>
        intro code applied
        have hrule : applyRule false (code, applied) rule = (code, applied) := if_pos rfl
        rw [List.foldl_cons, hrule, ih]
    unfold optimize
    rw [hlow]
    simp [hrules]

/-! ## The lines of a whole script -/

/-- An empty line between two sections. -/
def Part.blank : Part := ⟨none, blankLine⟩

/-- The lines of a script, those that build an extrusion with its role. -/
def scriptParts (d : Design) : Except Fault (List Part) := do
  let sections ← Section.all.mapM fun s => s.parts d
  .ok ([Part.blank].intercalate sections)

namespace Part

/-- Whether a line is to be kept: it is no comment and builds neither a detail nor a void. -/
def isEssential (x : Part) : Bool := !isComment x.line.toList && !x.isSecondary

/-- A line that is to be kept is lost if a rule drops it. -/
theorem isLost_eq (x : Part) : x.isLost = (x.isEssential && isDropped x.line) := by
  unfold isLost isEssential isMistaken isDropped
  cases isComment x.line.toList <;> cases x.isSecondary <;> rfl

end Part

/-- Whether a text is what is left of the lines of a script, in their order, when some are dropped
that are comments or build details and voids. -/
def LosesOnlySecondary (parts : List Part) (code : Text) : Prop :=
  ∃ kept : List Part, kept.Sublist parts ∧ code = unlines (kept.map (·.line)) ∧
    kept.filter Part.isEssential = parts.filter Part.isEssential

/-- The lines that no rule drops are such a text just if none of those to be kept is dropped. -/
theorem losesOnlySecondary_unlines_iff {parts : List Part} (h : Unbroken (parts.map (·.line))) :
    LosesOnlySecondary parts (unlines ((parts.map (·.line)).filter (!isDropped ·)))
      ↔ ∀ x ∈ parts, x.isLost = false := by
  constructor
  · rintro ⟨kept, hsub, hcode, hkept⟩ x hx
    by_contra hlost
    rw [Part.isLost_eq, Bool.not_eq_false, Bool.and_eq_true] at hlost
    have hunbroken : Unbroken (kept.map (·.line)) :=
      fun line hline => h line ((hsub.map _).subset hline)
    have htexts := unlines_injective (h.filter _) hunbroken hcode
    -- it is one of the lines that are left, so no rule drops it
    have hmem : x ∈ kept.filter Part.isEssential := by
      rw [hkept]
      exact List.mem_filter.mpr ⟨hx, hlost.1⟩
    have hleft : x.line ∈ kept.map (·.line) := List.mem_map_of_mem (List.mem_of_mem_filter hmem)
    rw [← htexts, List.mem_filter, hlost.2] at hleft
    cases hleft.2
  · intro hnone
    refine ⟨parts.filter (!isDropped ·.line), List.filter_sublist, ?_, ?_⟩
    · rw [List.filter_map]
      rfl
    · rw [List.filter_filter]
      refine List.filter_congr fun x hx => ?_
      have hx := hnone x hx
      rw [Part.isLost_eq] at hx
      cases hessential : x.isEssential with
      | false => rfl
      | true => simpa [hessential] using hx

/-- What holds of the empty lines holds of all lines if it does of each section. Induction on the
sections. -/
theorem forall_mem_intercalate {sections : List (List Part)} {P : Part → Prop}
    (hblank : P .blank) :
    (∀ x ∈ [Part.blank].intercalate sections, P x)
      ↔ ∀ parts ∈ sections, ∀ x ∈ parts, P x := by
  induction sections with
  | nil => exact iff_of_true (List.forall_mem_nil _) (List.forall_mem_nil _)
  | cons first rest ih =>
    cases rest with
    | nil => simp
    | cons second rest =>
      rw [List.intercalate_cons_cons, List.forall_mem_append, List.forall_mem_append, ih,
        List.forall_mem_singleton, List.forall_mem_cons (a := first)]
      simp only [hblank, and_true]

/-- The lines of sections with blank parts between are those of each with blank lines between. -/
theorem map_line_intercalate (sections : List (List Part)) :
    ([Part.blank].intercalate sections).map (·.line)
      = [blankLine].intercalate (sections.map (·.map (·.line))) := by
  induction sections with
  | nil => rfl
  | cons first rest ih =>
    cases rest with
    | nil => simp
    | cons second rest =>
      rw [List.map_cons, List.map_cons, List.intercalate_cons_cons, List.intercalate_cons_cons,
        List.map_append, List.map_append, ih]
      rfl

section

variable {s : Section} {d : Design} {parts : List Part}

/-- Every section has a line. -/
theorem parts_ne_nil (h : s.parts d = .ok parts) : parts.map (·.line) ≠ [] := by
  intro hnil
  have hlength := Section.length_lines (Section.lines_of_parts h)
  have hpos := Section.size_pos s d
  rw [← hlength, hnil] at hpos
  cases hpos

theorem text_of_parts (h : s.parts d = .ok parts) :
    s.text d = .ok (joinWith "\n" (parts.map (·.line))) :=
  map_eq_ok_iff.mpr ⟨_, Section.lines_of_parts h, rfl⟩

/-- The lines of a section hold no newline if its comments do not. -/
theorem unbroken_parts (hcommented : totalBreaks (s.commented d) = 0) (h : s.parts d = .ok parts) :
    Unbroken (parts.map (·.line)) := by
  refine unbroken_of_totalBreaks ?_
  rw [Section.totalBreaks_lines (Section.lines_of_parts h), hcommented]

end

/-- Each section that is written has its lines. -/
theorem exists_groups {d : Design} {sections : List (Text × Text)}
    (h : sectionTexts d = .ok sections) :
    ∃ groups, Section.all.mapM (·.parts d) = .ok groups ∧
      sections.map (·.2) = (groups.map (·.map (·.line))).map (joinWith "\n") := by
  have htexts : sections.map (fun named => (.ok named.2 : Except Fault Text))
      = Section.all.map (·.text d) := by
    refine map_eq_of_mapM h fun s named hnamed => ?_
    obtain ⟨t, ht, hnone⟩ := bind_eq_ok_iff.mp hnamed
    cases hnone
    exact ht.symm
  obtain ⟨groups, hgroups⟩ : ∃ groups, Section.all.mapM (·.parts d) = .ok groups := by
    refine exists_mapM_ok_iff.mpr fun s hs => ?_
    obtain ⟨named, hnamed⟩ := exists_mapM_ok_iff.mp ⟨sections, h⟩ s hs
    obtain ⟨t, ht, -⟩ := bind_eq_ok_iff.mp hnamed
    obtain ⟨lines, hlines, -⟩ := map_eq_ok_iff.mp ht
    exact ⟨_, map_eq_ok_iff.mpr ⟨lines, hlines, rfl⟩⟩
  have hjoined := map_eq_of_mapM hgroups fun s parts hparts => (text_of_parts hparts).symm
  refine ⟨groups, hgroups, ?_⟩
  -- Texts that are written are compared behind their constructor.
  have hok : Function.Injective (Except.ok : Text → Except Fault Text) := fun _ _ => Except.ok.inj
  refine List.map_injective_iff.mpr hok ?_
  rw [List.map_map, List.map_map, List.map_map]
  exact htexts.trans hjoined.symm

/-- A script before it is shortened is the lines of its sections. -/
theorem exists_scriptParts {d : Design} {sections : List (Text × Text)}
    (h : sectionTexts d = .ok sections) :
    ∃ parts, scriptParts d = .ok parts ∧ combined sections = unlines (parts.map (·.line)) := by
  obtain ⟨groups, hgroups, htexts⟩ := exists_groups h
  have hwritten := mapM_eq_ok_iff.mp hgroups
  have hnonempty : groups.map (·.map (·.line)) ≠ [] := by
    intro hnil
    have hlength := hwritten.length_eq
    rw [List.map_eq_nil_iff.mp hnil] at hlength
    cases hlength
  have hlines : ∀ lines ∈ groups.map (·.map (·.line)), lines ≠ [] :=
    List.forall_mem_map.mpr (forall_of_mapM hgroups fun _ _ => parts_ne_nil)
  refine ⟨_, bind_eq_ok_iff.mpr ⟨groups, hgroups, rfl⟩, ?_⟩
  unfold combined
  rw [htexts, unlines_intercalate hnonempty hlines, map_line_intercalate]

section

variable {d : Design} {parts : List Part} (h : scriptParts d = .ok parts)
include h

/-- A line of a script is lost just if a literal of it mentions a variable. -/
theorem isLost_scriptParts :
    (∀ x ∈ parts, x.isLost = false)
      ↔ ∀ s : Section, ∀ literal ∈ s.literals d, mentions literal = false := by
  obtain ⟨groups, hgroups, hparts⟩ := bind_eq_ok_iff.mp h
  cases hparts
  -- Section by section the lines lost are those whose literals mention a variable.
  have hlost := map_eq_of_mapM hgroups fun s parts hparts => Section.any_isLost_parts hparts
  have hany := congrArg (List.any · id) hlost
  rw [List.any_map, List.any_map] at hany
  have hall : ∀ s : Section, s ∈ Section.all := by
    intro s
    cases s <;> decide
  have hnone : (∀ parts ∈ groups, ∀ x ∈ parts, x.isLost = false)
      ↔ (groups.any fun parts => parts.any Part.isLost) = false := by
    simp only [List.any_eq_false, List.any_eq_true, not_exists, not_and, Bool.not_eq_true]
  have hmentioned : (Section.all.any fun s => (s.literals d).any mentions) = false
      ↔ ∀ s : Section, ∀ literal ∈ s.literals d, mentions literal = false := by
    simp only [List.any_eq_false, List.any_eq_true, not_exists, not_and, Bool.not_eq_true]
    exact ⟨fun hnone s => hnone s (hall s), fun hnone s _ => hnone s⟩
  rw [forall_mem_intercalate (P := (Part.isLost · = false)) rfl, hnone, ← hmentioned]
  exact Eq.congr_left hany

/-- A script without breaks in its comments is unbroken. -/
theorem unbroken_scriptParts (hcommented : ∀ s : Section, totalBreaks (s.commented d) = 0) :
    Unbroken (parts.map (·.line)) := by
  obtain ⟨groups, hgroups, hparts⟩ := bind_eq_ok_iff.mp h
  cases hparts
  refine List.forall_mem_map.mpr ((forall_mem_intercalate List.not_mem_nil).mpr ?_)
  refine forall_of_mapM hgroups fun s parts hparts x hx => ?_
  exact unbroken_parts (hcommented s) hparts x.line (List.mem_map_of_mem hx)

end

/-- The code that is written is what the rules leave of the sections. -/
theorem sections_of_write {rules : List Rule} {d : Design} {now : Instant} {e : Emission}
    (h : write rules d now = .ok e) :
    sectionTexts d = .ok e.sections ∧ e.code = (optimize rules d (combined e.sections)).1 := by
  obtain ⟨sections, hsections, hwritten⟩ := bind_eq_ok_iff.mp h
  rw [← Except.ok.inj hwritten]
  exact ⟨hsections, rfl⟩

/-- **What a shorter script loses.** A script is written at a low level of detail, of a design whose
comments hold no newline. Then it is the lines of its sections with only comments and what builds
details and voids left out, just if no literal in the other lines mentions a variable of a detail or
a void. A text of the design that reads like one costs the lines in which it stands. -/
theorem losesOnlySecondary_iff {d : Design} {now : Instant} {e : Emission}
    (hemit : emit Rule.standard d now = .ok e) (hlow : isLowDetail d = true)
    (hcommented : ∀ s : Section, totalBreaks (s.commented d) = 0) :
    ∃ parts, scriptParts d = .ok parts ∧ combined e.sections = unlines (parts.map (·.line)) ∧
      (LosesOnlySecondary parts e.code ↔
        ∀ s : Section, ∀ literal ∈ s.literals d, mentions literal = false) := by
  obtain ⟨d', hgate, hwrite⟩ := bind_eq_ok_iff.mp hemit
  cases Design.eq_of_checkEmittable (mapError_eq_ok_iff.mp hgate)
  obtain ⟨hsections, hcode⟩ := sections_of_write hwrite
  obtain ⟨parts, hparts, hcombined⟩ := exists_scriptParts hsections
  have hunbroken := unbroken_scriptParts hparts hcommented
  refine ⟨parts, hparts, hcombined, ?_⟩
  rw [hcode, hcombined, optimize_unlines hlow hunbroken, losesOnlySecondary_unlines_iff hunbroken,
    isLost_scriptParts hparts]

/-- A door of a low level of detail with a parameter for the material of its details. -/
def detailedDoor : Design where
  metadata := some { familyName := "Door", category := "Doors", lod := some 200 }
  geometry := some {}
  parameterSet := some { family := [{ name := "detail_material", type := "Material" }] }

/-- Its script is written, and loses more than it should, though its parameter has a proper name. -/
theorem losesOnlySecondary_iff_detailedDoor :
    (detailedDoor.parameters.all fun p => Quality.Parameters.acceptsName p.name) = true ∧
    ∃ e, emit Rule.standard detailedDoor default = .ok e ∧
      ∃ parts, scriptParts detailedDoor = .ok parts ∧
        combined e.sections = unlines (parts.map (·.line)) ∧
        ¬LosesOnlySecondary parts e.code := by
  refine ⟨by decide +kernel, ?_⟩
  have hbounded : Bounded detailedDoor := by
    refine ⟨List.forall_mem_singleton.mpr fun hrange => ?_, nofun⟩
    exact absurd hrange.1 (by decide +kernel)
  obtain ⟨e, he⟩ : ∃ e, write Rule.standard detailedDoor default = .ok e :=
    (exists_write_iff rfl).mpr hbounded
  have hemit : emit Rule.standard detailedDoor default = .ok e := by
    rw [emit_of_checkEmittable rfl, he]
  have hcommented : ∀ s : Section, totalBreaks (s.commented detailedDoor) = 0 := by
    intro s
    cases s <;> decide +kernel
  obtain ⟨parts, hparts, hcombined, hloses⟩ := losesOnlySecondary_iff hemit rfl hcommented
  refine ⟨e, hemit, parts, hparts, hcombined, fun h => ?_⟩
  -- The quoted name of the parameter reads like the table of a role.
  have hnone := hloses.mp h .parameters (quote "detail_material") (.head _)
  exact absurd hnone (by decide +kernel)

end FamilyDesign.Script
