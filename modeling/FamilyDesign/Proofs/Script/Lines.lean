import FamilyDesign.Proofs.Design.Structure
import FamilyDesign.Proofs.Script.Breaks
import FamilyDesign.Proofs.Script.Size

/-!
# The lines of a script

How many lines a section has depends on what there is in a design, and not on what its texts hold,
with one exception: a comment shows a text as it is, and a newline in it ends the comment.

* **`exists_text_iff`** — a section is written unless an integer in it is out of range.
* **`lineCount_text`** — it has the lines that it writes, and one more for every break in a comment.
* **`sameLines_iff`** — the headline: of designs alike but for their texts a section has as many
  lines just if no integer is out of range and the commented texts break equally often.
-/

namespace FamilyDesign.Script

open Text (totalBreaks)

namespace Section

/-! ## When a section is written -/

/-- The values that a section writes, each with the name of the type that it has there. -/
def typedValues : Section → Design → List (Json × Text)
  | parameters, d => d.parameters.map fun p => (p.default, p.type)
  | familyTypes, d =>
    d.types.flatMap fun t => t.bindings.map fun b => (b.2, boundTypeOf d b.1)
  | _, _ => []

/-- Whether each integer that a section writes is in range. -/
def InRange (s : Section) (d : Design) : Prop :=
  ∀ value ∈ s.typedValues d, ¬OutOfRange value.1 value.2

/-- Materials are not written as integers. -/
theorem material_inRange (v : Json) : ¬OutOfRange v "Material" := by
  have htype : ValueType.ofName? "Material" = some .material := by decide +kernel
  rintro ⟨hinteger, -⟩
  rw [htype] at hinteger
  cases hinteger

/-- A default is written just if it is in range. -/
theorem exists_defaultLines_iff {p : Parameter} :
    (∃ lines, defaultLines p = .ok lines) ↔ ¬OutOfRange p.default p.type := by
  unfold defaultLines
  cases hv : p.default.present? with
  | none =>
    have hrange : ¬OutOfRange p.default p.type := by
      rw [Json.present?_eq_none_iff.mp hv]
      rintro ⟨-, hnull⟩
      cases hnull
    exact iff_of_true ⟨[], rfl⟩ hrange
  | some v =>
    have hdefault : p.default = v := Json.eq_of_present?_eq_some hv
    -- A default of type Material is left out, whatever it is.
    by_cases hmaterial : p.type = "Material"
    · have hrange : ¬OutOfRange p.default p.type := hmaterial ▸ material_inRange p.default
      refine iff_of_true ⟨[], ?_⟩ hrange
      simp [hmaterial]
    · rw [hdefault, ← formatValue_ok_iff]
      simp only [hmaterial, if_false]
      constructor
      · rintro ⟨lines, hlines⟩
        obtain ⟨written, hwritten, -⟩ := bind_eq_ok_iff.mp hlines
        exact ⟨written, hwritten⟩
      · rintro ⟨written, hwritten⟩
        exact ⟨_, bind_eq_ok_iff.mpr ⟨written, hwritten, rfl⟩⟩

/-- A parameter is written just if its default is. -/
theorem exists_parameterEntryLines_iff {p : Parameter} :
    (∃ lines, parameterEntryLines p = .ok lines) ↔ ¬OutOfRange p.default p.type := by
  rw [← exists_defaultLines_iff]
  constructor
  · rintro ⟨lines, hlines⟩
    obtain ⟨setDefault, hdefault, -⟩ := bind_eq_ok_iff.mp hlines
    exact ⟨setDefault, hdefault⟩
  · rintro ⟨setDefault, hdefault⟩
    exact ⟨_, bind_eq_ok_iff.mpr ⟨setDefault, hdefault, rfl⟩⟩

/-- A binding is written just if its value is in range of the type it is written under. -/
theorem exists_bindingLines_iff {d : Design} {name : Text} {v : Json} :
    (∃ lines, bindingLines d name v = .ok lines) ↔ ¬OutOfRange v (boundTypeOf d name) := by
  unfold bindingLines
  by_cases hmaterial : boundTypeOf d name = "Material"
  · refine iff_of_true ⟨[], ?_⟩ (hmaterial ▸ material_inRange v)
    simp [hmaterial]
  · rw [← formatValue_ok_iff]
    simp only [hmaterial, if_false]
    constructor
    · rintro ⟨lines, hlines⟩
      obtain ⟨written, hwritten, -⟩ := bind_eq_ok_iff.mp hlines
      exact ⟨written, hwritten⟩
    · rintro ⟨written, hwritten⟩
      exact ⟨_, bind_eq_ok_iff.mpr ⟨written, hwritten, rfl⟩⟩

/-- A family type is written just if all its bindings are. -/
theorem exists_familyTypeEntryLines_iff {d : Design} {t : FamilyType} :
    (∃ lines, familyTypeEntryLines d t = .ok lines) ↔
      ∀ b ∈ t.bindings, ¬OutOfRange b.2 (boundTypeOf d b.1) := by
  have hbindings : (∃ bindings, t.bindings.mapM (fun b => bindingLines d b.1 b.2)
      = .ok bindings) ↔ ∀ b ∈ t.bindings, ¬OutOfRange b.2 (boundTypeOf d b.1) := by
    rw [exists_mapM_ok_iff]
    exact forall₂_congr fun b _ => exists_bindingLines_iff
  rw [← hbindings]
  constructor
  · rintro ⟨lines, hlines⟩
    obtain ⟨bindings, hok, -⟩ := bind_eq_ok_iff.mp hlines
    exact ⟨bindings, hok⟩
  · rintro ⟨bindings, hok⟩
    exact ⟨_, bind_eq_ok_iff.mpr ⟨bindings, hok, rfl⟩⟩

/-- A section of a design with metadata is written just if each integer in it is in range. -/
theorem exists_lines_iff {d : Design} (hmetadata : d.metadata.isSome = true) (s : Section) :
    (∃ lines, s.lines d = .ok lines) ↔ s.InRange d := by
  -- Most sections write no typed value, so they are written in any case.
  have hwritten : ∀ {lines : List Text} {s : Section}, s.lines d = .ok lines →
      s.typedValues d = [] → ((∃ lines, s.lines d = .ok lines) ↔ s.InRange d) := by
    intro lines s hlines hvalues
    refine iff_of_true ⟨lines, hlines⟩ ?_
    unfold InRange
    rw [hvalues]
    nofun
  cases s with
  | familySetup =>
    obtain ⟨m, hm⟩ := Option.isSome_iff_exists.mp hmetadata
    have hlines : lines familySetup d = .ok (setupLines m) := by
      unfold lines setup
      rw [hm]
    exact hwritten hlines rfl
  | parameters =>
    have hentries : (∃ entries, d.parameters.mapM parameterEntryLines = .ok entries) ↔
        InRange parameters d := by
      rw [exists_mapM_ok_iff]
      simp only [InRange, typedValues, List.forall_mem_map]
      exact forall₂_congr fun p _ => exists_parameterEntryLines_iff
    rw [← hentries]
    constructor
    · rintro ⟨lines, hlines⟩
      obtain ⟨entries, hok, -⟩ := bind_eq_ok_iff.mp (mapError_eq_ok_iff.mp hlines)
      exact ⟨entries, hok⟩
    · rintro ⟨entries, hok⟩
      exact ⟨_, mapError_eq_ok_iff.mpr (bind_eq_ok_iff.mpr ⟨entries, hok, rfl⟩)⟩
  | familyTypes =>
    have hentries : (∃ entries, d.types.mapM (familyTypeEntryLines d) = .ok entries) ↔
        InRange familyTypes d := by
      rw [exists_mapM_ok_iff]
      simp only [InRange, typedValues, List.forall_mem_flatMap, List.forall_mem_map]
      exact forall₂_congr fun t _ => exists_familyTypeEntryLines_iff
    rw [← hentries]
    constructor
    · rintro ⟨lines, hlines⟩
      obtain ⟨entries, hok, -⟩ := bind_eq_ok_iff.mp (mapError_eq_ok_iff.mp hlines)
      exact ⟨entries, hok⟩
    · rintro ⟨entries, hok⟩
      exact ⟨_, mapError_eq_ok_iff.mpr (bind_eq_ok_iff.mpr ⟨entries, hok, rfl⟩)⟩
  | imports => exact hwritten rfl rfl
  | referencePlanes => exact hwritten rfl rfl
  | geometry => exact hwritten rfl rfl
  | constraints => exact hwritten rfl rfl
  | materials => exact hwritten rfl rfl
  | visibility => exact hwritten rfl rfl
  | validation => exact hwritten rfl rfl

/-! ## Sections of designs that are alike -/

/-- The number of lines of a text. -/
def lineCount (t : Text) : Nat := (Text.pieces (.char '\n') t.toList).length

theorem size_pos (s : Section) (d : Design) : 0 < s.size d := by
  cases s <;> simp [size]

/-- A section has the lines that it writes, and one more for every break in a comment. -/
theorem lineCount_text {s : Section} {d : Design} {t : Text} (h : s.text d = .ok t) :
    lineCount t = s.size d + totalBreaks (s.commented d) := by
  obtain ⟨lines, hlines, rfl⟩ := map_eq_ok_iff.mp h
  have hnonempty : lines ≠ [] := by
    rintro rfl
    have hlength := length_lines hlines
    have hpos := size_pos s d
    rw [← hlength] at hpos
    cases hpos
  unfold lineCount
  rw [Text.length_pieces_joinWith hnonempty, length_lines hlines, totalBreaks_lines hlines]

/-- The text of a section is there just if its integers are in range. -/
theorem exists_text_iff {d : Design} (hmetadata : d.metadata.isSome = true) (s : Section) :
    (∃ t, s.text d = .ok t) ↔ s.InRange d := by
  rw [← exists_lines_iff hmetadata]
  constructor
  · rintro ⟨t, ht⟩
    obtain ⟨lines, hlines, -⟩ := map_eq_ok_iff.mp ht
    exact ⟨lines, hlines⟩
  · rintro ⟨lines, hlines⟩
    exact ⟨_, map_eq_ok_iff.mpr ⟨lines, hlines, rfl⟩⟩

/-- **What a text can do to a script.** Of two designs alike but for their texts, of which one may
be written as a script, each section is written with equally many lines just if no integer in it is
out of range and its comments break equally often. So a text of the design is inside a literal or a
comment, and only in a comment can it add a line. -/
theorem sameLines_iff {d d' : Design} (halike : d.Alike d')
    (hemittable : d.checkEmittable = .ok d) (hemittable' : d'.checkEmittable = .ok d')
    (s : Section) :
    (∃ t t', s.text d = .ok t ∧ s.text d' = .ok t' ∧ lineCount t = lineCount t') ↔
      (s.InRange d ∧ s.InRange d') ∧
        totalBreaks (s.commented d) = totalBreaks (s.commented d') := by
  have hwritten := exists_text_iff (Design.isSome_metadata_of_checkEmittable hemittable) s
  have hwritten' := exists_text_iff (Design.isSome_metadata_of_checkEmittable hemittable') s
  have hsize := size_of_alike halike s
  constructor
  · rintro ⟨t, t', ht, ht', hsame⟩
    rw [lineCount_text ht, lineCount_text ht', hsize] at hsame
    exact ⟨⟨hwritten.mp ⟨t, ht⟩, hwritten'.mp ⟨t', ht'⟩⟩, Nat.add_left_cancel hsame⟩
  · rintro ⟨⟨hrange, hrange'⟩, hbreaks⟩
    obtain ⟨t, ht⟩ := hwritten.mpr hrange
    obtain ⟨t', ht'⟩ := hwritten'.mpr hrange'
    refine ⟨t, t', ht, ht', ?_⟩
    rw [lineCount_text ht, lineCount_text ht', hsize, hbreaks]

/-- A design of a name and a category alone. -/
def doorNamed (name : Text) : Design where
  metadata := some { familyName := name, category := "Doors", lod := some 300 }
  geometry := some {}
  parameterSet := some {}

/-- A name that breaks the comment it stands in adds a line to the imports, and none to the setup,
where it is a literal. -/
theorem sameLines_brokenName :
    (doorNamed "a").Alike (doorNamed "a\nimport os") ∧
    (doorNamed "a").checkEmittable = .ok (doorNamed "a") ∧
    (doorNamed "a\nimport os").checkEmittable = .ok (doorNamed "a\nimport os") ∧
    (¬∃ t t', imports.text (doorNamed "a") = .ok t ∧
      imports.text (doorNamed "a\nimport os") = .ok t' ∧ lineCount t = lineCount t') ∧
    ∃ t t', familySetup.text (doorNamed "a") = .ok t ∧
      familySetup.text (doorNamed "a\nimport os") = .ok t' ∧ lineCount t = lineCount t' := by
  have halike : (doorNamed "a").Alike (doorNamed "a\nimport os") :=
    { metadata := .some ⟨by decide +kernel, rfl, rfl, rfl⟩
      extrusions := .nil
      referencePlanes := .nil
      constraints := .nil
      parameters := .nil
      types := .nil
      materials := .nil
      coarse := .nil
      medium := .nil
      fine := .nil }
  refine ⟨halike, rfl, rfl, ?_, ?_⟩
  · -- The two names do not break lines alike.
    intro hsame
    have hbreaks := ((sameLines_iff halike rfl rfl imports).mp hsame).2
    exact absurd hbreaks (by decide +kernel)
  · exact (sameLines_iff halike rfl rfl familySetup).mpr ⟨⟨nofun, nofun⟩, rfl⟩

end Section

end FamilyDesign.Script
