import FamilyDesign.Proofs.Design.Structure
import FamilyDesign.Proofs.Document.Fields
import FamilyDesign.Proofs.Numeric.Numerals
import FamilyDesign.Proofs.Quality.Readiness
import FamilyDesign.Proofs.Quality.Score
import FamilyDesign.Proofs.Script.Emission

/-!
# Gates that agree

What a design needs is asked for three times: of its document, by the passes of quality, and ahead
of its script. The document gate reads the values as they stand, the other two see what has been
loaded. They agree nevertheless: a value that both read is one number, and what an earlier gate
accepts the last one does not refuse.

* **`asInt_eq_toInteger`** — an integer is loaded as the document gate has read it.
* **`metadata_of_load`** — the names and the level of detail that a design is loaded with.
* **`gates_agree`** — what is built, and what is ready, passes the gate ahead of a script.
-/

namespace FamilyDesign

open Document Checked

/-! ## Values that are read twice -/

namespace Document

/-- The integer that is loaded is the integer that the document gate reads: both take the integer
part of a real, which the loading asks to have no fraction, and a text spells one integer. -/
theorem asInt_eq_toInteger {v : Json} {m n : Int} (hload : asInt v = .valid m)
    (hgate : v.toInteger = .ok n) : m = n := by
  cases v with
  | null => cases hload
  | array items => cases hload
  | object fields => cases hload
  | int i =>
    cases hload
    cases hgate
    rfl
  | bool b =>
    cases hload
    cases hgate
    rfl
  -- both readings are the part ahead of the point
  | real x =>
    have hm : x.truncate = m := by
      unfold asInt at hload
      dsimp only at hload
      split at hload
      · exact Checked.valid.inj hload
      · cases hload
    have hn : x.truncate = n := by
      simp only [Json.toInteger, Json.integerPart] at hgate
      split at hgate
      · cases hgate
      · split at hgate
        · cases hgate
        · exact Except.ok.inj hgate
    exact hm.symm.trans hn
  -- the two numeral grammars agree where both take the text
  | text s =>
    have hm : Numeric.fieldInt? s = some m := by
      simp only [asInt] at hload
      cases hs : Numeric.fieldInt? s with
      | none =>
        rw [hs] at hload
        cases hload
      | some m' =>
        rw [hs] at hload
        exact congrArg some (Checked.valid.inj hload)
    have hn : Numeric.freeInt? s = some n := by
      simp only [Json.toInteger] at hgate
      cases hs : Numeric.freeInt? s with
      | none =>
        rw [hs] at hgate
        cases hgate
      | some n' =>
        rw [hs] at hgate
        exact congrArg some (Except.ok.inj hgate)
    exact Numeric.fieldInt_eq_freeInt hm hn

/-- A text that is loaded is not empty if the document gate takes it for true. -/
theorem ne_empty_of_asText {v : Json} {s : Text} (hload : asText v = .valid s)
    (htrue : v.isTrue = true) : s ≠ "" := by
  cases v with
  | text s' =>
    cases hload
    rintro rfl
    cases htrue
  | _ => cases hload

/-- A value that may be absent is loaded as its record if it is an object. -/
theorem asOptional_object {α : Type} {load : Fields → Checked α} {fields : Fields} {o : Option α}
    (h : asOptional (asRecord load) (.object fields) = .valid o) :
    ∃ a, o = some a ∧ load fields = .valid a := by
  obtain ⟨a, ha, rfl⟩ := map_eq_valid.mp h
  exact ⟨a, rfl, ha⟩

/-- A value that is not `null` is not loaded as an absent one. -/
theorem isSome_of_asOptional {α : Type} {read : Json → Checked α} {v : Json} {o : Option α}
    (hnull : v ≠ .null) (h : asOptional read v = .valid o) : o.isSome = true := by
  unfold asOptional at h
  split at h
  · exact absurd rfl hnull
  · obtain ⟨a, -, rfl⟩ := map_eq_valid.mp h
    rfl

end Document

namespace Design

/-! ## What the document gate has seen -/

/-- The metadata of a document that passes its gate, and their level of detail. -/
structure PassedMetadata (fields metadata : Fields) (lod : Int) : Prop where
  found : fields.lookup "familyMetadata" = some (.object metadata)
  names : hasNames metadata = true
  level : checkedLod metadata = .ok lod
  range : lodInRange lod = true

/-- A document that passes the structure gate has all sections, and metadata that passes. -/
theorem passedMetadata_of_checkStructure {fields : Fields} (h : checkStructure fields = .ok ()) :
    missingSection? requiredSections fields = none ∧
      ∃ metadata lod, PassedMetadata fields metadata lod := by
  unfold checkStructure at h
  split at h
  · cases h
  · next hsections =>
    refine ⟨hsections, ?_⟩
    cases hfound : fields.lookup "familyMetadata" with
    | none =>
      rw [hfound] at h
      cases h
    | some v =>
      rw [hfound] at h
      cases v with
      -- only an object gets to the checks of names and of the level of detail
      | object metadata =>
        replace h : checkMetadata (.object metadata) = .ok () := h
        unfold checkMetadata at h
        dsimp only at h
        split at h
        · next hnames =>
          obtain ⟨lod, hlod, hrange⟩ := bind_eq_ok_iff.mp h
          split at hrange
          · next hin => exact ⟨metadata, lod, hfound, hnames, hlod, hin⟩
          · cases hrange
        · cases h
      | _ => cases h

/-- A section that is not missing is found, and is not `null`. -/
theorem exists_of_missingSection?_none {sections : List Text} {fields : Fields}
    (h : missingSection? sections fields = none) {name : Text} (hname : name ∈ sections) :
    ∃ v, fields.lookup name = some v ∧ v ≠ .null := by
  have hsome : ¬((fields.lookup name).bind Json.present?).isNone = true :=
    List.find?_eq_none.mp h name hname
  cases hfound : fields.lookup name with
  | none =>
    rw [hfound] at hsome
    exact absurd rfl hsome
  | some v =>
    refine ⟨v, rfl, ?_⟩
    rintro rfl
    rw [hfound] at hsome
    exact absurd rfl hsome

/-- What the document gate has read of a level of detail stands there to be read. -/
theorem exists_lod_of_checkedLod {metadata : Fields} {lod : Int}
    (h : checkedLod metadata = .ok lod) :
    ∃ v, metadata.lookup "lodLevel" = some v ∧ v ≠ .null ∧ v.toInteger = .ok lod := by
  have hread : ((metadata.lookup "lodLevel").getD .null).toInteger = .ok lod := by
    unfold checkedLod at h
    dsimp only at h
    split at h
    · next lod' heq => exact heq.trans (congrArg Except.ok (Except.ok.inj h))
    · cases h
    · cases h
  cases hfound : metadata.lookup "lodLevel" with
  | none =>
    rw [hfound] at hread
    cases hread
  | some v =>
    rw [hfound] at hread
    refine ⟨v, rfl, ?_, hread⟩
    rintro rfl
    cases hread

/-- A name that the document gate takes for true stands there to be read. -/
theorem exists_name_of_isTrue {metadata : Fields} {key : Text}
    (h : ((metadata.lookup key).getD .null).isTrue = true) :
    ∃ v, metadata.lookup key = some v ∧ v.isTrue = true := by
  cases hfound : metadata.lookup key with
  | none =>
    rw [hfound] at h
    cases h
  | some v =>
    rw [hfound] at h
    exact ⟨v, rfl, h⟩

/-! ## What is loaded of it -/

/-- Metadata are loaded with names that are not empty, and with the level of detail that the gate
has read. -/
theorem metadata_of_load {metadata : Fields} (hnames : hasNames metadata = true) {lod : Int}
    (hlod : checkedLod metadata = .ok lod) :
    (Metadata.load metadata).Gives fun m =>
      m.familyName ≠ "" ∧ m.category ≠ "" ∧ m.lod = some lod := by
  obtain ⟨hfamily, hcategory⟩ := Bool.and_eq_true_iff.mp hnames
  obtain ⟨family, hfamily, hfamilyTrue⟩ := exists_name_of_isTrue hfamily
  obtain ⟨category, hcategory, hcategoryTrue⟩ := exists_name_of_isTrue hcategory
  obtain ⟨level, hlevel, hlevelNull, hlevelInt⟩ := exists_lod_of_checkedLod hlod
  refine gives_of_keepingExtras (gives_seq_pure
    (gives_seq (gives_seq (gives_seq (gives_seq (gives_seq (gives_map ?_)))))))
  intro familyName hfamilyName categoryName hcategoryName _ _ loaded hloaded _ _ _ _
  refine ⟨?_, ?_, ?_⟩
  · exact ne_empty_of_asText (Name.read_of_load hfamily hfamilyName) hfamilyTrue
  · exact ne_empty_of_asText (Name.read_of_load hcategory hcategoryName) hcategoryTrue
  · have hread := Name.read_of_load hlevel hloaded
    unfold asOptional at hread
    split at hread
    · exact absurd rfl hlevelNull
    · obtain ⟨n, hn, rfl⟩ := map_eq_valid.mp hread
      exact congrArg some (asInt_eq_toInteger hn hlevelInt)

/-- A design with all that a document needs to pass its gate. -/
structure Built (d : Design) (lod : Int) : Prop where
  metadata : d.metadata.isSome = true
  geometry : d.geometry.isSome = true
  parameterSet : d.parameterSet.isSome = true
  familyName : d.familyName ≠ ""
  category : d.category ≠ ""
  lod : d.lod = some lod

/-- The sections of a document are loaded, none of them as absent. -/
theorem built_of_load {fields metadata : Fields} {lod : Int}
    (hsections : missingSection? requiredSections fields = none)
    (hpassed : PassedMetadata fields metadata lod) :
    (load fields).Gives fun d => d.Built lod := by
  obtain ⟨geometry, hgeometry, hgeometryNull⟩ := exists_of_missingSection?_none hsections
    (show ("geometryDefinition" : Text) ∈ requiredSections by decide)
  obtain ⟨parameters, hparameters, hparametersNull⟩ := exists_of_missingSection?_none hsections
    (show ("parameters" : Text) ∈ requiredSections by decide)
  refine gives_of_keepingExtras (gives_seq_pure
    (gives_seq (gives_seq (gives_seq (gives_seq (gives_seq (gives_map ?_)))))))
  intro m hm g hg p hp _ _ _ _ _ _
  obtain ⟨loaded, rfl, hloaded⟩ := asOptional_object (Name.read_of_load hpassed.found hm)
  obtain ⟨hfamilyName, hcategory, hlod⟩ :=
    metadata_of_load hpassed.names hpassed.level loaded hloaded
  exact {
    metadata := rfl
    geometry := isSome_of_asOptional hgeometryNull (Name.read_of_load hgeometry hg)
    parameterSet := isSome_of_asOptional hparametersNull (Name.read_of_load hparameters hp)
    familyName := hfamilyName
    category := hcategory
    lod := hlod }

/-- Such a design is accepted if its level of detail is in range. -/
theorem checkEmittable_of_built {d : Design} {lod : Int} (h : d.Built lod)
    (hrange : lodInRange lod = true) : checkEmittable d = .ok d := by
  unfold checkEmittable
  rw [Option.isNone_eq_false_iff.mpr h.metadata, Option.isNone_eq_false_iff.mpr h.geometry,
    Option.isNone_eq_false_iff.mpr h.parameterSet, h.lod]
  simp [hrange]

/-! ## The three gates -/

/-- What is built has passed its gate, and has all of it. -/
theorem built_of_build {fields : Fields} {d : Design} (h : build fields = .ok d) :
    ∃ metadata lod, PassedMetadata fields metadata lod ∧ d.Built lod := by
  obtain ⟨⟨⟩, hgate, hload⟩ := bind_eq_ok_iff.mp h
  obtain ⟨hsections, metadata, lod, hpassed⟩ := passedMetadata_of_checkStructure hgate
  refine ⟨metadata, lod, hpassed, built_of_load hsections hpassed d ?_⟩
  unfold ofFields at hload
  split at hload
  · next d' hvalid =>
    cases hload
    exact hvalid
  · cases hload

/-- What is ready is not refused for its structure when its script is to be written. -/
theorem emit_ne_structural_of_ready {d : Design} (h : checkEmittable d = .ok d)
    (rules : List Script.Rule) (now : Instant) (fault : StructureFault) :
    Script.emit rules d now ≠ .error (.structural fault) := by
  rw [Script.emit_of_checkEmittable h]
  exact Script.write_ne_structural (isSome_metadata_of_checkEmittable h) rules now fault

/-- **The three gates agree.** A design that is built from a document passes the gate ahead of a
script, its names are not empty, and its level of detail is the one that the document gate has read
in the metadata. And a design of which a report by the standard passes says that it is ready passes
that gate too, so its script is not refused for a missing section or a level of detail out of
range. -/
theorem gates_agree :
    (∀ fields d, build fields = .ok d →
      checkEmittable d = .ok d ∧ d.familyName ≠ "" ∧ d.category ≠ "" ∧
        ∃ metadata lod, fields.lookup "familyMetadata" = some (.object metadata) ∧
          checkedLod metadata = .ok lod ∧ d.lod = some lod) ∧
    (∀ (g : Quality.Gateway) d code now report, g.passes = Quality.standardPasses →
      g.validate d code now = .ok report → report.ready = true →
        checkEmittable d = .ok d ∧
          ∀ rules later fault, Script.emit rules d later ≠ .error (.structural fault)) := by
  refine ⟨?_, ?_⟩
  · intro fields d hbuild
    obtain ⟨metadata, lod, hpassed, hbuilt⟩ := built_of_build hbuild
    exact ⟨checkEmittable_of_built hbuilt hpassed.range, hbuilt.familyName,
      hbuilt.category, metadata, lod, hpassed.found, hpassed.level, hbuilt.lod⟩
  · intro g d code now report hpasses hreport hready
    rw [Quality.Gateway.ready_of_validate hreport] at hready
    have hgate := Quality.checkEmittable_of_ready hpasses hready
    exact ⟨hgate, emit_ne_structural_of_ready hgate⟩

/-- A small door, of which the level of detail is a text. -/
def numeralFields : Fields := [
  ("familyMetadata", .object [
    ("familyName", .text "a"), ("category", .text "Doors"), ("lodLevel", .text " +3_00 ")]),
  ("geometryDefinition", .object [("extrusions", .array [.object [
    ("profile", .array [.object [], .object [("x", .int 1)], .object [("y", .int 1)]]),
    ("endPoint", .object [("z", .int 7)])]])]),
  ("parameters", .object [("familyParameters", .array [.object [("name", .text "Width")]])]),
  ("materials", .array []),
  ("visibilitySettings", .object [])]

/-- Such a document is built, and its design is ready. -/
theorem exists_numeralDesign : ∃ d, build numeralFields = .ok d ∧
    Quality.areReady (Quality.Gateway.verdicts {} d none) = true := by
  have hready : (build numeralFields).toOption.any
      (fun d => Quality.areReady (Quality.Gateway.verdicts {} d none)) = true := by
    decide +kernel
  cases h : build numeralFields with
  | error fault =>
    rw [h] at hready
    cases hready
  | ok d =>
    rw [h] at hready
    exact ⟨d, rfl, hready⟩

/-- It is built, reported to be ready, and not refused. -/
theorem gates_agree_numeral : ∃ d report, build numeralFields = .ok d ∧
    Quality.Gateway.validate {} d none ⟨0⟩ = .ok report ∧ report.ready = true ∧
    (checkEmittable d = .ok d ∧ d.familyName ≠ "" ∧ d.category ≠ "" ∧
      ∃ metadata lod, numeralFields.lookup "familyMetadata" = some (.object metadata) ∧
        checkedLod metadata = .ok lod ∧ d.lod = some lod) ∧
    ∀ rules later fault, Script.emit rules d later ≠ .error (.structural fault) := by
  obtain ⟨d, hbuild, hready⟩ := exists_numeralDesign
  obtain ⟨report, hreport⟩ := Quality.Gateway.validate_standard (g := {}) rfl
    Quality.Deductions.lawful_standard d none ⟨0⟩
  have hfavourable : report.ready = true :=
    (Quality.Gateway.ready_of_validate hreport).trans hready
  exact ⟨d, report, hbuild, hreport, hfavourable, gates_agree.1 numeralFields d hbuild,
    (gates_agree.2 {} d none ⟨0⟩ report rfl hreport hfavourable).2⟩

end Design

end FamilyDesign
