import FamilyDesign.Proofs.Document.Fields

/-!
# What a loaded design keeps

Each record of a loaded design keeps only fields that none of its names stands for, and what a type
binds has keys that differ, as long as those of the document do.

* **`Design.Loaded`** — such a design, with one structure for each record in it.
* **`Design.gives_load`** — every design that is loaded is such a one.
-/

namespace FamilyDesign

open Document Checked

/-! ## Wire names, which differ within each record -/

/-- The names that the fields of a point in the plan have in a document differ. -/
theorem Point2.nodup_names : (names.map (·.wire)).Nodup := by
  decide

/-- The names that the fields of a point in space have in a document differ. -/
theorem Point3.nodup_names : (names.map (·.wire)).Nodup := by
  decide

/-- The names that the fields of the metadata have in a document differ. -/
theorem Metadata.nodup_names : (names.map (·.wire)).Nodup := by
  decide

/-- The names that the fields of an extrusion have in a document differ. -/
theorem Extrusion.nodup_names : (names.map (·.wire)).Nodup := by
  decide

/-- The names that the fields of a reference plane have in a document differ. -/
theorem ReferencePlane.nodup_names : (names.map (·.wire)).Nodup := by
  decide

/-- The names that the fields of a constraint have in a document differ. -/
theorem Constraint.nodup_names : (names.map (·.wire)).Nodup := by
  decide

/-- The names that the fields of the geometry have in a document differ. -/
theorem Geometry.nodup_names : (names.map (·.wire)).Nodup := by
  decide

/-- The names that the fields of a parameter have in a document differ. -/
theorem Parameter.nodup_names : (names.map (·.wire)).Nodup := by
  decide

/-- The names that the fields of a family type have in a document differ. -/
theorem FamilyType.nodup_names : (names.map (·.wire)).Nodup := by
  decide

/-- The names that the fields of the parameters and types have in a document differ. -/
theorem ParameterSet.nodup_names : (names.map (·.wire)).Nodup := by
  decide

/-- The names that the fields of a material have in a document differ. -/
theorem MaterialSlot.nodup_names : (names.map (·.wire)).Nodup := by
  decide

/-- The names that the fields of the visibility have in a document differ. -/
theorem Visibility.nodup_names : (names.map (·.wire)).Nodup := by
  decide

/-- The names that the fields of a design have in a document differ. -/
theorem Design.nodup_names : (names.map (·.wire)).Nodup := by
  decide

/-! ## Points and metadata -/

/-- A point that keeps only what it may. -/
structure Point2.Loaded (p : Point2) : Prop where
  kept : Kept Point2.names p.extras

/-- A point that keeps only what it may. -/
structure Point3.Loaded (p : Point3) : Prop where
  kept : Kept Point3.names p.extras

/-- Metadata that keep only what they may. -/
structure Metadata.Loaded (m : Metadata) : Prop where
  kept : Kept Metadata.names m.extras

/-- A point that is loaded keeps the fields that are none of its coordinates, once each. -/
theorem Point2.gives_load (fields : Fields) (hkeys : (Json.object fields).KeysDiffer) :
    (Point2.load fields).Gives Point2.Loaded := by
  refine gives_keepingExtras hkeys fun hkept => ?_
  refine gives_seq_pure (gives_seq (gives_map ?_))
  intro _ _ _ _
  exact ⟨hkept⟩

/-- So does a point in space. -/
theorem Point3.gives_load (fields : Fields) (hkeys : (Json.object fields).KeysDiffer) :
    (Point3.load fields).Gives Point3.Loaded := by
  refine gives_keepingExtras hkeys fun hkept => ?_
  refine gives_seq_pure (gives_seq (gives_seq (gives_map ?_)))
  intro _ _ _ _ _ _
  exact ⟨hkept⟩

/-- Metadata that is loaded keeps the fields that it has no names for. -/
theorem Metadata.gives_load (fields : Fields) (hkeys : (Json.object fields).KeysDiffer) :
    (Metadata.load fields).Gives Metadata.Loaded := by
  refine gives_keepingExtras hkeys fun hkept => ?_
  refine gives_seq_pure
    (gives_seq (gives_seq (gives_seq (gives_seq (gives_seq (gives_map ?_))))))
  intro _ _ _ _ _ _ _ _ _ _ _ _
  exact ⟨hkept⟩

/-! ## Geometry -/

/-- An extrusion that keeps only what it may, with its points. -/
structure Extrusion.Loaded (e : Extrusion) : Prop where
  kept : Kept Extrusion.names e.extras
  profile : ∀ p ∈ e.profile, p.Loaded
  start : e.start.Loaded
  stop : e.stop.Loaded

/-- The points of an extrusion are loaded with it; a point that is missing keeps nothing. -/
theorem Extrusion.gives_load (fields : Fields) (hkeys : (Json.object fields).KeysDiffer) :
    (Extrusion.load fields).Gives Extrusion.Loaded := by
  refine gives_keepingExtras hkeys fun hkept => ?_
  refine gives_seq_pure
    (gives_seq (gives_seq (gives_seq (gives_seq (gives_seq (gives_map ?_))))))
  intro _ _ profile hprofile start hstart stop hstop _ _ _ _
  have hpoint := reads_record Point3.gives_load
  -- only the fields that hold points tell anything more
  refine ⟨hkept, ?_, ?_, ?_⟩
  · exact profileName.gives_load hkeys (reads_list (reads_record Point2.gives_load))
      (List.forall_mem_nil _) profile hprofile
  · exact startName.gives_load hkeys hpoint ⟨kept_nil _⟩ start hstart
  · exact stopName.gives_load hkeys hpoint ⟨kept_nil _⟩ stop hstop

/-- A reference plane that keeps only what it may, with its points. -/
structure ReferencePlane.Loaded (p : ReferencePlane) : Prop where
  kept : Kept ReferencePlane.names p.extras
  origin : p.origin.Loaded
  normal : p.normal.Loaded

/-- The two points of a plane are loaded with it. -/
theorem ReferencePlane.gives_load (fields : Fields) (hkeys : (Json.object fields).KeysDiffer) :
    (ReferencePlane.load fields).Gives ReferencePlane.Loaded := by
  refine gives_keepingExtras hkeys fun hkept => ?_
  refine gives_seq_pure (gives_seq (gives_seq (gives_seq (gives_map ?_))))
  intro _ _ origin horigin normal hnormal _ _
  have hpoint := reads_record Point3.gives_load
  refine ⟨hkept, ?_, ?_⟩
  · exact originName.gives_load hkeys hpoint ⟨kept_nil _⟩ origin horigin
  · exact normalName.gives_load hkeys hpoint ⟨kept_nil _⟩ normal hnormal

/-- A constraint that keeps only what it may. -/
structure Constraint.Loaded (c : Constraint) : Prop where
  kept : Kept Constraint.names c.extras

/-- A constraint that is loaded keeps the fields that it has no names for. -/
theorem Constraint.gives_load (fields : Fields) (hkeys : (Json.object fields).KeysDiffer) :
    (Constraint.load fields).Gives Constraint.Loaded := by
  refine gives_keepingExtras hkeys fun hkept => ?_
  refine gives_seq_pure (gives_seq (gives_seq (gives_seq (gives_map ?_))))
  intro _ _ _ _ _ _ _ _
  exact ⟨hkept⟩

/-- Geometry that keeps only what it may, with all in it. -/
structure Geometry.Loaded (g : Geometry) : Prop where
  kept : Kept Geometry.names g.extras
  extrusions : ∀ e ∈ g.extrusions, e.Loaded
  referencePlanes : ∀ p ∈ g.referencePlanes, p.Loaded
  constraints : ∀ c ∈ g.constraints, c.Loaded

/-- Extrusions, planes and constraints are loaded with the geometry. The other lists are kept as
values of no declared kind. -/
theorem Geometry.gives_load (fields : Fields) (hkeys : (Json.object fields).KeysDiffer) :
    (Geometry.load fields).Gives Geometry.Loaded := by
  refine gives_keepingExtras hkeys fun hkept => ?_
  refine gives_seq_pure
    (gives_seq (gives_seq (gives_seq (gives_seq (gives_seq (gives_map ?_))))))
  intro extrusions hextrusions planes hplanes constraints hconstraints _ _ _ _ _ _
  -- a list that is missing is empty, so there is nothing in it to be loaded
  refine ⟨hkept, ?_, ?_, ?_⟩
  · exact extrusionsName.gives_load hkeys (reads_list (reads_record Extrusion.gives_load))
      (List.forall_mem_nil _) extrusions hextrusions
  · exact referencePlanesName.gives_load hkeys
      (reads_list (reads_record ReferencePlane.gives_load)) (List.forall_mem_nil _) planes hplanes
  · exact constraintsName.gives_load hkeys (reads_list (reads_record Constraint.gives_load))
      (List.forall_mem_nil _) constraints hconstraints

/-! ## Parameters -/

/-- A parameter that keeps only what it may. -/
structure Parameter.Loaded (p : Parameter) : Prop where
  kept : Kept Parameter.names p.extras

/-- A parameter that is loaded keeps the fields that it has no names for; its default is of any
kind. -/
theorem Parameter.gives_load (fields : Fields) (hkeys : (Json.object fields).KeysDiffer) :
    (Parameter.load fields).Gives Parameter.Loaded := by
  refine gives_keepingExtras hkeys fun hkept => ?_
  refine gives_seq_pure
    (gives_seq (gives_seq (gives_seq (gives_seq (gives_seq (gives_map ?_))))))
  intro _ _ _ _ _ _ _ _ _ _ _ _
  exact ⟨hkept⟩

/-- A family type that keeps only what it may, and binds each name once. -/
structure FamilyType.Loaded (t : FamilyType) : Prop where
  kept : Kept FamilyType.names t.extras
  bindings : (t.bindings.map (·.1)).Nodup

/-- The bindings of a family type are the fields of one object, so no name is bound twice. -/
theorem FamilyType.gives_load (fields : Fields) (hkeys : (Json.object fields).KeysDiffer) :
    (FamilyType.load fields).Gives FamilyType.Loaded := by
  refine gives_keepingExtras hkeys fun hkept => ?_
  refine gives_seq_pure (gives_seq (gives_map ?_))
  intro _ _ bindings hbindings
  have hempty : (([] : Fields).map (·.1)).Nodup := List.nodup_nil
  exact ⟨hkept, bindingsName.gives_load hkeys reads_fields hempty bindings hbindings⟩

/-- Parameters and types that keep only what they may, with all in them. -/
structure ParameterSet.Loaded (s : ParameterSet) : Prop where
  kept : Kept ParameterSet.names s.extras
  family : ∀ p ∈ s.family, p.Loaded
  types : ∀ t ∈ s.types, t.Loaded

/-- Parameters and types are loaded with the set that holds them. -/
theorem ParameterSet.gives_load (fields : Fields) (hkeys : (Json.object fields).KeysDiffer) :
    (ParameterSet.load fields).Gives ParameterSet.Loaded := by
  refine gives_keepingExtras hkeys fun hkept => ?_
  refine gives_seq_pure (gives_seq (gives_seq (gives_map ?_)))
  intro family hfamily _ _ types htypes
  refine ⟨hkept, ?_, ?_⟩
  · exact familyName.gives_load hkeys (reads_list (reads_record Parameter.gives_load))
      (List.forall_mem_nil _) family hfamily
  · exact typesName.gives_load hkeys (reads_list (reads_record FamilyType.gives_load))
      (List.forall_mem_nil _) types htypes

/-! ## Materials, visibility and the design -/

/-- A material that keeps only what it may. -/
structure MaterialSlot.Loaded (m : MaterialSlot) : Prop where
  kept : Kept MaterialSlot.names m.extras

/-- A material that is loaded keeps the fields that it has no names for. -/
theorem MaterialSlot.gives_load (fields : Fields) (hkeys : (Json.object fields).KeysDiffer) :
    (MaterialSlot.load fields).Gives MaterialSlot.Loaded := by
  refine gives_keepingExtras hkeys fun hkept => ?_
  refine gives_seq_pure (gives_seq (gives_seq (gives_seq (gives_map ?_))))
  intro _ _ _ _ _ _ _ _
  exact ⟨hkept⟩

/-- Visibility that keeps only what it may. -/
structure Visibility.Loaded (v : Visibility) : Prop where
  kept : Kept Visibility.names v.extras

/-- Visibility that is loaded keeps the fields that it has no names for. -/
theorem Visibility.gives_load (fields : Fields) (hkeys : (Json.object fields).KeysDiffer) :
    (Visibility.load fields).Gives Visibility.Loaded := by
  refine gives_keepingExtras hkeys fun hkept => ?_
  refine gives_seq_pure (gives_seq (gives_seq (gives_map ?_)))
  intro _ _ _ _ _ _
  exact ⟨hkept⟩

/-- A design that keeps only what it may, with all in it. -/
structure Design.Loaded (d : Design) : Prop where
  kept : Kept Design.names d.extras
  metadata : ∀ m ∈ d.metadata, m.Loaded
  geometry : ∀ g ∈ d.geometry, g.Loaded
  parameterSet : ∀ s ∈ d.parameterSet, s.Loaded
  materials : ∀ m ∈ d.materials, m.Loaded
  visibility : ∀ v ∈ d.visibility, v.Loaded

/-- **A design that is loaded keeps only what it may.** -/
theorem Design.gives_load (fields : Fields) (hkeys : (Json.object fields).KeysDiffer) :
    (Design.load fields).Gives Design.Loaded := by
  refine gives_keepingExtras hkeys fun hkept => ?_
  refine gives_seq_pure
    (gives_seq (gives_seq (gives_seq (gives_seq (gives_seq (gives_map ?_))))))
  intro metadata hmetadata geometry hgeometry set hset materials hmaterials _ _ visibility
    hvisibility
  -- a section that is missing is none, and a missing list is empty
  refine ⟨hkept, ?_, ?_, ?_, ?_, ?_⟩
  · exact metadataName.gives_load hkeys (reads_optional (reads_record Metadata.gives_load))
      (fun m h => absurd h (Option.not_mem_none m)) metadata hmetadata
  · exact geometryName.gives_load hkeys (reads_optional (reads_record Geometry.gives_load))
      (fun g h => absurd h (Option.not_mem_none g)) geometry hgeometry
  · exact parametersName.gives_load hkeys (reads_optional (reads_record ParameterSet.gives_load))
      (fun s h => absurd h (Option.not_mem_none s)) set hset
  · exact materialsName.gives_load hkeys (reads_list (reads_record MaterialSlot.gives_load))
      (List.forall_mem_nil _) materials hmaterials
  · exact visibilityName.gives_load hkeys (reads_optional (reads_record Visibility.gives_load))
      (fun v h => absurd h (Option.not_mem_none v)) visibility hvisibility

end FamilyDesign
