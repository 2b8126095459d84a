import FamilyDesign.Proofs.Design.Loaded

/-!
# Designs that are written and loaded again

Each record is written under its wire names, with the fields that it keeps behind them. Where
nothing is lost by that, every field is found under its wire name again and read back as it was, and
the fields behind are kept once more.

* **`load_write`** — this for each record, the records in it first.
* **`Design.load_writeFields`** — and so for a design.
-/

namespace FamilyDesign

open Document Checked

/-! ## Points and metadata -/

/-- A point is loaded as it has been written. -/
theorem Point2.load_write {p : Point2} (h : p.Loaded) (hportable : (p.write .asIs).Portable) :
    asRecord load (p.write .portable) = .valid p := by
  unfold write
  rw [writeExtras_eq (portable_parts hportable).2]
  refine h.kept.keepingExtras_eq nodup_names rfl (seq_valid (map_valid ?_) ?_) rfl
  · exact h.kept.load_eq nodup_names rfl 0 rfl rfl
  · exact h.kept.load_eq nodup_names rfl 1 rfl rfl

theorem Point3.load_write {p : Point3} (h : p.Loaded) (hportable : (p.write .asIs).Portable) :
    asRecord load (p.write .portable) = .valid p := by
  unfold write
  rw [writeExtras_eq (portable_parts hportable).2]
  refine h.kept.keepingExtras_eq nodup_names rfl
    (seq_valid (seq_valid (map_valid ?_) ?_) ?_) rfl
  · exact h.kept.load_eq nodup_names rfl 0 rfl rfl
  · exact h.kept.load_eq nodup_names rfl 1 rfl rfl
  · exact h.kept.load_eq nodup_names rfl 2 rfl rfl

theorem Metadata.load_write {m : Metadata} (h : m.Loaded) (hportable : (m.write .asIs).Portable) :
    asRecord load (m.write .portable) = .valid m := by
  have hlod : asOptional asInt (optional .int m.lod) = .valid m.lod :=
    asOptional_optional (fun _ => Json.noConfusion) fun _ _ => rfl
  unfold write
  rw [writeExtras_eq (portable_parts hportable).2]
  refine h.kept.keepingExtras_eq nodup_names rfl (seq_valid (seq_valid (seq_valid (seq_valid
    (seq_valid (map_valid ?_) ?_) ?_) ?_) ?_) ?_) rfl
  · exact h.kept.load_eq nodup_names rfl 0 rfl rfl
  · exact h.kept.load_eq nodup_names rfl 1 rfl rfl
  · exact h.kept.load_eq nodup_names rfl 2 rfl rfl
  · exact h.kept.load_eq nodup_names rfl 3 rfl hlod
  · exact h.kept.load_eq nodup_names rfl 4 rfl rfl
  · exact h.kept.load_eq nodup_names rfl 5 rfl (asOptional_text _)

/-! ## Geometry -/

/-- An extrusion is loaded as it has been written, with its points. -/
theorem Extrusion.load_write {e : Extrusion} (h : e.Loaded) (hportable : (e.write .asIs).Portable) :
    asRecord load (e.write .portable) = .valid e := by
  obtain ⟨hdeclared, hextras⟩ := portable_parts hportable
  have hprofile : asList (asRecord Point2.load) (writeList (Point2.write .portable) e.profile)
      = .valid e.profile :=
    asList_writeList fun p hp =>
      Point2.load_write (h.profile p hp) (portable_list (hdeclared 1 _ rfl) p hp)
  have hstart := Point3.load_write h.start (hdeclared 2 _ rfl)
  have hstop := Point3.load_write h.stop (hdeclared 3 _ rfl)
  unfold write
  rw [writeExtras_eq hextras]
  refine h.kept.keepingExtras_eq nodup_names rfl (seq_valid (seq_valid (seq_valid (seq_valid
    (seq_valid (map_valid ?_) ?_) ?_) ?_) ?_) ?_) rfl
  · exact h.kept.load_eq nodup_names rfl 0 rfl rfl
  · exact h.kept.load_eq nodup_names rfl 1 rfl hprofile
  · exact h.kept.load_eq nodup_names rfl 2 rfl hstart
  · exact h.kept.load_eq nodup_names rfl 3 rfl hstop
  · exact h.kept.load_eq nodup_names rfl 4 rfl (asOptional_text _)
  · exact h.kept.load_eq nodup_names rfl 5 rfl rfl

/-- So is a plane, with its two points. -/
theorem ReferencePlane.load_write {p : ReferencePlane} (h : p.Loaded)
    (hportable : (p.write .asIs).Portable) : asRecord load (p.write .portable) = .valid p := by
  obtain ⟨hdeclared, hextras⟩ := portable_parts hportable
  have horigin := Point3.load_write h.origin (hdeclared 1 _ rfl)
  have hnormal := Point3.load_write h.normal (hdeclared 2 _ rfl)
  unfold write
  rw [writeExtras_eq hextras]
  refine h.kept.keepingExtras_eq nodup_names rfl
    (seq_valid (seq_valid (seq_valid (map_valid ?_) ?_) ?_) ?_) rfl
  · exact h.kept.load_eq nodup_names rfl 0 rfl rfl
  · exact h.kept.load_eq nodup_names rfl 1 rfl horigin
  · exact h.kept.load_eq nodup_names rfl 2 rfl hnormal
  · exact h.kept.load_eq nodup_names rfl 3 rfl rfl

theorem Constraint.load_write {c : Constraint} (h : c.Loaded)
    (hportable : (c.write .asIs).Portable) :
    asRecord load (c.write .portable) = .valid c := by
  unfold write
  rw [writeExtras_eq (portable_parts hportable).2]
  refine h.kept.keepingExtras_eq nodup_names rfl
    (seq_valid (seq_valid (seq_valid (map_valid ?_) ?_) ?_) ?_) rfl
  · exact h.kept.load_eq nodup_names rfl 0 rfl (asOptional_text _)
  · exact h.kept.load_eq nodup_names rfl 1 rfl (asOptional_text _)
  · exact h.kept.load_eq nodup_names rfl 2 rfl rfl
  · exact h.kept.load_eq nodup_names rfl 3 rfl rfl

/-- Geometry is loaded as it has been written, list by list. -/
theorem Geometry.load_write {g : Geometry} (h : g.Loaded) (hportable : (g.write .asIs).Portable) :
    asRecord load (g.write .portable) = .valid g := by
  obtain ⟨hdeclared, hextras⟩ := portable_parts hportable
  have hextrusions : asList (asRecord Extrusion.load)
      (writeList (Extrusion.write .portable) g.extrusions) = .valid g.extrusions :=
    asList_writeList fun e he =>
      Extrusion.load_write (h.extrusions e he) (portable_list (hdeclared 0 _ rfl) e he)
  have hplanes : asList (asRecord ReferencePlane.load)
      (writeList (ReferencePlane.write .portable) g.referencePlanes) = .valid g.referencePlanes :=
    asList_writeList fun p hp =>
      ReferencePlane.load_write (h.referencePlanes p hp) (portable_list (hdeclared 1 _ rfl) p hp)
  have hconstraints : asList (asRecord Constraint.load)
      (writeList (Constraint.write .portable) g.constraints) = .valid g.constraints :=
    asList_writeList fun c hc =>
      Constraint.load_write (h.constraints c hc) (portable_list (hdeclared 2 _ rfl) c hc)
  -- the other three lists hold values of no declared kind
  have hblends := asList_any (hdeclared 3 _ rfl)
  have hsweeps := asList_any (hdeclared 4 _ rfl)
  have hrevolves := asList_any (hdeclared 5 _ rfl)
  unfold write
  rw [writeExtras_eq hextras]
  -- what is left is that each field is found under its name
  refine h.kept.keepingExtras_eq nodup_names rfl (seq_valid (seq_valid (seq_valid (seq_valid
    (seq_valid (map_valid ?_) ?_) ?_) ?_) ?_) ?_) rfl
  · exact h.kept.load_eq nodup_names rfl 0 rfl hextrusions
  · exact h.kept.load_eq nodup_names rfl 1 rfl hplanes
  · exact h.kept.load_eq nodup_names rfl 2 rfl hconstraints
  · exact h.kept.load_eq nodup_names rfl 3 rfl hblends
  · exact h.kept.load_eq nodup_names rfl 4 rfl hsweeps
  · exact h.kept.load_eq nodup_names rfl 5 rfl hrevolves

/-! ## Parameters -/

/-- The default of a parameter is written and loaded as it is. -/
theorem Parameter.load_write {p : Parameter} (h : p.Loaded) (hportable : (p.write .asIs).Portable) :
    asRecord load (p.write .portable) = .valid p := by
  obtain ⟨hdeclared, hextras⟩ := portable_parts hportable
  have hdefault : asAny (writable p.default) = .valid p.default :=
    congrArg Checked.valid (writable_eq p.default (hdeclared 4 _ rfl).finite)
  unfold write
  rw [writeExtras_eq hextras]
  refine h.kept.keepingExtras_eq nodup_names rfl (seq_valid (seq_valid (seq_valid (seq_valid
    (seq_valid (map_valid ?_) ?_) ?_) ?_) ?_) ?_) rfl
  · exact h.kept.load_eq nodup_names rfl 0 rfl rfl
  · exact h.kept.load_eq nodup_names rfl 1 rfl rfl
  · exact h.kept.load_eq nodup_names rfl 2 rfl (asOptional_text _)
  · exact h.kept.load_eq nodup_names rfl 3 rfl rfl
  · exact h.kept.load_eq nodup_names rfl 4 rfl hdefault
  · exact h.kept.load_eq nodup_names rfl 5 rfl (asOptional_text _)

/-- The bindings of a type are a dictionary, in which no name repeats. -/
theorem FamilyType.load_write {t : FamilyType} (h : t.Loaded)
    (hportable : (t.write .asIs).Portable) :
    asRecord load (t.write .portable) = .valid t := by
  obtain ⟨hdeclared, hextras⟩ := portable_parts hportable
  have hbindings : asFields (.object (dictionary t.bindings)) = .valid t.bindings :=
    congrArg Checked.valid (dictionary_eq (hdeclared 1 _ rfl) h.bindings)
  unfold write
  rw [writeExtras_eq hextras]
  refine h.kept.keepingExtras_eq nodup_names rfl (seq_valid (map_valid ?_) ?_) rfl
  · exact h.kept.load_eq nodup_names rfl 0 rfl rfl
  · exact h.kept.load_eq nodup_names rfl 1 rfl hbindings

/-- So is a set of parameters, with its types. -/
theorem ParameterSet.load_write {s : ParameterSet} (h : s.Loaded)
    (hportable : (s.write .asIs).Portable) : asRecord load (s.write .portable) = .valid s := by
  obtain ⟨hdeclared, hextras⟩ := portable_parts hportable
  have hfamily : asList (asRecord Parameter.load) (writeList (Parameter.write .portable) s.family)
      = .valid s.family :=
    asList_writeList fun p hp =>
      Parameter.load_write (h.family p hp) (portable_list (hdeclared 0 _ rfl) p hp)
  have hshared := asList_any (hdeclared 1 _ rfl)
  have htypes : asList (asRecord FamilyType.load) (writeList (FamilyType.write .portable) s.types)
      = .valid s.types :=
    asList_writeList fun t ht =>
      FamilyType.load_write (h.types t ht) (portable_list (hdeclared 2 _ rfl) t ht)
  unfold write
  rw [writeExtras_eq hextras]
  refine h.kept.keepingExtras_eq nodup_names rfl
    (seq_valid (seq_valid (map_valid ?_) ?_) ?_) rfl
  · exact h.kept.load_eq nodup_names rfl 0 rfl hfamily
  · exact h.kept.load_eq nodup_names rfl 1 rfl hshared
  · exact h.kept.load_eq nodup_names rfl 2 rfl htypes

/-! ## Materials, visibility and the design -/

theorem MaterialSlot.load_write {m : MaterialSlot} (h : m.Loaded)
    (hportable : (m.write .asIs).Portable) : asRecord load (m.write .portable) = .valid m := by
  unfold write
  rw [writeExtras_eq (portable_parts hportable).2]
  refine h.kept.keepingExtras_eq nodup_names rfl
    (seq_valid (seq_valid (seq_valid (map_valid ?_) ?_) ?_) ?_) rfl
  · exact h.kept.load_eq nodup_names rfl 0 rfl rfl
  · exact h.kept.load_eq nodup_names rfl 1 rfl (asOptional_text _)
  · exact h.kept.load_eq nodup_names rfl 2 rfl (asOptional_text _)
  · exact h.kept.load_eq nodup_names rfl 3 rfl (asOptional_text _)

theorem Visibility.load_write {v : Visibility} (h : v.Loaded)
    (hportable : (v.write .asIs).Portable) :
    asRecord load (v.write .portable) = .valid v := by
  unfold write
  rw [writeExtras_eq (portable_parts hportable).2]
  refine h.kept.keepingExtras_eq nodup_names rfl
    (seq_valid (seq_valid (map_valid ?_) ?_) ?_) rfl
  · exact h.kept.load_eq nodup_names rfl 0 rfl (asList_text _)
  · exact h.kept.load_eq nodup_names rfl 1 rfl (asList_text _)
  · exact h.kept.load_eq nodup_names rfl 2 rfl (asList_text _)

namespace Design

/-- **A design is loaded as it has been written**, if nothing in it is lost. -/
theorem load_writeFields {d : Design} (h : d.Loaded) (hportable : d.full.Portable) :
    load (d.writeFields .portable) = .valid d := by
  obtain ⟨hdeclared, hextras⟩ := portable_parts hportable
  have hmetadata : asOptional (asRecord Metadata.load)
      (optional (Metadata.write .portable) d.metadata) = .valid d.metadata :=
    asOptional_optional (fun _ => Json.noConfusion) fun m hm =>
      Metadata.load_write (h.metadata m hm) (portable_optional (hdeclared 0 _ rfl) m hm)
  have hgeometry : asOptional (asRecord Geometry.load)
      (optional (Geometry.write .portable) d.geometry) = .valid d.geometry :=
    asOptional_optional (fun _ => Json.noConfusion) fun g hg =>
      Geometry.load_write (h.geometry g hg) (portable_optional (hdeclared 1 _ rfl) g hg)
  have hset : asOptional (asRecord ParameterSet.load)
      (optional (ParameterSet.write .portable) d.parameterSet) = .valid d.parameterSet :=
    asOptional_optional (fun _ => Json.noConfusion) fun s hs =>
      ParameterSet.load_write (h.parameterSet s hs) (portable_optional (hdeclared 2 _ rfl) s hs)
  have hmaterials : asList (asRecord MaterialSlot.load)
      (writeList (MaterialSlot.write .portable) d.materials) = .valid d.materials :=
    asList_writeList fun m hm =>
      MaterialSlot.load_write (h.materials m hm) (portable_list (hdeclared 3 _ rfl) m hm)
  -- nested families are values of no declared kind
  have hnested := asList_any (hdeclared 4 _ rfl)
  have hvisibility : asOptional (asRecord Visibility.load)
      (optional (Visibility.write .portable) d.visibility) = .valid d.visibility :=
    asOptional_optional (fun _ => Json.noConfusion) fun v hv =>
      Visibility.load_write (h.visibility v hv) (portable_optional (hdeclared 5 _ rfl) v hv)
  unfold writeFields
  rw [writeExtras_eq hextras]
  refine h.kept.keepingExtras_eq nodup_names rfl (seq_valid (seq_valid (seq_valid (seq_valid
    (seq_valid (map_valid ?_) ?_) ?_) ?_) ?_) ?_) rfl
  · exact h.kept.load_eq nodup_names rfl 0 rfl hmetadata
  · exact h.kept.load_eq nodup_names rfl 1 rfl hgeometry
  · exact h.kept.load_eq nodup_names rfl 2 rfl hset
  · exact h.kept.load_eq nodup_names rfl 3 rfl hmaterials
  · exact h.kept.load_eq nodup_names rfl 4 rfl hnested
  · exact h.kept.load_eq nodup_names rfl 5 rfl hvisibility

end Design

end FamilyDesign
