import FamilyDesign.Desk.Revision
import FamilyDesign.Proofs.Brief.Assembly
import FamilyDesign.Proofs.Design.Loaded
import FamilyDesign.Proofs.Fallible
import FamilyDesign.Proofs.Json.Same
import FamilyDesign.Proofs.Numeric.Accuracy

/-!
# Designs that are recognised

A design that a brief has made is read back into a brief that makes the same design, and it is
recognised as made from it. So a revision of such a design makes a new one from the revised brief.

* **`Brief.ofDesign_toDesign`** — the brief that is read back.
* **`Brief.Drawable`** — what the lengths of a brief have to be for its design to be compared.
* **`Brief.isMadeFrom_toDesign`** — the design is recognised.
* **`Brief.revise_toDesign`** — the revision.
-/

namespace FamilyDesign

open Numeric (Binary64)

namespace Brief

/-! ## The brief that is read back -/

/-- The brief that is read back from the design that a brief makes: the style of its windows is told
by the name of the family alone. -/
def restyled (b : Brief) : Brief :=
  { b with windowStyle := windowStyleOf ("Generated " ++ b.familyLabel ++ " " ++ b.category) }

/-- The dimensions that are read back are those of the brief. -/
theorem foldlM_readDimension (b : Brief) :
    Dimension.all.foldlM (readDimension b.toDesign) {}
      = .ok { ({} : Brief) with
        width := b.width, height := b.height, sillHeight := b.sillHeight, inset := b.inset } := rfl

/-- The brief of a design that a brief has made is that brief with the style that the family's name
tells. -/
theorem ofDesign_toDesign {b : Brief} (h : b.category.isEmpty = false) :
    ofDesign b.toDesign = .ok b.restyled := by
  refine bind_eq_ok_iff.mpr ⟨_, foldlM_readDimension b, ?_⟩
  have hcategory : b.toDesign.category = b.category := rfl
  rw [hcategory, h]
  rfl

/-- The label of a window is told by its style. -/
theorem familyLabel_windows {b : Brief} (h : b.category = "Windows") :
    b.familyLabel = if b.windowStyle = doubleHung then ("Window" : Text)
      else if b.windowStyle = slidingDouble then "Sliding Window" else "Fixed Window" := by
  unfold familyLabel
  rw [h, if_neg (by decide), if_pos rfl]

/-- The name of the family tells the style wherever the style has told the name. -/
theorem familyLabel_restyled (b : Brief) : b.restyled.familyLabel = b.familyLabel := by
  by_cases hwindows : b.category = "Windows"
  · have hlabel : b.familyLabel = "Window" ∨ b.familyLabel = "Sliding Window" ∨
        b.familyLabel = "Fixed Window" := by
      rw [familyLabel_windows hwindows]
      split
      · exact Or.inl rfl
      · split
        · exact Or.inr (Or.inl rfl)
        · exact Or.inr (Or.inr rfl)
    have hstyle : b.restyled.windowStyle
        = windowStyleOf ("Generated " ++ b.familyLabel ++ " " ++ "Windows") := by
      unfold restyled
      rw [hwindows]
    have hcategory : b.restyled.category = "Windows" := hwindows
    -- three labels are left, and each has a style that gives it back
    rw [familyLabel_windows hcategory, hstyle]
    rcases hlabel with hlabel | hlabel | hlabel
    · rw [hlabel]
      decide +kernel
    · rw [hlabel]
      decide +kernel
    · rw [hlabel]
      decide +kernel
  · have hcategory : b.restyled.category = b.category := rfl
    unfold familyLabel
    rw [hcategory, if_neg hwindows, if_neg hwindows]

/-- The style that the name tells makes the same design. -/
theorem toDesign_restyled (b : Brief) : b.restyled.toDesign = b.toDesign := by
  have hmetadata : b.restyled.metadata = b.metadata := by
    unfold metadata
    rw [familyLabel_restyled]
    rfl
  unfold toDesign
  rw [hmetadata]
  rfl

/-! ## Recognition -/

/-- A brief of which every coordinate is defined: its lengths are, and its frame has a finite
width. -/
structure Drawable (b : Brief) : Prop where
  defined : ∀ d, (b.dimension d).isUndefined = false
  framed : b.frameWidth.isFinite = true

/-- Unsigned lengths, infinite ones too, can be drawn. -/
theorem drawable_of_unsigned {b : Brief} (h : ∀ d, (b.dimension d).Unsigned) : b.Drawable where
  defined d := (h d).defined
  framed := by
    have hquarter : ∀ d, (b.dimension d / 4).Unsigned := fun d =>
      (h d).div (Numeric.Binary64.unsigned_ofNat 4)
        (Numeric.Binary64.ofNat_pos (by decide)) (Numeric.Binary64.isFinite_ofNat (by decide))
    have hmost : (0.15 : Binary64).Unsigned := Numeric.Binary64.unsigned_ofScientific 15 true 2
    have hwidth : ((0.15 : Binary64).smaller (b.width / 4)).Unsigned :=
      hmost.smaller (hquarter .width)
    have hle : ((0.15 : Binary64).smaller (b.width / 4)) ≤ 0.15 :=
      hmost.smaller_le (hquarter .width)
    have hfinite : ((0.15 : Binary64).smaller (b.width / 4)).isFinite = true :=
      hwidth.isFinite_of_le hmost hle (by decide +kernel)
    have hframe : b.frameWidth.Unsigned := hwidth.smaller (hquarter .height)
    exact hframe.isFinite_of_le hwidth (hwidth.smaller_le (hquarter .height)) hfinite

theorem Sound.drawable {b : Brief} (h : b.Sound) : b.Drawable := drawable_of_unsigned h.unsigned

/-- Lengths that are finite, whatever their signs, can be drawn. -/
theorem drawable_of_isFinite {b : Brief} (h : ∀ d, (b.dimension d).isFinite = true) :
    b.Drawable where
  defined d := Numeric.Binary64.isUndefined_of_isFinite (h d)
  framed := by
    have hquarter : ∀ d, (b.dimension d / 4).isFinite = true := fun d =>
      Numeric.Binary64.isFinite_div (h d) (by decide +kernel) (by decide +kernel)
    exact Numeric.Binary64.isFinite_smaller
      (Numeric.Binary64.isFinite_smaller (by decide +kernel) (hquarter .width)) (hquarter .height)

/-- No coordinate of an extrusion that a brief makes is undefined. -/
theorem allDefined_extrusions {b : Brief} (h : b.Drawable) :
    ∀ e ∈ b.extrusions, (e.write .asIs).AllDefined := by
  have hzero : (0 : Binary64).isUndefined = false := rfl
  have hwidth : b.width.isUndefined = false := h.defined .width
  have hheight : b.height.isUndefined = false := h.defined .height
  have hinset : b.inset.isUndefined = false := h.defined .inset
  have hdepth : (bodyDepth b.category).isFinite = true := by
    unfold bodyDepth
    split <;> decide +kernel
  have hbody : (b.body.write .asIs).AllDefined := by
    simp [body, rectangle, Extrusion.write, Point2.write, Point3.write, writeList, writeExtras,
      Document.optional, Json.AllDefined, Json.FieldsAllDefined, Json.ItemsAllDefined, hzero,
      Numeric.Binary64.isUndefined_of_isFinite hdepth, hwidth, hheight]
  -- the pane is framed, so its corners are sums and differences of the lengths
  have hpane : (b.pane.write .asIs).AllDefined := by
    have hframe := Numeric.Binary64.isUndefined_of_isFinite h.framed
    have hright := Numeric.Binary64.isUndefined_sub hwidth h.framed
    have htop := Numeric.Binary64.isUndefined_sub hheight h.framed
    have hfront :
        ((bodyDepth b.category - b.inset).larger (b.inset + 0.02)).isUndefined = false := by
      unfold Numeric.Binary64.larger
      split
      · exact Numeric.Binary64.isUndefined_add hinset (by decide +kernel)
      · exact Numeric.Binary64.isUndefined_sub_of_isFinite hdepth hinset
    simp [pane, rectangle, Extrusion.write, Point2.write, Point3.write, writeList, writeExtras,
      Document.optional, Json.AllDefined, Json.FieldsAllDefined, Json.ItemsAllDefined,
      hframe, hinset, hright, htop, hfront]
  unfold extrusions
  split
  · rw [List.forall_mem_cons, List.forall_mem_singleton]
    exact ⟨hbody, hpane⟩
  · rw [List.forall_mem_singleton]
    exact hbody

/-- No key repeats in an extrusion that a brief makes. -/
theorem keysDiffer_extrusions (b : Brief) : ∀ e ∈ b.extrusions, (e.write .asIs).KeysDiffer := by
  have hcorner : ∀ x y : Binary64, (Point2.write .asIs { x, y }).KeysDiffer := fun _ _ =>
    ⟨Point2.nodup_names, trivial, trivial, trivial⟩
  have hend : ∀ x y z : Binary64, (Point3.write .asIs { x, y, z }).KeysDiffer := fun _ _ _ =>
    ⟨Point3.nodup_names, trivial, trivial, trivial, trivial⟩
  have hbody : (b.body.write .asIs).KeysDiffer :=
    ⟨Extrusion.nodup_names, trivial, ⟨hcorner _ _, hcorner _ _, hcorner _ _, hcorner _ _, trivial⟩,
      hend _ _ _, hend _ _ _, trivial, trivial, trivial⟩
  have hpane : (b.pane.write .asIs).KeysDiffer :=
    ⟨Extrusion.nodup_names, trivial, ⟨hcorner _ _, hcorner _ _, hcorner _ _, hcorner _ _, trivial⟩,
      hend _ _ _, hend _ _ _, trivial, trivial, trivial⟩
  unfold extrusions
  split
  · rw [List.forall_mem_cons, List.forall_mem_singleton]
    exact ⟨hbody, hpane⟩
  · rw [List.forall_mem_singleton]
    exact hbody

theorem allDefined_texts (texts : List Text) : (writeList .text texts).AllDefined := by
  show Json.ItemsAllDefined (texts.map .text)
  rw [Json.itemsAllDefined_iff, List.forall_mem_map]
  exact fun _ _ => trivial

/-- No number in the design of a drawable brief is undefined. -/
theorem allDefined_full {b : Brief} (h : b.Drawable) : b.toDesign.full.AllDefined := by
  have hmetadata : (b.metadata.write .asIs).AllDefined := by
    have hhosting : (Document.optional .text b.metadata.hostingType).AllDefined := by
      cases b.metadata.hostingType with
      | none => trivial
      | some type => trivial
    exact ⟨trivial, trivial, trivial, trivial, trivial, hhosting, trivial⟩
  have hgeometry : (Geometry.write .asIs { extrusions := b.extrusions }).AllDefined := by
    have hextrusions : Json.ItemsAllDefined (b.extrusions.map (Extrusion.write .asIs)) := by
      rw [Json.itemsAllDefined_iff, List.forall_mem_map]
      exact allDefined_extrusions h
    exact ⟨hextrusions, trivial, trivial, trivial, trivial, trivial, trivial⟩
  -- the lengths are the only numbers among the parameters, and the type binds them once more
  have hlength : ∀ (name : Text) (d : Dimension),
      ((lengthParameter name (b.dimension d)).write .asIs).AllDefined := fun name d =>
    ⟨trivial, trivial, trivial, trivial, h.defined d, trivial, trivial⟩
  have hmaterial : ∀ name material : Text,
      ((materialParameter name material).write .asIs).AllDefined := fun name material =>
    ⟨trivial, trivial, trivial, trivial, trivial, trivial, trivial⟩
  have hparameters : (ParameterSet.write .asIs
      { family := b.parameters, types := [boundType b.parameters] }).AllDefined := by
    refine ⟨⟨hlength _ .width, hlength _ .height, hlength _ .sillHeight, hlength _ .inset,
      hmaterial _ _, hmaterial _ _, trivial⟩, trivial, ⟨⟨trivial, ?_, trivial⟩, trivial⟩, trivial⟩
    exact ⟨h.defined .width, h.defined .height, h.defined .sillHeight, h.defined .inset, trivial,
      trivial, trivial⟩
  have hslot : ∀ material name color : Text,
      ((materialSlot material name color).write .asIs).AllDefined := fun material name color =>
    ⟨trivial, trivial, trivial, trivial, trivial⟩
  have hnames := allDefined_texts (b.extrusions.map (·.name))
  exact ⟨hmetadata, hgeometry, hparameters, ⟨hslot _ _ _, hslot _ _ _, trivial⟩, trivial,
    ⟨hnames, hnames, hnames, trivial⟩, trivial⟩

theorem keysDiffer_texts (texts : List Text) : (writeList .text texts).KeysDiffer := by
  show Json.ItemsKeysDiffer (texts.map .text)
  rw [Json.itemsKeysDiffer_iff, List.forall_mem_map]
  exact fun _ _ => trivial

/-- No key repeats in the design of a brief. -/
theorem keysDiffer_full (b : Brief) : b.toDesign.full.KeysDiffer := by
  have hmetadata : (b.metadata.write .asIs).KeysDiffer := by
    have hhosting : (Document.optional .text b.metadata.hostingType).KeysDiffer := by
      cases b.metadata.hostingType with
      | none => trivial
      | some type => trivial
    exact ⟨Metadata.nodup_names, trivial, trivial, trivial, trivial, trivial, hhosting, trivial⟩
  have hgeometry : (Geometry.write .asIs { extrusions := b.extrusions }).KeysDiffer := by
    have hextrusions : Json.ItemsKeysDiffer (b.extrusions.map (Extrusion.write .asIs)) := by
      rw [Json.itemsKeysDiffer_iff, List.forall_mem_map]
      exact keysDiffer_extrusions b
    exact ⟨Geometry.nodup_names, hextrusions, trivial, trivial, trivial, trivial, trivial, trivial⟩
  have hlength : ∀ (name : Text) (x : Binary64),
      ((lengthParameter name x).write .asIs).KeysDiffer := fun name x =>
    ⟨Parameter.nodup_names, trivial, trivial, trivial, trivial, trivial, trivial, trivial⟩
  have hmaterial : ∀ name material : Text,
      ((materialParameter name material).write .asIs).KeysDiffer := fun name material =>
    ⟨Parameter.nodup_names, trivial, trivial, trivial, trivial, trivial, trivial, trivial⟩
  have hparameters : (ParameterSet.write .asIs
      { family := b.parameters, types := [boundType b.parameters] }).KeysDiffer := by
    -- the keys of the bindings are the six names of the parameters
    have hbindings : (Json.object (boundType b.parameters).bindings).KeysDiffer := by
      have hnames : (["Width", "Height", "SillHeight", "Inset", "GlassPaneMaterial",
          "SashMaterial"] : List Text).Nodup := by
        decide
      exact ⟨hnames, trivial, trivial, trivial, trivial, trivial, trivial, trivial⟩
    have htype : (FamilyType.write .asIs (boundType b.parameters)).KeysDiffer :=
      ⟨FamilyType.nodup_names, trivial, hbindings, trivial⟩
    exact ⟨ParameterSet.nodup_names, ⟨hlength _ _, hlength _ _, hlength _ _, hlength _ _,
      hmaterial _ _, hmaterial _ _, trivial⟩, trivial, ⟨htype, trivial⟩, trivial⟩
  have hslot : ∀ material name color : Text,
      ((materialSlot material name color).write .asIs).KeysDiffer := fun material name color =>
    ⟨MaterialSlot.nodup_names, trivial, trivial, trivial, trivial, trivial⟩
  have hnames := keysDiffer_texts (b.extrusions.map (·.name))
  exact ⟨Design.nodup_names, hmetadata, hgeometry, hparameters,
    ⟨hslot _ _ _, hslot _ _ _, trivial⟩, trivial,
    ⟨Visibility.nodup_names, hnames, hnames, hnames, trivial⟩, trivial⟩

/-- **A design that a brief has made is recognised.** -/
theorem isMadeFrom_toDesign {b : Brief} (h : b.Drawable) :
    b.toDesign.isMadeFrom b.restyled = true := by
  unfold Design.isMadeFrom Design.newlySame
  rw [toDesign_restyled]
  exact Json.newlySame_self (allDefined_full h) (keysDiffer_full b)

/-- **Such a design is made anew** from what a text says on top of its brief, whoever reads it. -/
theorem revise_toDesign_of_read {b : Brief} (h : b.Drawable)
    (hcategory : b.category.isEmpty = false) {read : Reader} {feedback : Text} {r : Reading}
    (hread : read feedback (some b.restyled) = .ok r) :
    b.toDesign.revise read feedback = .ok (r.brief.toDesign, Design.revisionWarnings r) := by
  refine bind_eq_ok_iff.mpr ⟨b.restyled, mapError_eq_ok_iff.mpr (ofDesign_toDesign hcategory),
    bind_eq_ok_iff.mpr ⟨r, mapError_eq_ok_iff.mpr hread, bind_eq_ok_iff.mpr ⟨_, ?_, rfl⟩⟩⟩
  refine mapError_eq_ok_iff.mpr ?_
  unfold Design.withReading
  rw [isMadeFrom_toDesign h]
  rfl

/-- A sound brief's design is revised to the design of what the feedback makes of the brief. -/
theorem revise_toDesign {b : Brief} (h : b.Sound) (feedback : Text) :
    ∃ warnings, b.toDesign.revise .standard feedback
      = .ok ((Reading.ofText feedback (some b.restyled)).brief.toDesign, warnings) :=
  ⟨_, revise_toDesign_of_read h.drawable (isEmpty_category h) rfl⟩

/-- The style changes none of the lengths. -/
theorem Sound.restyled {b : Brief} (h : b.Sound) : b.restyled.Sound where
  unsigned d := by
    cases d with
    | width => exact h.unsigned .width
    | height => exact h.unsigned .height
    | sillHeight => exact h.unsigned .sillHeight
    | inset => exact h.unsigned .inset
  inset_le := h.inset_le
  category_mem := h.category_mem

end Brief

end FamilyDesign
