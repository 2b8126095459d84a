import FamilyDesign.Proofs.Brief.Patching

/-!
# What a patch leaves alone

A text that refines a design names some dimensions and changes some materials. Values are written
under the names of the parameters that carry a named dimension or hold a changed material, wherever
the names stand, so a parameter that merely shares the name of one of them is written too. Slots are
painted by their label, and a slot that the glass has painted may be painted again with the sash.
Everything else is the design's own.

* **`Reading.Writes`**, **`Reading.Paints`** — what a reading writes under a name, and what it makes
  of a slot.
* **`Reading.rewrites_getD_lookup`** — the new value under a name is one that is written under it,
  and the old one if there is none.
* **`Design.refine_patches`** — a refined design differs from the given one by that only, part by
  part, and a reading that names and changes nothing leaves the design as it is.
-/

namespace FamilyDesign

/-! ## Slots that are painted -/

/-- A slot with another material. -/
def MaterialSlot.painted (m : MaterialSlot) (material : Text) : MaterialSlot :=
  { m with name := material, default := some material }

namespace MaterialChange

/-- Whether the label of a slot speaks of the changed material. -/
def Marks (c : MaterialChange) (m : MaterialSlot) : Prop :=
  Text.contains m.label c.fragment = true

/-- A change that marks a slot paints it. -/
theorem onSlot_of_marks {c : MaterialChange} {m : MaterialSlot} (h : c.Marks m) :
    c.onSlot m = m.painted c.material :=
  if_pos h

theorem onSlot_of_not_marks {c : MaterialChange} {m : MaterialSlot} (h : ¬c.Marks m) :
    c.onSlot m = m :=
  if_neg h

end MaterialChange

namespace Reading

/-- The changes that a reading makes to the materials of a brief. -/
inductive Changes (r : Reading) (base : Brief) : MaterialChange → Prop
  | glass (differs : r.brief.glass ≠ base.glass) : Changes r base ⟨"glass", r.brief.glass⟩
  | sash (differs : r.brief.sash ≠ base.sash) : Changes r base ⟨"sash", r.brief.sash⟩

/-- The changes of a reading are those of the glass and of the sash, where they differ from the
base. -/
theorem mem_materialChanges_iff {r : Reading} {base : Brief} {c : MaterialChange} :
    c ∈ r.materialChanges base ↔ r.Changes base c := by
  unfold materialChanges
  rw [List.mem_append]
  constructor
  · -- each of the two lists holds its change just if the materials differ
    rintro (hglass | hsash)
    · split at hglass
      · cases hglass
      · next differs =>
        rw [List.mem_singleton.mp hglass]
        exact .glass differs
    · split at hsash
      · cases hsash
      · next differs =>
        rw [List.mem_singleton.mp hsash]
        exact .sash differs
  · rintro (differs | differs)
    · rw [if_neg differs]
      exact Or.inl (List.mem_singleton_self _)
    · rw [if_neg differs]
      exact Or.inr (List.mem_singleton_self _)

/-- What a reading makes of a slot. Its own label decides whether it is painted; the last change
that paints it is the first, or one that the paint of the first calls for. -/
inductive Paints (r : Reading) (base : Brief) (m : MaterialSlot) : MaterialSlot → Prop
  | kept (unmarked : ∀ c, r.Changes base c → ¬c.Marks m) : Paints r base m m
  | painted {first last : MaterialChange} (changed : r.Changes base first) (marked : first.Marks m)
      (changedLast : r.Changes base last)
      (markedLast : last = first ∨ last.Marks (m.painted first.material)) :
      Paints r base m (m.painted last.material)

/-- A slot under the changes of a reading, one after the other: there are at most two. -/
theorem paints_foldl_onSlot (r : Reading) (base : Brief) (m : MaterialSlot) :
    r.Paints base m ((r.materialChanges base).foldl (fun m c => c.onSlot m) m) := by
  have hchanges := @mem_materialChanges_iff r base
  have hlength : (r.materialChanges base).length ≤ 2 := by
    unfold materialChanges
    split <;> split <;> simp
  generalize r.materialChanges base = changes at hchanges hlength ⊢
  -- there may be no change, one or two; of two, either may mark the slot or leave it
  match changes with
  | [] => exact .kept fun c hc => (List.not_mem_nil (hchanges.mpr hc)).elim
  | [c] =>
    have hc : r.Changes base c := hchanges.mp List.mem_cons_self
    rw [List.foldl_cons, List.foldl_nil]
    by_cases hmarks : c.Marks m
    · rw [MaterialChange.onSlot_of_marks hmarks]
      exact .painted hc hmarks hc (Or.inl rfl)
    · rw [MaterialChange.onSlot_of_not_marks hmarks]
      refine .kept fun c' hc' => ?_
      rwa [List.mem_singleton.mp (hchanges.mpr hc')]
  | [c₁, c₂] =>
    have hc₁ : r.Changes base c₁ := hchanges.mp List.mem_cons_self
    have hc₂ : r.Changes base c₂ := hchanges.mp (List.mem_cons_of_mem _ List.mem_cons_self)
    rw [List.foldl_cons, List.foldl_cons, List.foldl_nil]
    by_cases hfirst : c₁.Marks m
    · -- the second change sees the paint of the first
      rw [MaterialChange.onSlot_of_marks hfirst]
      by_cases hsecond : c₂.Marks (m.painted c₁.material)
      · rw [MaterialChange.onSlot_of_marks hsecond]
        exact .painted hc₁ hfirst hc₂ (Or.inr hsecond)
      · rw [MaterialChange.onSlot_of_not_marks hsecond]
        exact .painted hc₁ hfirst hc₁ (Or.inl rfl)
    · rw [MaterialChange.onSlot_of_not_marks hfirst]
      by_cases hsecond : c₂.Marks m
      · rw [MaterialChange.onSlot_of_marks hsecond]
        exact .painted hc₂ hsecond hc₂ (Or.inl rfl)
      · rw [MaterialChange.onSlot_of_not_marks hsecond]
        refine .kept fun c hc => ?_
        rcases List.mem_pair.mp (hchanges.mpr hc) with rfl | rfl
        · exact hfirst
        · exact hsecond

/-! ## Values that are written -/

/-- The values that a reading writes under a name, of whichever parameter it is the name. -/
inductive Writes (r : Reading) (d : Design) (base : Brief) : Text → Json → Prop
  | dimension {dim : Dimension} {label : Text} {p : Parameter} (matched : (dim, label) ∈ r.matched)
      (carries : d.dimensionParameter? dim = .ok (some p)) :
      Writes r d base p.name (.real (r.brief.dimension dim))
  | material {c : MaterialChange} {p : Parameter} (changed : r.Changes base c)
      (declared : p ∈ d.parameters) (holds : p.type = "Material")
      (speaks : Text.contains (Text.lower p.name) c.fragment = true) :
      Writes r d base p.name (.text c.material)

/-- What a reading makes of a value under a name. -/
inductive Rewrites (r : Reading) (d : Design) (base : Brief) (name : Text) (old : Json) :
    Json → Prop
  | kept (unwritten : ∀ v, ¬r.Writes d base name v) : Rewrites r d base name old old
  | written {new : Json} (writes : r.Writes d base name new) : Rewrites r d base name old new

/-- A change covers the material parameters that have its word in their names. -/
theorem coversParameter_iff {c : MaterialChange} {p : Parameter} :
    c.coversParameter p = true ↔
      p.type = "Material" ∧ Text.contains (Text.lower p.name) c.fragment = true := by
  unfold MaterialChange.coversParameter
  rw [Bool.and_eq_true, beq_iff_eq]

/-- Each new value is one that the reading writes: a dimension, or else a material. -/
theorem writes_of_lookup_newValues {r : Reading} {d : Design} {base : Brief}
    (hreadable : d.Readable) {name : Text} {v : Json}
    (h : (r.newValues d base).lookup name = some v) : r.Writes d base name v := by
  rcases lookup_newValues_cases hreadable h with
    ⟨dim, p, hdecides, rfl, rfl⟩ | ⟨c, hc, p, hp, hcovers, rfl, rfl⟩
  · obtain ⟨before, label, after, hmatched, -⟩ := hdecides.last
    have hmem : (dim, label) ∈ r.matched := by
      rw [hmatched]
      exact List.mem_append_right _ List.mem_cons_self
    exact .dimension hmem hdecides.carries
  · obtain ⟨hholds, hspeaks⟩ := coversParameter_iff.mp hcovers
    exact .material (mem_materialChanges_iff.mp hc) hp hholds hspeaks

/-- Where steps only add values, nothing under a name means that no step has added one. Induction on
the items, from the first. -/
theorem unwritten_of_lookup_foldl {α : Type} {step : Fields → α → Fields} {name : Text}
    {Unwritten : α → Prop}
    (hstep : ∀ values x, (step values x).lookup name = none →
      Unwritten x ∧ Entries.lookup values name = none)
    {items : List α} {values : Fields} (h : (items.foldl step values).lookup name = none) :
    (∀ x ∈ items, Unwritten x) ∧ values.lookup name = none := by
  induction items generalizing values with
  | nil => exact ⟨List.forall_mem_nil _, h⟩
  | cons x rest ih =>
    obtain ⟨hrest, hfirst⟩ := ih h
    obtain ⟨hx, hvalues⟩ := hstep values x hfirst
    rw [List.forall_mem_cons]
    exact ⟨⟨hx, hrest⟩, hvalues⟩

/-- What is put under a key is missing under no other name. -/
theorem lookup_put_eq_none {values : Fields} {name key : Text} {v : Json}
    (h : (Entries.put values key v).lookup name = none) :
    key ≠ name ∧ values.lookup name = none := by
  rw [Entries.lookup_put] at h
  split at h
  · cases h
  · next hname => exact ⟨Ne.symm hname, h⟩

/-- Where the material changes give no value for a name, none of them covers a parameter that has
it. -/
theorem lookup_materialUpdates_eq_none {d : Design} {name : Text} {changes : List MaterialChange}
    {values : Fields} (h : (materialUpdates changes d values).lookup name = none) :
    (∀ c ∈ changes, ∀ p ∈ d.parameters.filter c.coversParameter, p.name ≠ name) ∧
      values.lookup name = none := by
  have hput (material : Text) (values : Fields) (p : Parameter)
      (h : (Entries.put values p.name (.text material)).lookup name = none) :
      p.name ≠ name ∧ values.lookup name = none := lookup_put_eq_none h
  have hchange (values : Fields) (c : MaterialChange)
      (h : ((d.parameters.filter c.coversParameter).foldl
        (fun values p => Entries.put values p.name (.text c.material)) values).lookup name = none) :
      (∀ p ∈ d.parameters.filter c.coversParameter, p.name ≠ name) ∧ values.lookup name = none :=
    unwritten_of_lookup_foldl (hput c.material) h
  exact unwritten_of_lookup_foldl hchange h

/-- Where a dimension gives no value for a name, its carrier has another one. -/
theorem lookup_writeDimension_eq_none {r : Reading} {d : Design} {name : Text} (values : Fields)
    (dim : Dimension) (h : (r.writeDimension d values dim).lookup name = none) :
    (∀ p, d.carrier? dim = some p → p.name ≠ name) ∧ values.lookup name = none := by
  unfold writeDimension at h
  cases hcarrier : d.carrier? dim with
  | none =>
    rw [hcarrier] at h
    exact ⟨nofun, h⟩
  | some p =>
    rw [hcarrier] at h
    obtain ⟨hname, hvalues⟩ := lookup_put_eq_none h
    refine ⟨?_, hvalues⟩
    rintro q ⟨⟩
    exact hname

/-- Under a name at which nothing new is found, nothing is written. -/
theorem not_writes_of_lookup_newValues {r : Reading} {d : Design} {base : Brief} {name : Text}
    (h : (r.newValues d base).lookup name = none) (v : Json) : ¬r.Writes d base name v := by
  obtain ⟨hmaterials, hdimensions⟩ := lookup_materialUpdates_eq_none h
  obtain ⟨hmatched, -⟩ := unwritten_of_lookup_foldl lookup_writeDimension_eq_none hdimensions
  rintro (⟨hmem, hcarries⟩ | ⟨hchanged, hdeclared, hholds, hspeaks⟩)
  · exact hmatched _ (List.mem_map_of_mem hmem) _ (Design.carrier?_of_ok hcarries) rfl
  · exact hmaterials _ (mem_materialChanges_iff.mpr hchanged) _
      (List.mem_filter.mpr ⟨hdeclared, coversParameter_iff.mpr ⟨hholds, hspeaks⟩⟩) rfl

/-- **The new value under a name** is one that is written under it, or else the old one. -/
theorem rewrites_getD_lookup {r : Reading} {d : Design} {base : Brief} (hreadable : d.Readable)
    (name : Text) (old : Json) :
    r.Rewrites d base name old (((r.newValues d base).lookup name).getD old) := by
  cases hlookup : (r.newValues d base).lookup name with
  | none => exact .kept (not_writes_of_lookup_newValues hlookup)
  | some v => exact .written (writes_of_lookup_newValues hreadable hlookup)

/-! ## The refined design -/

/-- Whether a parameter is another one but for its default, and that as a reading has it. -/
def RewritesParameter (r : Reading) (d : Design) (base : Brief) (p q : Parameter) : Prop :=
  q = { p with default := q.default } ∧ r.Rewrites d base p.name p.default q.default

/-- Whether a family type is another one but for the values that it binds to the same names, and
those as a reading has them. -/
def RewritesType (r : Reading) (d : Design) (base : Brief) (t u : FamilyType) : Prop :=
  u = { t with bindings := u.bindings } ∧
    List.Forall₂ (fun b c => c.1 = b.1 ∧ r.Rewrites d base b.1 b.2 c.2) t.bindings u.bindings

/-- Whether a design is another one but for what a reading writes and paints. -/
structure Patches (r : Reading) (d : Design) (base : Brief) (refined : Design) : Prop where
  outside : refined
    = { d with parameterSet := refined.parameterSet, materials := refined.materials }
  parameterSet : refined.parameterSet
    = d.parameterSet.map fun s => { s with family := refined.parameters, types := refined.types }
  parameters : List.Forall₂ (r.RewritesParameter d base) d.parameters refined.parameters
  types : List.Forall₂ (r.RewritesType d base) d.types refined.types
  materials : List.Forall₂ (r.Paints base) d.materials refined.materials

/-- An update is one of the rewritings that a reading allows. -/
theorem rewritesParameter_update {r : Reading} {d : Design} {base : Brief} (hreadable : d.Readable)
    (p : Parameter) : r.RewritesParameter d base p (p.update (r.newValues d base)) := by
  constructor
  · unfold Parameter.update
    split <;> rfl
  · rw [Parameter.default_update]
    exact rewrites_getD_lookup hreadable p.name p.default

/-- A family type is rewritten binding by binding, under the same names. -/
theorem rewritesType_update {r : Reading} {d : Design} {base : Brief} (hreadable : d.Readable)
    (t : FamilyType) : r.RewritesType d base t (t.update (r.newValues d base)) := by
  refine ⟨rfl, ?_⟩
  unfold FamilyType.update
  rw [List.forall₂_map_right_iff, List.forall₂_same]
  intro b _
  exact ⟨rfl, rewrites_getD_lookup hreadable b.1 b.2⟩

/-- Changes made one after the other to all slots are made to each slot by itself. -/
theorem foldl_map_onSlot (changes : List MaterialChange) (slots : List MaterialSlot) :
    changes.foldl (fun slots c => slots.map c.onSlot) slots
      = slots.map fun m => changes.foldl (fun m c => c.onSlot m) m := by
  induction changes generalizing slots with
  | nil => exact (List.map_id slots).symm
  | cons c rest ih =>
    rw [List.foldl_cons, ih, List.map_map]
    rfl

/-- The patched design is one that the reading allows: nothing outside parameters, types and slots
has changed. -/
theorem patches_patched {r : Reading} {d : Design} {base : Brief} (hreadable : d.Readable) :
    r.Patches d base (d.patched (r.newValues d base) (d.newSlots r base)) where
  outside := rfl
  parameterSet := by
    unfold Design.parameters Design.types Design.patched Design.mapTypes Design.mapParameters
    cases d.parameterSet <;> rfl
  parameters := by
    rw [Design.parameters_patched, List.forall₂_map_right_iff, List.forall₂_same]
    exact fun p _ => rewritesParameter_update hreadable p
  types := by
    rw [Design.types_patched, List.forall₂_map_right_iff, List.forall₂_same]
    exact fun t _ => rewritesType_update hreadable t
  materials := by
    show List.Forall₂ _ _ (d.newSlots r base)
    unfold Design.newSlots
    rw [foldl_map_onSlot, List.forall₂_map_right_iff, List.forall₂_same]
    exact fun m _ => paints_foldl_onSlot r base m

end Reading

namespace Design

theorem patched_nil (d : Design) : d.patched [] d.materials = d := by
  have hparameter : (fun p : Parameter => p.update []) = id := rfl
  have htype : (fun t : FamilyType => t.update []) = id := by
    funext t
    exact congrArg (fun bindings => ({ t with bindings } : FamilyType)) (List.map_id t.bindings)
  unfold patched mapTypes mapParameters
  rw [hparameter, htype, Option.map_map]
  have hset : ((fun s : ParameterSet => { s with types := s.types.map id }) ∘
      fun s => { s with family := s.family.map id }) = id := by
    funext s
    simp
  rw [hset, Option.map_id]
  rfl

/-- **A patch touches what was named**: a design whose brief can be read is refined to one that
differs by what the reading writes and paints only, and to itself if the reading names no dimension
and changes no material. -/
theorem refine_patches {d : Design} {base : Brief} (h : Brief.ofDesign d = .ok base)
    (r : Reading) :
    ∃ refined, d.refine r = .ok refined ∧ r.Patches d base refined ∧
      (r.matched = [] → r.brief.glass = base.glass → r.brief.sash = base.sash → refined = d) := by
  refine ⟨_, refine_eq_patched h r, Reading.patches_patched (Brief.readable_of_ofDesign h), ?_⟩
  intro hmatched hglass hsash
  have hchanges : r.materialChanges base = [] := by
    unfold Reading.materialChanges
    rw [if_pos hglass, if_pos hsash]
    rfl
  have hvalues : r.newValues d base = [] := by
    unfold Reading.newValues Reading.dimensionValues
    rw [hchanges, hmatched]
    rfl
  have hslots : d.newSlots r base = d.materials := by
    unfold newSlots
    rw [hchanges]
    rfl
  rw [hvalues, hslots, patched_nil]

/-- A design with two parameters of one name, of which the first carries the width, and with a type
that binds a name that nothing declares. -/
def twiceWide : Design where
  parameterSet := some {
    family := [{ name := "Width", default := .real 3 },
      { name := "Width", type := "Text", default := .text "wide" },
      { name := "GlassPaneMaterial", type := "Material", default := .text "Clear" }]
    types := [{ name := "Standard", bindings := [("Width", .real 3), ("Depth", .real 1)] }] }
  materials := [{ name := "Clear", parameterName := some "GlassPaneMaterial" },
    { name := "Oak", parameterName := some "SashMaterial" }]

/-- It is refined by a width and by a glass that speaks of the sash. -/
theorem refine_patches_twiceWide :
    Brief.ofDesign twiceWide = .ok { width := 3, glass := "Clear" } ∧
      ∃ refined, twiceWide.refine
          { brief := { width := 4, glass := "Sash white" }, matched := [(.width, "4 ft wide")] }
          = .ok refined ∧
        Reading.Patches
          { brief := { width := 4, glass := "Sash white" }, matched := [(.width, "4 ft wide")] }
          twiceWide { width := 3, glass := "Clear" } refined := by
  have hbase : Brief.ofDesign twiceWide = .ok { width := 3, glass := "Clear" } := rfl
  obtain ⟨refined, hrefined, hpatches, -⟩ := refine_patches hbase
    { brief := { width := 4, glass := "Sash white" }, matched := [(.width, "4 ft wide")] }
  exact ⟨hbase, refined, hrefined, hpatches⟩

end Design

end FamilyDesign
