import FamilyDesign.Brief.Refining
import FamilyDesign.Proofs.Fallible
import Mathlib.Data.List.Induction

/-!
# Designs that are patched

A design that is refined is patched: new values are written under names of parameters, as their
defaults and wherever a family type binds them, and nothing else about parameters and types changes.
A later value under a name takes the place of an earlier one.

* **`Reading.newValues`** — the values that a reading writes, by name: the matched dimensions in
  order, then the changed materials.
* **`Design.refine_eq_patched`** — the refined design is the patched one, and there is one whenever
  the brief of the design can be read.
* **`Reading.lookup_newValues_dimension`**, **`Reading.lookup_newValues_cases`** — a dimension keeps
  its value if nothing later is written under the name of its parameter, and a value that is found
  is such a dimension or a material.
* **`Design.findParameter?_patched`** — the parameters are found where they were.
-/

namespace FamilyDesign

open Numeric (Binary64)

/-! ## The parameters that carry dimensions -/

/-- An item that is found to pass is one of those that were tried. -/
theorem mem_of_firstPassing? {α ε : Type} {test : α → Except ε Bool} {items : List α} {x : α}
    (h : firstPassing? test items = .ok (some x)) : x ∈ items := by
  induction items with
  | nil => cases h
  | cons y rest ih =>
    obtain ⟨passes, -, h⟩ := bind_eq_ok_iff.mp h
    cases passes with
    | true =>
      cases h
      exact List.mem_cons_self
    | false => exact List.mem_cons_of_mem _ (ih h)

namespace Design

/-- The parameter that carries a dimension, where no default is out of range. -/
def carrier? (d : Design) (dim : Dimension) : Option Parameter :=
  (d.dimensionParameter? dim).toOption.join

/-- What is found for a dimension is its carrier. -/
theorem carrier?_of_ok {d : Design} {dim : Dimension} {p : Option Parameter}
    (h : d.dimensionParameter? dim = .ok p) : d.carrier? dim = p := by
  unfold carrier?
  rw [h]
  cases p <;> rfl

/-- Whether each dimension can be looked up. -/
def Readable (d : Design) : Prop := ∀ dim, d.dimensionParameter? dim = .ok (d.carrier? dim)

end Design

namespace Brief

/-- One dimension is read if its parameter is found, whatever is made of it. -/
theorem dimensionParameter?_of_readDimension {d : Design} {b b' : Brief} {dim : Dimension}
    (h : readDimension d b dim = .ok b') : d.dimensionParameter? dim = .ok (d.carrier? dim) := by
  obtain ⟨p, hp, -⟩ := bind_eq_ok_iff.mp h
  rw [hp, Design.carrier?_of_ok hp]

/-- Induction on the dimensions that are read. -/
theorem dimensionParameter?_of_foldlM {d : Design} {dims : List Dimension} {b b' : Brief}
    (h : dims.foldlM (readDimension d) b = .ok b') :
    ∀ dim ∈ dims, d.dimensionParameter? dim = .ok (d.carrier? dim) := by
  induction dims generalizing b with
  | nil => exact List.forall_mem_nil _
  | cons dim rest ih =>
    rw [List.foldlM_cons] at h
    obtain ⟨b₁, hfirst, hrest⟩ := bind_eq_ok_iff.mp h
    rw [List.forall_mem_cons]
    exact ⟨dimensionParameter?_of_readDimension hfirst, ih hrest⟩

/-- A design whose brief can be read tells for each dimension which parameter carries it. -/
theorem readable_of_ofDesign {d : Design} {base : Brief} (h : ofDesign d = .ok base) :
    d.Readable := by
  obtain ⟨b, hfold, -⟩ := bind_eq_ok_iff.mp h
  intro dim
  refine dimensionParameter?_of_foldlM hfold dim ?_
  cases dim <;> simp [Dimension.all]

end Brief

/-! ## The values that are written -/

namespace Reading

/-- The values with that of a dimension, if a parameter carries it. -/
def writeDimension (r : Reading) (d : Design) (values : Fields) (dim : Dimension) : Fields :=
  match d.carrier? dim with
  | some p => Entries.put values p.name (.real (r.brief.dimension dim))
  | none => values

/-- The values of the matched dimensions. -/
def dimensionValues (r : Reading) (d : Design) : Fields :=
  (r.matched.map (·.1)).foldl (r.writeDimension d) []

/-- The values that a reading writes into a design of which a brief was read. -/
def newValues (r : Reading) (d : Design) (base : Brief) : Fields :=
  materialUpdates (r.materialChanges base) d (r.dimensionValues d)

/-- In a design whose lengths can be read no update fails, so the updates are a fold. Induction on
the dimensions that are named. -/
theorem foldlM_dimensionUpdates {d : Design} (h : d.Readable) (r : Reading)
    (matched : List (Dimension × Text)) (values : Fields) :
    matched.foldlM
        (fun updates (x : Dimension × Text) => do
          match ← d.dimensionParameter? x.1 with
          | some p => .ok (Entries.put updates p.name (.real (r.brief.dimension x.1)))
          | none => Except.ok (ε := NumberFault) updates)
        values
      = .ok ((matched.map (·.1)).foldl (r.writeDimension d) values) := by
  induction matched generalizing values with
  | nil => rfl
  | cons x rest ih =>
    obtain ⟨dim, label⟩ := x
    rw [List.foldlM_cons, List.map_cons, List.foldl_cons]
    refine bind_eq_ok_iff.mpr ⟨r.writeDimension d values dim, ?_, ih _⟩
    -- that the carrier can be read is what the hypothesis says of each dimension
    refine bind_eq_ok_iff.mpr ⟨d.carrier? dim, h dim, ?_⟩
    unfold writeDimension
    cases d.carrier? dim with
    | none => rfl
    | some p => rfl

theorem dimensionUpdates_eq {d : Design} (h : d.Readable) (r : Reading) :
    r.dimensionUpdates d = .ok (r.dimensionValues d) :=
  foldlM_dimensionUpdates h r r.matched []

/-! ### What is found under a name -/

/-- A dimension is written under the name of its carrier. -/
theorem lookup_writeDimension {r : Reading} {d : Design} {dim : Dimension} {p : Parameter}
    (h : d.carrier? dim = some p) (values : Fields) :
    (r.writeDimension d values dim).lookup p.name = some (.real (r.brief.dimension dim)) := by
  unfold writeDimension
  rw [h]
  dsimp only
  rw [Entries.lookup_put, if_pos rfl]

/-- Dimensions that are carried under other names leave a name alone. -/
theorem lookup_foldl_writeDimension {r : Reading} {d : Design} {name : Text}
    {dims : List Dimension}
    (h : ∀ dim ∈ dims, ∀ p, d.carrier? dim = some p → p.name ≠ name) (values : Fields) :
    (dims.foldl (r.writeDimension d) values).lookup name = values.lookup name := by
  induction dims generalizing values with
  | nil => rfl
  | cons dim rest ih =>
    rw [List.forall_mem_cons] at h
    rw [List.foldl_cons, ih h.2]
    unfold writeDimension
    cases hcarrier : d.carrier? dim with
    | none => rfl
    | some p =>
      dsimp only
      rw [Entries.lookup_put, if_neg (h.1 p hcarrier).symm]

/-- So do materials of parameters with other names. -/
theorem lookup_foldl_put {material : Text} {name : Text} {parameters : List Parameter}
    (h : ∀ p ∈ parameters, p.name ≠ name) (values : Fields) :
    (parameters.foldl (fun values p => Entries.put values p.name (.text material)) values).lookup
      name = values.lookup name := by
  induction parameters generalizing values with
  | nil => rfl
  | cons p rest ih =>
    rw [List.forall_mem_cons] at h
    rw [List.foldl_cons, ih h.2, Entries.lookup_put, if_neg h.1.symm]

/-- Material changes leave the names alone that none of the parameters they cover has. -/
theorem lookup_materialUpdates {d : Design} {name : Text} {changes : List MaterialChange}
    (h : ∀ c ∈ changes, ∀ p ∈ d.parameters, c.coversParameter p = true → p.name ≠ name)
    (values : Fields) :
    (materialUpdates changes d values).lookup name = values.lookup name := by
  unfold materialUpdates
  induction changes generalizing values with
  | nil => rfl
  | cons c rest ih =>
    rw [List.forall_mem_cons] at h
    rw [List.foldl_cons, ih h.2]
    refine lookup_foldl_put ?_ values
    intro p hp
    obtain ⟨hmem, hcovers⟩ := List.mem_filter.mp hp
    exact h.1 p hmem hcovers

/-- A dimension that was matched and whose value nothing replaces: no dimension that was matched
later and no changed material is written under the name of its parameter. -/
structure Decides (r : Reading) (d : Design) (base : Brief) (dim : Dimension) (p : Parameter) :
    Prop where
  carries : d.dimensionParameter? dim = .ok (some p)
  last : ∃ before label after, r.matched = before ++ (dim, label) :: after ∧
    ∀ later ∈ after, ∀ q, d.dimensionParameter? later.1 = .ok (some q) → q.name ≠ p.name
  unpainted : ∀ c ∈ r.materialChanges base, ∀ q ∈ d.parameters, c.coversParameter q = true →
    q.name ≠ p.name

/-- Such a dimension has its value under the name of its parameter. -/
theorem lookup_newValues_dimension {r : Reading} {d : Design} {base : Brief} {dim : Dimension}
    {p : Parameter} (hreadable : d.Readable) (h : r.Decides d base dim p) :
    (r.newValues d base).lookup p.name = some (.real (r.brief.dimension dim)) := by
  obtain ⟨before, label, after, hmatched, hlater⟩ := h.last
  unfold newValues
  rw [lookup_materialUpdates h.unpainted]
  unfold dimensionValues
  rw [hmatched, List.map_append, List.map_cons, List.foldl_append, List.foldl_cons,
    lookup_foldl_writeDimension, lookup_writeDimension (Design.carrier?_of_ok h.carries)]
  intro dim' hdim' q hq
  obtain ⟨later, hmem, rfl⟩ := List.mem_map.mp hdim'
  exact hlater later hmem q (by rw [hreadable later.1, hq])

/-! ### Which value is found -/

/-- Whether a value is that of the last of some dimensions that is carried under a name. -/
def WritesLast (r : Reading) (d : Design) (dims : List Dimension) (name : Text) (v : Json) : Prop :=
  ∃ before dim after p, dims = before ++ dim :: after ∧ d.carrier? dim = some p ∧ p.name = name ∧
    v = .real (r.brief.dimension dim) ∧
    ∀ later ∈ after, ∀ q, d.carrier? later = some q → q.name ≠ name

/-- A dimension that is carried under another name comes behind the last one. -/
theorem WritesLast.append {r : Reading} {d : Design} {dims : List Dimension} {name : Text}
    {v : Json} (h : r.WritesLast d dims name v) {dim : Dimension}
    (hother : ∀ q, d.carrier? dim = some q → q.name ≠ name) :
    r.WritesLast d (dims ++ [dim]) name v := by
  obtain ⟨before, last, after, p, rfl, hp, hname, hv, hlater⟩ := h
  refine ⟨before, last, after ++ [dim], p, ?_, hp, hname, hv, ?_⟩
  · rw [List.append_assoc, List.cons_append]
  · rw [List.forall_mem_append, List.forall_mem_singleton]
    exact ⟨hlater, hother⟩

/-- A value under a name is the last of the dimensions that are carried under it, if there is one.
Induction from the last dimension. -/
theorem lookup_foldl_writeDimension_cases {r : Reading} {d : Design} {name : Text} {v : Json}
    {values : Fields} (dims : List Dimension)
    (h : (dims.foldl (r.writeDimension d) values).lookup name = some v) :
    r.WritesLast d dims name v ∨ values.lookup name = some v := by
  induction dims using List.reverseRecOn with
  | nil => exact Or.inr h
  | append_singleton init last ih =>
    rw [List.foldl_append, List.foldl_cons, List.foldl_nil] at h
    unfold writeDimension at h
    cases hcarrier : d.carrier? last with
    -- a dimension without a carrier writes nothing, so an earlier one was the last
    | none =>
      rw [hcarrier] at h
      exact (ih h).imp_left fun hlast => hlast.append (by rw [hcarrier]; exact fun _ => nofun)
    | some p =>
      rw [hcarrier] at h
      dsimp only at h
      rw [Entries.lookup_put] at h
      split at h
      · next hname =>
        exact Or.inl ⟨init, last, [], p, rfl, hcarrier, hname.symm, (Option.some.inj h).symm,
          List.forall_mem_nil _⟩
      · next hname =>
        -- the last one writes under another name
        refine (ih h).imp_left fun hlast => hlast.append fun q hq => ?_
        rw [hcarrier] at hq
        cases hq
        exact Ne.symm hname

/-- A value under a name is the material of a parameter with that name, or was there before. -/
theorem lookup_foldl_put_cases {material name : Text} {v : Json} {parameters : List Parameter}
    {values : Fields}
    (h : (parameters.foldl (fun values p => Entries.put values p.name (.text material))
      values).lookup name = some v) :
    (∃ p ∈ parameters, p.name = name ∧ v = .text material) ∨
      (∀ p ∈ parameters, p.name ≠ name) ∧ values.lookup name = some v := by
  induction parameters generalizing values with
  | nil => exact Or.inr ⟨List.forall_mem_nil _, h⟩
  | cons p rest ih =>
    rw [List.foldl_cons] at h
    rcases ih h with ⟨q, hq, hname, hv⟩ | ⟨hothers, hput⟩
    · exact Or.inl ⟨q, List.mem_cons_of_mem _ hq, hname, hv⟩
    · rw [Entries.lookup_put] at hput
      split at hput
      · next hname =>
        exact Or.inl ⟨p, List.mem_cons_self, hname.symm, (Option.some.inj hput).symm⟩
      · next hname =>
        rw [List.forall_mem_cons]
        exact Or.inr ⟨⟨Ne.symm hname, hothers⟩, hput⟩

/-- A value is that of a material for a parameter that holds it, or was there before. -/
theorem lookup_materialUpdates_cases {d : Design} {name : Text} {v : Json}
    {changes : List MaterialChange} {values : Fields}
    (h : (materialUpdates changes d values).lookup name = some v) :
    (∃ c ∈ changes, ∃ q ∈ d.parameters, c.coversParameter q = true ∧ q.name = name ∧
      v = .text c.material) ∨
      (∀ c ∈ changes, ∀ q ∈ d.parameters, c.coversParameter q = true → q.name ≠ name) ∧
        values.lookup name = some v := by
  unfold materialUpdates at h
  induction changes generalizing values with
  | nil => exact Or.inr ⟨List.forall_mem_nil _, h⟩
  | cons c rest ih =>
    rw [List.foldl_cons] at h
    rcases ih h with ⟨c', hc', hcovered⟩ | ⟨hrest, hfirst⟩
    · exact Or.inl ⟨c', List.mem_cons_of_mem _ hc', hcovered⟩
    · -- no later change covers a parameter of the name, so the first change tells
      rcases lookup_foldl_put_cases hfirst with ⟨q, hq, hname, hv⟩ | ⟨hothers, hvalues⟩
      · obtain ⟨hmem, hcovers⟩ := List.mem_filter.mp hq
        exact Or.inl ⟨c, List.mem_cons_self, q, hmem, hcovers, hname, hv⟩
      · rw [List.forall_mem_cons]
        exact Or.inr ⟨⟨fun q hq hcovers => hothers q (List.mem_filter.mpr ⟨hq, hcovers⟩), hrest⟩,
          hvalues⟩

/-- A new value is a dimension that nothing replaces, or a material. -/
theorem lookup_newValues_cases {r : Reading} {d : Design} {base : Brief} (hreadable : d.Readable)
    {name : Text} {v : Json} (h : (r.newValues d base).lookup name = some v) :
    (∃ dim p, r.Decides d base dim p ∧ p.name = name ∧ v = .real (r.brief.dimension dim)) ∨
      ∃ c ∈ r.materialChanges base, ∃ q ∈ d.parameters, c.coversParameter q = true ∧
        q.name = name ∧ v = .text c.material := by
  rcases lookup_materialUpdates_cases h with hmaterial | ⟨hunpainted, hvalues⟩
  · exact Or.inr hmaterial
  · rcases lookup_foldl_writeDimension_cases _ hvalues with
      ⟨before, dim, after, p, hsplit, hp, hname, hv, hlater⟩ | hempty
    · obtain ⟨before', rest, hmatched, -, hrest⟩ := List.map_eq_append_iff.mp hsplit
      obtain ⟨⟨dim', label⟩, after', hcons, hdim, hafter⟩ := List.map_eq_cons_iff.mp hrest
      dsimp only at hdim
      subst hname hdim hcons
      refine Or.inl ⟨dim', p, ⟨?_, ⟨before', label, after', hmatched, ?_⟩, hunpainted⟩, rfl, hv⟩
      · rw [hreadable dim', hp]
      · intro later hmem q hq
        rw [hreadable later.1] at hq
        exact hlater later.1 (hafter ▸ List.mem_map_of_mem hmem) q (Except.ok.inj hq)
    · cases hempty

/-! ### What can be written -/

/-- Whether a value is a real number or a text. -/
def IsPlain (v : Json) : Prop := (∃ x, v = .real x) ∨ ∃ s, v = .text s

/-- Whether all values that are found are plain. -/
def AllPlain (values : Fields) : Prop := ∀ name v, values.lookup name = some v → IsPlain v

/-- A plain value keeps the values plain. -/
theorem AllPlain.put {values : Fields} (h : AllPlain values) (name : Text) {v : Json}
    (hv : IsPlain v) : AllPlain (Entries.put values name v) := by
  intro name' v' hlookup
  rw [Entries.lookup_put] at hlookup
  split at hlookup
  · cases hlookup
    exact hv
  · exact h name' v' hlookup

theorem allPlain_foldl {α : Type} {step : Fields → α → Fields}
    (hstep : ∀ values x, AllPlain values → AllPlain (step values x)) (items : List α)
    {values : Fields} (h : AllPlain values) : AllPlain (items.foldl step values) := by
  induction items generalizing values with
  | nil => exact h
  | cons x rest ih => exact ih (hstep values x h)

/-- Only real numbers and texts are written. -/
theorem allPlain_newValues (r : Reading) (d : Design) (base : Brief) :
    AllPlain (r.newValues d base) := by
  have hempty : AllPlain [] := by
    intro name v hlookup
    cases hlookup
  refine allPlain_foldl ?_ _ (allPlain_foldl ?_ _ hempty)
  · intro values c h
    exact allPlain_foldl (fun values p h => h.put p.name (Or.inr ⟨_, rfl⟩)) _ h
  · intro values dim h
    unfold writeDimension
    split
    · exact h.put _ (Or.inl ⟨_, rfl⟩)
    · exact h

end Reading

/-! ## The patched design -/

namespace Parameter

variable (values : Fields) (p : Parameter)

@[simp] theorem name_update : (p.update values).name = p.name := by
  unfold update
  split <;> rfl

/-- The default of a parameter that is updated is the value under its name, if there is one. -/
theorem default_update : (p.update values).default = (values.lookup p.name).getD p.default := by
  unfold update
  split
  · next v h =>
    rw [h]
    rfl
  · next h =>
    rw [h]
    rfl

end Parameter

namespace Design

/-- The design with new values under names of parameters, and with other material slots. -/
def patched (d : Design) (values : Fields) (slots : List MaterialSlot) : Design :=
  (({ d with materials := slots } : Design).mapParameters (·.update values)).mapTypes
    (·.update values)

/-- The material slots after a reading, one change after the other. -/
def newSlots (d : Design) (r : Reading) (base : Brief) : List MaterialSlot :=
  (r.materialChanges base).foldl (fun slots c => slots.map c.onSlot) d.materials

/-- **A refined design is a patched one**, and there is one whenever the brief of the design can be
read. -/
theorem refine_eq_patched {d : Design} {base : Brief} (h : Brief.ofDesign d = .ok base)
    (r : Reading) : d.refine r = .ok (d.patched (r.newValues d base) (d.newSlots r base)) :=
  bind_eq_ok_iff.mpr ⟨_, Reading.dimensionUpdates_eq (Brief.readable_of_ofDesign h) r,
    bind_eq_ok_iff.mpr ⟨base, h, rfl⟩⟩

/-- To refine a design is to patch it with the new values and some slots. -/
theorem refine_eq {d : Design} {base : Brief} (h : Brief.ofDesign d = .ok base) (r : Reading) :
    ∃ slots, d.refine r = .ok (d.patched (r.newValues d base) slots) :=
  ⟨_, refine_eq_patched h r⟩

variable (d : Design) (values : Fields) (slots : List MaterialSlot)

theorem parameters_patched :
    (d.patched values slots).parameters = d.parameters.map (·.update values) := by
  unfold parameters patched mapTypes mapParameters
  cases d.parameterSet <;> rfl

theorem types_patched : (d.patched values slots).types = d.types.map (·.update values) := by
  unfold types patched mapTypes mapParameters
  cases d.parameterSet <;> rfl

/-- A parameter that is found by its name is found in its place. -/
theorem findParameter?_patched (fragment : Text) :
    (d.patched values slots).findParameter? fragment
      = (d.findParameter? fragment).map (·.update values) := by
  unfold findParameter?
  rw [parameters_patched, List.find?_map]
  congr 2
  funext p
  exact congrArg (fun name => Text.contains (Text.lower name) (Text.lower fragment))
    (Parameter.name_update values p)

end Design

end FamilyDesign
