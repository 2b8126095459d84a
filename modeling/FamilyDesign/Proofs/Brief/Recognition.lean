import FamilyDesign.Desk.Revision
import FamilyDesign.Proofs.Json.Same
import FamilyDesign.Proofs.Quality.Fitting

/-!
# What a recognised design shares with its brief

A design is recognised if it is the same as what its own brief makes. Then it declares the
parameters of that brief, with one type that binds equal values to them. Where these pass, the
lengths of the brief are defined, and a text read on top of it makes a brief of which a design can
be built.

* **`Design.SharesParameters`**, **`sharesParameters_of_isMadeFrom`** — parameters and bindings.
* **`Design.defined_of_isMadeFrom`** — the lengths of the brief of a ready design.
* **`Design.ready_remade`** — a ready design that is made anew is ready.
-/

namespace FamilyDesign

open Numeric (Binary64)

/-! ## Values that are the same -/

namespace Json

/-- Fields that are the same have a value like each of theirs under its key. -/
theorem lookup_of_sameFields {xs ys : Fields} (h : sameFields xs ys = true) {e : Text × Json}
    (he : e ∈ xs) : ∃ w, ys.lookup e.1 = some w ∧ e.2.same w = true := by
  induction xs with
  | nil => cases he
  | cons x rest ih =>
    obtain ⟨key, v⟩ := x
    rw [sameFields, Bool.and_eq_true] at h
    rcases List.mem_cons.mp he with rfl | he
    · cases hlookup : ys.lookup key with
      | none =>
        rw [hlookup] at h
        cases h.1
      | some w =>
        rw [hlookup] at h
        exact ⟨w, rfl, h.1⟩
    · exact ih h.2 he

/-- Items that are the same have one like each of theirs. -/
theorem exists_of_sameItems {xs ys : List Json} (h : sameItems xs ys = true) :
    ∀ x ∈ xs, ∃ y ∈ ys, x.same y = true := by
  induction xs generalizing ys with
  | nil => exact List.forall_mem_nil _
  | cons x xs ih =>
    cases ys with
    | nil => cases h
    | cons y ys =>
      rw [sameItems, Bool.and_eq_true] at h
      rw [List.forall_mem_cons]
      refine ⟨⟨y, List.mem_cons_self, h.1⟩, fun x' hx' => ?_⟩
      obtain ⟨y', hy', hsame⟩ := ih h.2 x' hx'
      exact ⟨y', List.mem_cons_of_mem _ hy', hsame⟩

/-- Texts are the same just if they are equal. -/
theorem eq_of_same_text {s s' : Text} (h : (text s).same (text s') = true) : s = s' := by
  rw [same] at h
  exact eq_of_beq h

/-- The fields of an object that is the same as another have equal ones there. -/
theorem same_of_same_object {xs ys : Fields} (h : (object xs).same (object ys) = true)
    {e : Text × Json} (he : e ∈ xs) {w : Json} (hw : ys.lookup e.1 = some w) :
    e.2.same w = true := by
  rw [same, Bool.and_eq_true] at h
  obtain ⟨w', hw', hsame⟩ := lookup_of_sameFields h.2 he
  rw [hw] at hw'
  cases hw'
  exact hsame

/-- Each item of a list has its like in a list that is the same. -/
theorem exists_of_same_writeList {α : Type} {write : α → Json} {xs ys : List α}
    (h : (writeList write xs).same (writeList write ys) = true) :
    ∀ x ∈ xs, ∃ y ∈ ys, (write x).same (write y) = true := by
  unfold writeList at h
  rw [same] at h
  intro x hx
  obtain ⟨w, hw, hsame⟩ := exists_of_sameItems h (write x) (List.mem_map_of_mem hx)
  obtain ⟨y, hy, rfl⟩ := List.mem_map.mp hw
  exact ⟨y, hy, hsame⟩

/-- Just an undefined number is the same as one. -/
theorem exists_undefined_of_same {shared : Bool} {w : Json}
    (h : (real (.nan shared)).same w = true) :
    ∃ y : Binary64, w = real y ∧ y.isUndefined = true := by
  cases w with
  | null => cases h
  | bool b => cases h
  | int n => cases h
  | real y =>
    refine ⟨y, rfl, ?_⟩
    cases y with
    | nan shared' => rfl
    | ranked negative rank bounded => cases h
  | text s => cases h
  | array items => cases h
  | object fields => cases h

end Json

/-! ## Designs that are the same -/

/-- Parameters that are written the same have one name and one type. -/
theorem Parameter.eq_of_same {p q : Parameter} (h : (p.write .asIs).same (q.write .asIs) = true) :
    q.name = p.name ∧ q.type = p.type := by
  have hname := Json.same_of_same_object h (e := (nameName.wire, .text p.name))
    List.mem_cons_self rfl
  have htype := Json.same_of_same_object h (e := (typeName.wire, .text p.type))
    (List.mem_cons_of_mem _ List.mem_cons_self) rfl
  exact ⟨(Json.eq_of_same_text hname).symm, (Json.eq_of_same_text htype).symm⟩

/-- Under each name that a type binds, a type that is the same binds an equal value. -/
theorem FamilyType.exists_binding_of_same {t t' : FamilyType}
    (h : (t.write .asIs).same (t'.write .asIs) = true) {b : Text × Json} (hb : b ∈ t.bindings) :
    ∃ w, (b.1, w) ∈ t'.bindings ∧ b.2.same w = true := by
  have hbindings : (Json.object t.bindings).same (.object t'.bindings) = true :=
    Json.same_of_same_object h (e := (bindingsName.wire, .object t.bindings))
      (List.mem_cons_of_mem _ List.mem_cons_self) rfl
  rw [Json.same, Bool.and_eq_true] at hbindings
  obtain ⟨w, hw, hsame⟩ := Json.lookup_of_sameFields hbindings.2 hb
  obtain ⟨before, after, hsplit, -⟩ := List.lookup_eq_some_iff.mp hw
  refine ⟨w, ?_, hsame⟩
  rw [hsplit]
  exact List.mem_append_right _ List.mem_cons_self

namespace Design

/-- A design in which each parameter and each type of another has its like. -/
structure SharesParameters (made d : Design) : Prop where
  parameters : ∀ p ∈ made.parameters,
    ∃ q ∈ d.parameters, (p.write .asIs).same (q.write .asIs) = true
  types : ∀ t ∈ made.types, ∃ t' ∈ d.types, (t.write .asIs).same (t'.write .asIs) = true

/-- A design that is the same as one made of a brief has parameters and types like its own. -/
theorem sharesParameters_of_same {made d : Design} {set : ParameterSet}
    (hset : made.parameterSet = some set) (h : made.same d = true) : made.SharesParameters d := by
  -- the set of parameters is the third of the fields that are compared
  have hsets := Json.same_of_same_object h
    (e := (parametersName.wire, Document.optional (ParameterSet.write .asIs) made.parameterSet))
    (List.mem_cons_of_mem _ (List.mem_cons_of_mem _ List.mem_cons_self)) rfl
  rw [hset] at hsets
  cases hset' : d.parameterSet with
  | none =>
    rw [hset'] at hsets
    cases hsets
  | some set' =>
    rw [hset'] at hsets
    have hfamily := Json.same_of_same_object hsets
      (e := (ParameterSet.familyName.wire, writeList (Parameter.write .asIs) set.family))
      List.mem_cons_self rfl
    have htypes := Json.same_of_same_object hsets
      (e := (ParameterSet.typesName.wire, writeList (FamilyType.write .asIs) set.types))
      (List.mem_cons_of_mem _ (List.mem_cons_of_mem _ List.mem_cons_self)) rfl
    have hparts : made.parameters = set.family ∧ made.types = set.types ∧
        d.parameters = set'.family ∧ d.types = set'.types := by
      unfold parameters types
      rw [hset, hset']
      exact ⟨rfl, rfl, rfl, rfl⟩
    obtain ⟨hmade, hmadeTypes, hd, hdTypes⟩ := hparts
    refine ⟨?_, ?_⟩
    · rw [hmade, hd]
      exact Json.exists_of_same_writeList hfamily
    · rw [hmadeTypes, hdTypes]
      exact Json.exists_of_same_writeList htypes

/-- **A recognised design shares the parameters of what its brief makes.** -/
theorem sharesParameters_of_isMadeFrom {d : Design} {base : Brief}
    (h : d.isMadeFrom base = true) : base.toDesign.SharesParameters d := by
  refine sharesParameters_of_same rfl ?_
  unfold isMadeFrom newlySame Json.newlySame at h
  rw [Bool.and_eq_true] at h
  exact h.2

/-! ## The brief of a ready design -/

/-- A value that a shared type binds fits what the shared parameter declares. -/
theorem SharesParameters.valueProblem? {made d : Design} (h : made.SharesParameters d)
    (hclean : (Quality.Parameters.check d none).Clean) {p : Parameter} (hp : p ∈ made.parameters)
    {t : FamilyType} (ht : t ∈ made.types) (hb : (p.name, p.default) ∈ t.bindings) :
    ∃ w, p.default.same w = true ∧ FamilyDesign.valueProblem? w p.type = .ok none := by
  obtain ⟨hdeclares, htypes⟩ := Quality.Parameters.clean_check_iff.mp hclean
  obtain ⟨q, hq, hsame⟩ := h.parameters p hp
  obtain ⟨t', ht', hsameType⟩ := h.types t ht
  obtain ⟨hname, htype⟩ := Parameter.eq_of_same hsame
  obtain ⟨w, hw, hvalue⟩ := FamilyType.exists_binding_of_same hsameType hb
  have hfits := (htypes t' ht').2 _ hw
  rw [← hname] at hfits
  exact ⟨w, hvalue, htype ▸ hfits q (definition?_of_declaresWell hdeclares hq)⟩

end Design

namespace Brief

/-- Under the type of a length no undefined number passes. -/
theorem isUndefined_of_valueProblem? {x : Binary64} {w : Json}
    (hsame : (Json.real x).same w = true) (hvalue : valueProblem? w "Length" = .ok none) :
    x.isUndefined = false := by
  cases x with
  | ranked negative rank bounded => rfl
  | nan shared =>
    obtain ⟨y, rfl, hy⟩ := Json.exists_undefined_of_same hsame
    have htype : ValueType.ofName? "Length" = some .length := by decide
    have hreal : ValueType.definedReal? (.real y) = .ok none := by
      show Except.ok (Option.filter (fun x => !x.isUndefined) (some y)) = _
      rw [Option.filter_some, hy]
      rfl
    unfold valueProblem? ValueType.fits at hvalue
    rw [htype] at hvalue
    dsimp only at hvalue
    rw [hreal] at hvalue
    cases hvalue

/-- **The lengths of the brief of a recognised design are defined** if the design passes. -/
theorem defined_of_isMadeFrom {d : Design} {base : Brief} (h : d.isMadeFrom base = true)
    (hclean : (Quality.Parameters.check d none).Clean) (dim : Dimension) :
    (base.dimension dim).isUndefined = false := by
  have hshares := Design.sharesParameters_of_isMadeFrom h
  have hbound : ∀ p ∈ base.parameters,
      (p.name, p.default) ∈ (boundType base.parameters).bindings := fun p hp =>
    List.mem_map_of_mem (f := fun p : Parameter => (p.name, p.default)) hp
  obtain ⟨name, hp⟩ : ∃ name, lengthParameter name (base.dimension dim) ∈ base.parameters := by
    unfold parameters
    cases dim with
    | width => exact ⟨"Width", by simp [dimension]⟩
    | height => exact ⟨"Height", by simp [dimension]⟩
    | sillHeight => exact ⟨"SillHeight", by simp [dimension]⟩
    | inset => exact ⟨"Inset", by simp [dimension]⟩
  obtain ⟨w, hsame, hvalue⟩ := hshares.valueProblem? hclean hp List.mem_cons_self (hbound _ hp)
  exact isUndefined_of_valueProblem? hsame hvalue

/-- Reading dimensions sets nothing else. -/
theorem category_of_foldlM {d : Design} {dims : List Dimension} {b b' : Brief}
    (h : dims.foldlM (readDimension d) b = .ok b') : b'.category = b.category := by
  induction dims generalizing b with
  | nil => exact congrArg category (Except.ok.inj h).symm
  | cons dim rest ih =>
    rw [List.foldlM_cons] at h
    obtain ⟨b₁, hfirst, hrest⟩ := bind_eq_ok_iff.mp h
    rw [ih hrest]
    obtain ⟨p, -, hread⟩ := bind_eq_ok_iff.mp hfirst
    cases p with
    | none => exact congrArg category (Except.ok.inj hread).symm
    | some p =>
      obtain ⟨x, -, hb₁⟩ := bind_eq_ok_iff.mp hread
      rw [← Except.ok.inj hb₁]
      cases dim <;> rfl

/-- The brief that is read from a design has a category. -/
theorem isEmpty_category_of_ofDesign {d : Design} {base : Brief} (h : ofDesign d = .ok base) :
    base.category.isEmpty = false := by
  obtain ⟨b, hfold, hbase⟩ := bind_eq_ok_iff.mp h
  rw [← Except.ok.inj hbase]
  have hdefault : b.category.isEmpty = false := by
    rw [category_of_foldlM hfold]
    rfl
  show (if d.category.isEmpty then b.category else d.category).isEmpty = false
  split
  · exact hdefault
  · next hcategory => simpa using hcategory

end Brief

/-! ## The brief that is read on top -/

namespace Reading

/-- Induction on the dimensions that are left. -/
theorem defined_dimensions (text : Text) {r : Reading}
    (h : ∀ d, (r.brief.dimension d).isUndefined = false) (d : Dimension) :
    ((dimensions (Prompt.bindings text) r).brief.dimension d).isUndefined = false := by
  unfold dimensions
  generalize Dimension.all = all
  induction all generalizing r with
  | nil => exact h d
  | cons d' rest ih =>
    rw [List.foldl_cons]
    refine ih fun d'' => ?_
    split
    · next b hb =>
      show ((r.brief.withDimension d' (lengthOf b.quantity).1).dimension d'').isUndefined = false
      rw [Brief.dimension_withDimension]
      split
      · exact (unsigned_lengthOf hb).defined
      · exact h d''
    · exact h d''

/-- Dimensions leave the category alone. -/
theorem category_dimensions (bindings : List (Dimension × Prompt.Binding)) (r : Reading) :
    (dimensions bindings r).brief.category = r.brief.category := by
  unfold dimensions
  generalize Dimension.all = all
  induction all generalizing r with
  | nil => rfl
  | cons d rest ih =>
    rw [List.foldl_cons, ih]
    split
    · cases d <;> rfl
    · rfl

/-- A design can be built of what is read on top of a brief with defined lengths and a category, as
long as the inset is within the limit. -/
theorem buildable_ofText {text : Text} {base : Brief}
    (hdefined : ∀ d, (base.dimension d).isUndefined = false)
    (hcategory : base.category.isEmpty = false)
    (hinset : (ofText text (some base)).brief.inset ≤ Brief.insetLimit) :
    (ofText text (some base)).brief.Buildable where
  defined d := by
    have hread := defined_dimensions text (r := { brief := base }) hdefined
    cases d with
    | width => exact hread .width
    | height => exact hread .height
    | sillHeight => exact hread .sillHeight
    | inset => exact hread .inset
  inset_le := hinset
  categorised := by
    have hall : ∀ category ∈ Brief.categories, category.isEmpty = false := by
      decide
    -- a text that names no category leaves that of the base
    show (if categoryOf text ≠ genericCategory ∨ false = true then categoryOf text
      else (dimensions (Prompt.bindings text) { brief := base }).brief.category).isEmpty = false
    split
    · exact hall _ (Brief.categoryOf_mem text)
    · rw [category_dimensions]
      exact hcategory

end Reading

namespace Design

/-- **A ready design that is made anew is ready**, with the standard passes, if what was read keeps
its inset within the limit. -/
theorem ready_remade {g : Quality.Gateway} (hpasses : g.passes = Quality.standardPasses)
    {d : Design} (hready : Quality.areReady (g.verdicts d none) = true) {base : Brief}
    (hbase : Brief.ofDesign d = .ok base) (hmade : d.isMadeFrom base = true) {feedback : Text}
    (hinset : (Reading.ofText feedback (some base)).brief.inset ≤ Brief.insetLimit) :
    Quality.areReady
      (g.verdicts (Reading.ofText feedback (some base)).brief.toDesign none) = true := by
  obtain ⟨-, hclean, -⟩ := (Quality.ready_standardPasses_iff hpasses d none).mp hready
  have hbuildable := Reading.buildable_ofText (Brief.defined_of_isMadeFrom hmade hclean)
    (Brief.isEmpty_category_of_ofDesign hbase) hinset
  exact hbuildable.assembly.ready hpasses

end Design

end FamilyDesign
