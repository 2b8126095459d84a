import FamilyDesign.Job.Order
import FamilyDesign.Proofs.Brief.Patching

/-!
# Submitting refined designs

A dimension that a text names is written into the parameter that carries it, and an order takes each
length from the first parameter whose name speaks of it. These are looked up by different rules: the
height of a sill speaks of a height but does not carry it, and neither does a parameter with a
formula. Two dimensions may also share one parameter, and the material of a sash may take its place.

* **`Order.lengthOf_of_ofDesign`** — where an order takes its lengths from.
* **`refined_order`** — what a refined dimension is submitted as: it is the one that was read if
  both rules find a parameter of one name, and nothing later is written under it.
* **`refined_order_not`** — three designs and texts where it is another.
-/

namespace FamilyDesign.Job

open Numeric (Binary64)

/-- The length that stands in for a dimension that no parameter speaks of. -/
def standardLength (dim : Dimension) : Binary64 := ({} : Brief).dimension dim

namespace Order

/-- The length of an order for a dimension. -/
def length (o : Order) : Dimension → Binary64
  | .width => o.width
  | .height => o.height
  | .sillHeight => o.sillHeight
  | .inset => o.inset

/-- Where an order takes its lengths from. -/
theorem lengthOf_of_ofDesign {d : Design} {o : Order} (h : Order.ofDesign d = .ok o)
    (dim : Dimension) : lengthOf d dim.fragment (standardLength dim) = .ok (o.length dim) := by
  obtain ⟨width, hwidth, h⟩ := bind_eq_ok_iff.mp h
  obtain ⟨height, hheight, h⟩ := bind_eq_ok_iff.mp h
  obtain ⟨inset, hinset, h⟩ := bind_eq_ok_iff.mp h
  obtain ⟨sillHeight, hsillHeight, h⟩ := bind_eq_ok_iff.mp h
  cases h
  cases dim with
  | width => exact hwidth
  | height => exact hheight
  | sillHeight => exact hsillHeight
  | inset => exact hinset

/-- There is an order for a design just if its four lengths are in range. -/
theorem exists_ofDesign_iff {d : Design} : (∃ o, Order.ofDesign d = .ok o) ↔
    ∀ dim : Dimension, ∃ x, lengthOf d dim.fragment (standardLength dim) = .ok x := by
  constructor
  · rintro ⟨o, ho⟩ dim
    exact ⟨_, lengthOf_of_ofDesign ho dim⟩
  · intro h
    obtain ⟨width, hwidth⟩ := h .width
    obtain ⟨height, hheight⟩ := h .height
    obtain ⟨inset, hinset⟩ := h .inset
    obtain ⟨sillHeight, hsillHeight⟩ := h .sillHeight
    exact ⟨_, bind_eq_ok_iff.mpr ⟨width, hwidth, bind_eq_ok_iff.mpr ⟨height, hheight,
      bind_eq_ok_iff.mpr ⟨inset, hinset, bind_eq_ok_iff.mpr ⟨sillHeight, hsillHeight, rfl⟩⟩⟩⟩⟩

end Order

/-! ## The lengths of a patched design -/

section Patched

variable {d : Design} {values : Fields} {fragment : Text} {otherwise : Binary64} {first : Parameter}

/-- There is a length just if the default of the first parameter that speaks of it is in range. -/
theorem exists_lengthOf_iff (hfirst : d.findParameter? fragment = some first) :
    (∃ x, lengthOf d fragment otherwise = .ok x) ↔
      ∀ fault, first.default.toReal = .error fault → fault.isRange = false := by
  unfold lengthOf
  rw [hfirst]
  dsimp only
  cases first.default.toReal with
  | ok x => exact iff_of_true ⟨x, rfl⟩ nofun
  | error fault =>
    dsimp only
    cases hrange : fault.isRange with
    | true => simp [hrange]
    | false => simp [hrange]

/-- A length that is written under the name of the first parameter that speaks of it. -/
theorem lengthOf_patched (slots : List MaterialSlot)
    (hfirst : d.findParameter? fragment = some first) {x : Binary64}
    (hvalue : values.lookup first.name = some (.real x)) :
    lengthOf (d.patched values slots) fragment otherwise = .ok x := by
  have hdefault : (first.update values).default.toReal = .ok x := by
    rw [Parameter.default_update, hvalue]
    rfl
  unfold lengthOf
  rw [Design.findParameter?_patched, hfirst]
  dsimp only [Option.map_some]
  rw [hdefault]

/-- A text that is no number is not out of range. -/
theorem isRange_of_isPlain {v : Json} (h : Reading.IsPlain v) {fault : NumberFault}
    (hfault : v.toReal = .error fault) : fault.isRange = false := by
  rcases h with ⟨x, rfl⟩ | ⟨s, rfl⟩
  · cases hfault
  · unfold Json.toReal at hfault
    dsimp only at hfault
    cases hread : Numeric.freeReal? s with
    | some x =>
      rw [hread] at hfault
      cases hfault
    | none =>
      rw [hread] at hfault
      cases hfault
      rfl

/-- Where plain values are written a length that was in range stays so. -/
theorem exists_lengthOf_patched (slots : List MaterialSlot) (hplain : Reading.AllPlain values)
    (h : ∃ x, lengthOf d fragment otherwise = .ok x) :
    ∃ x, lengthOf (d.patched values slots) fragment otherwise = .ok x := by
  cases hfirst : d.findParameter? fragment with
  | none =>
    refine ⟨otherwise, ?_⟩
    unfold lengthOf
    rw [Design.findParameter?_patched, hfirst]
    rfl
  | some first =>
    have hpatched : (d.patched values slots).findParameter? fragment
        = some (first.update values) := by
      rw [Design.findParameter?_patched, hfirst]
      rfl
    -- A default that was put in place is plain, so it is no number out of range.
    rw [exists_lengthOf_iff hfirst] at h
    rw [exists_lengthOf_iff hpatched, Parameter.default_update]
    cases hvalue : values.lookup first.name with
    | none => exact h
    | some v => exact fun fault hfault => isRange_of_isPlain (hplain first.name v hvalue) hfault

end Patched

/-! ## Refined designs -/

/-- **What a refined dimension is submitted as.** Of a design whose brief can be read: it is
refined, there is an order for it if there was one before, and the order has each matched dimension
as it was read whose parameter has the name of the first one that speaks of the dimension, unless
something later is written under that name. -/
theorem refined_order {d : Design} {base : Brief} (hbase : Brief.ofDesign d = .ok base)
    (feedback : Text) :
    ∃ refined, d.refine (Reading.ofText feedback (some base)) = .ok refined ∧
      ((∃ o, Order.ofDesign d = .ok o) → ∃ o, Order.ofDesign refined = .ok o) ∧
      ∀ o, Order.ofDesign refined = .ok o → ∀ dim p first,
        (Reading.ofText feedback (some base)).Decides d base dim p →
        d.findParameter? dim.fragment = some first → first.name = p.name →
          o.length dim = (Reading.ofText feedback (some base)).brief.dimension dim := by
  generalize Reading.ofText feedback (some base) = r
  obtain ⟨slots, hrefine⟩ := Design.refine_eq hbase r
  refine ⟨_, hrefine, ?_, ?_⟩
  · intro horder
    rw [Order.exists_ofDesign_iff] at horder ⊢
    intro dim
    exact exists_lengthOf_patched slots (r.allPlain_newValues d base) (horder dim)
  · -- The order looks for the first parameter; the patch writes under the name of the one that was
    -- matched.
    intro o ho dim p first hdecides hfirst hname
    have hvalue := Reading.lookup_newValues_dimension (Brief.readable_of_ofDesign hbase) hdecides
    rw [← hname] at hvalue
    have hlength := Order.lengthOf_of_ofDesign ho dim
    rw [lengthOf_patched slots hfirst hvalue] at hlength
    exact (Except.ok.inj hlength).symm

/-- A design with parameters alone. -/
def designOf (parameters : List Parameter) : Design :=
  { parameterSet := some { family := parameters } }

/-- A design with a width, and a half of it by a formula. -/
def halvedWidth : Design :=
  designOf [{ name := "Width", default := .real 4 },
    { name := "HalfWidth", default := .real 2, formula := some "Width / 2" }]

/-- The width that is named is submitted. -/
theorem refined_order_halvedWidth :
    ∃ base refined o, Brief.ofDesign halvedWidth = .ok base ∧
      halvedWidth.refine (Reading.ofText "3 ft wide" (some base)) = .ok refined ∧
      Order.ofDesign refined = .ok o ∧ o.width = 3 := by
  have hbase : Brief.ofDesign halvedWidth = .ok { width := 4 } := rfl
  have hmatched : (Reading.ofText "3 ft wide" (some { width := 4 })).matched
      = ([(.width, "3 ft wide")] : List (Dimension × Text)) := by
    decide +kernel
  have hwidth : (Reading.ofText "3 ft wide" (some { width := 4 })).brief.dimension .width = 3 := by
    decide +kernel
  obtain ⟨refined, hrefine, horder, hlengths⟩ := refined_order hbase "3 ft wide"
  obtain ⟨o, ho⟩ := horder ⟨_, rfl⟩
  refine ⟨_, refined, o, hbase, hrefine, ho, ?_⟩
  rw [← hwidth]
  refine hlengths o ho .width _ _ ⟨rfl, ⟨[], _, [], hmatched, nofun⟩, ?_⟩ rfl rfl
  -- neither parameter is a material
  intro c _ q hq hcovers
  have htypes : ∀ q ∈ halvedWidth.parameters, (q.type == "Material") = false := by
    decide +kernel
  unfold MaterialChange.coversParameter at hcovers
  rw [htypes q hq] at hcovers
  cases hcovers

/-! ## Dimensions that are submitted as another length -/

/-- Whether every dimension that a text names and a parameter carries is submitted as it was
read. -/
def SubmitsAsRead (d : Design) (feedback : Text) : Prop :=
  ∀ base refined o, Brief.ofDesign d = .ok base →
    d.refine (Reading.ofText feedback (some base)) = .ok refined →
    Order.ofDesign refined = .ok o →
    ∀ dim ∈ (Reading.ofText feedback (some base)).matched.map (·.1),
      (d.carrier? dim).isSome = true →
        o.length dim = (Reading.ofText feedback (some base)).brief.dimension dim

/-- What was read in a text, and the order for the design that is refined by it. -/
def refinement? (d : Design) (feedback : Text) : Option (Reading × Order) := do
  let base ← (Brief.ofDesign d).toOption
  let r := Reading.ofText feedback (some base)
  let refined ← (d.refine r).toOption
  let o ← (Order.ofDesign refined).toOption
  some (r, o)

/-- The lengths of a dimension that is matched and carried: as submitted, and as read. -/
def lengths? (d : Design) (feedback : Text) (dim : Dimension) : Option (Binary64 × Binary64) :=
  (refinement? d feedback).bind fun (r, o) =>
    if dim ∈ r.matched.map (·.1) ∧ (d.carrier? dim).isSome = true then
      some (o.length dim, r.brief.dimension dim)
    else none

/-- A result as an option is there just if there was no fault. -/
theorem toOption_eq_some_iff {α ε : Type} {x : Except ε α} {a : α} :
    x.toOption = some a ↔ x = .ok a := by
  cases x with
  | error fault => exact ⟨nofun, nofun⟩
  | ok b => exact ⟨fun h => congrArg Except.ok (Option.some.inj h), fun h => by cases h; rfl⟩

/-- A dimension whose two lengths differ is not submitted as it was read. -/
theorem not_submitsAsRead {d : Design} {feedback : Text} (dim : Dimension) (x y : Binary64)
    (h : lengths? d feedback dim = some (x, y)) (hne : x ≠ y) : ¬SubmitsAsRead d feedback := by
  obtain ⟨⟨r, o⟩, hrefinement, hlengths⟩ := Option.bind_eq_some_iff.mp h
  obtain ⟨base, hbase, hrest⟩ := Option.bind_eq_some_iff.mp hrefinement
  obtain ⟨refined, hrefined, hrest⟩ := Option.bind_eq_some_iff.mp hrest
  obtain ⟨o', ho, heq⟩ := Option.bind_eq_some_iff.mp hrest
  cases heq
  rw [Option.ite_none_right_eq_some] at hlengths
  obtain ⟨hcarried, hpair⟩ := hlengths
  cases hpair
  intro hsubmits
  exact hne (hsubmits base refined o (toOption_eq_some_iff.mp hbase)
    (toOption_eq_some_iff.mp hrefined) (toOption_eq_some_iff.mp ho) dim hcarried.1 hcarried.2)

/-- A design whose first parameter that speaks of a height is that of a sill. -/
def sillFirst : Design :=
  designOf [{ name := "SillHeight", default := .real 3 }, { name := "Height", default := .real 4 }]

/-- A design with one parameter for a width and an inset. -/
def insetWidth : Design := designOf [{ name := "InsetWidth", default := .real 2 }]

/-- A design whose width is a material by its type. -/
def sashWidth : Design :=
  designOf [{ name := "SashWidth", type := "Material", default := .text "2" }]

/-- The height of a sill is submitted as the height, an inset as the width, and the standard width
in place of a material. -/
theorem refined_order_not :
    ¬SubmitsAsRead sillFirst "height 5 ft" ∧ ¬SubmitsAsRead insetWidth "3 ft wide, inset 2 in" ∧
      ¬SubmitsAsRead sashWidth "3 ft wide, wood" := by
  refine ⟨?_, ?_, ?_⟩
  · exact not_submitsAsRead .height 3 5 (by decide +kernel)
      (by decide +kernel)
  · exact not_submitsAsRead .width (2 / 12) 3 (by decide +kernel)
      (by decide +kernel)
  · exact not_submitsAsRead .width 2 3 (by decide +kernel)
      (by decide +kernel)

end FamilyDesign.Job
