import FamilyDesign.Proofs.Prompt.Lengths

/-!
# What a text makes of a brief

Whatever a text says, the lengths of a brief stay unsigned numbers and its category one of four.
Only an inset can be read that is too large for a pane of glass; a text is held to a limit for that.

* **`Brief.Sound`** — a brief from which a sound design is made.
* **`InsetWithinLimit`** — a text names no inset above the limit.
* **`sound_ofText`** — reading such a text on top of a sound brief, or on none, gives a sound one.
-/

namespace FamilyDesign

open Numeric (Binary64)

namespace Brief

/-- The categories that a text can suggest. -/
def categories : List Text := ["Doors", "Windows", "Furniture", genericCategory]

/-- The greatest inset, in feet, at which a pane of glass keeps its thickness. -/
def insetLimit : Binary64 := 1000000

/-- A brief with unsigned lengths, an inset within the limit and one of the four categories. -/
structure Sound (b : Brief) : Prop where
  unsigned : ∀ d, (b.dimension d).Unsigned
  inset_le : b.inset ≤ insetLimit
  category_mem : b.category ∈ categories

/-- The brief that a reading starts from is sound. -/
theorem sound_default : Sound {} where
  unsigned d := by
    cases d with
    | width => exact Numeric.Binary64.unsigned_ofNat 2
    | height => exact Numeric.Binary64.unsigned_ofNat 4
    | sillHeight => exact Numeric.Binary64.unsigned_ofNat 3
    | inset => exact Numeric.Binary64.unsigned_ofScientific 5 true 2
  inset_le := by decide +kernel
  category_mem := by decide

/-- To set a dimension leaves the other ones. -/
theorem dimension_withDimension (b : Brief) (d d' : Dimension) (x : Binary64) :
    (b.withDimension d x).dimension d' = if d' = d then x else b.dimension d' := by
  cases d <;> cases d' <;> rfl

/-- A sound brief with another length. -/
theorem Sound.withDimension {b : Brief} (h : b.Sound) {d : Dimension} {x : Binary64}
    (hx : x.Unsigned) (hlimit : d = .inset → x ≤ insetLimit) : (b.withDimension d x).Sound where
  unsigned d' := by
    rw [dimension_withDimension]
    split
    · exact hx
    · exact h.unsigned d'
  inset_le := by
    have hinset : (b.withDimension d x).inset = if Dimension.inset = d then x else b.inset :=
      dimension_withDimension b d .inset x
    rw [hinset]
    split
    · next heq => exact hlimit heq.symm
    · exact h.inset_le
  category_mem := by
    cases d <;> exact h.category_mem

/-- The category of a text is always one of those that there are words for. -/
theorem categoryOf_mem (text : Text) : categoryOf text ∈ categories := by
  unfold categoryOf
  split
  · decide
  · split
    · decide
    · split
      · decide
      · decide

end Brief

namespace Reading

/-- Whether a text names no inset above the limit. -/
def InsetWithinLimit (text : Text) : Prop :=
  ∀ b ∈ (Prompt.bindings text).lookup .inset, (lengthOf b.quantity).1 ≤ Brief.insetLimit

instance (text : Text) : Decidable (InsetWithinLimit text) :=
  inferInstanceAs (Decidable (∀ b ∈ (Prompt.bindings text).lookup .inset,
    (lengthOf b.quantity).1 ≤ Brief.insetLimit))

/-- Induction on the dimensions that are left. -/
theorem sound_dimensions {text : Text} (htext : InsetWithinLimit text) {r : Reading}
    (h : r.brief.Sound) : (dimensions (Prompt.bindings text) r).brief.Sound := by
  unfold dimensions
  generalize Dimension.all = all
  induction all generalizing r with
  | nil => exact h
  | cons d rest ih =>
    rw [List.foldl_cons]
    refine ih ?_
    split
    · next b hb =>
      refine h.withDimension (unsigned_lengthOf hb) ?_
      rintro rfl
      exact htext b hb
    · exact h

/-- The words of a text change no length. -/
theorem sound_words (text : Text) (fresh : Bool) {b : Brief} (h : b.Sound) :
    (words text fresh b).Sound where
  unsigned d := by
    cases d with
    | width => exact h.unsigned .width
    | height => exact h.unsigned .height
    | sillHeight => exact h.unsigned .sillHeight
    | inset => exact h.unsigned .inset
  inset_le := h.inset_le
  category_mem := by
    show (if categoryOf text ≠ genericCategory ∨ fresh = true then categoryOf text
      else b.category) ∈ Brief.categories
    split
    · exact Brief.categoryOf_mem text
    · exact h.category_mem

/-- **A text within the limit makes a sound brief of a sound one.** -/
theorem sound_ofText {text : Text} (htext : InsetWithinLimit text) {base : Option Brief}
    (h : ∀ b ∈ base, b.Sound) : (ofText text base).brief.Sound := by
  refine sound_words text base.isNone (sound_dimensions htext ?_)
  cases base with
  | none => exact Brief.sound_default
  | some b => exact h b rfl

end Reading

end FamilyDesign
