import FamilyDesign.Proofs.Brief.Rebuilding
import FamilyDesign.Proofs.Desk.Offline

/-!
# Designs of a brief are made anew

A brief with finite lengths and a category makes a design that tells what it was made from. The
brief that is read back makes the same design again, even where it is not the same brief: the style
of anything but a window is told by nothing, and a style that no window is known by is told as
fixed. So a desk recognises such a design and refines it by making it anew.

* **`Brief.restyled_of_known`** — a window of a known style is read back as it was.
* **`remade`** — what is read back, and what a refinement makes of it.
-/

namespace FamilyDesign

namespace Brief

/-- The styles that windows are known by. -/
def windowStyles : List Text := [doubleHung, slidingDouble, fixedWindow]

/-- The name of the family tells a known style of a window. -/
theorem restyled_of_known {b : Brief} (hwindows : b.category = "Windows")
    (hstyle : b.windowStyle ∈ windowStyles) : b.restyled = b := by
  have htold : ∀ style ∈ windowStyles,
      windowStyleOf ("Generated " ++ (if style = doubleHung then ("Window" : Text)
        else if style = slidingDouble then "Sliding Window" else "Fixed Window") ++ " "
        ++ "Windows") = style := by
    decide +kernel
  unfold restyled
  rw [familyLabel_windows hwindows, hwindows, htold b.windowStyle hstyle, ← hwindows]

end Brief

namespace Desk

/-- **A design of a brief is read back, recognised and made anew.** What is read back makes the same
design, and it is the brief itself for a window of a known style. Where the assistant gives no
design a refinement makes a new one of what is read in its text on top of that brief. -/
theorem remade {b : Brief} (hfinite : ∀ dim, (b.dimension dim).isFinite = true)
    (hcategory : b.category.isEmpty = false) :
    ∃ base, Brief.ofDesign b.toDesign = .ok base ∧ base.toDesign = b.toDesign ∧
      b.toDesign.isMadeFrom base = true ∧
      (b.category = "Windows" → b.windowStyle ∈ Brief.windowStyles → base = b) ∧
      ∀ {σ : Type} (tools : DeskTools σ) (desk : Desk σ) (id feedback : Text)
        (given : Option Design) (now : Instant),
        given.or (desk.design? id) = some b.toDesign →
        (desk.proposal tools (desk.refinementQuery id feedback b.toDesign)).1 = .ok none →
        ∀ r, tools.read feedback (some base) = .ok r →
          ∃ draft, (desk.refine tools id feedback given now).1 = .ok draft ∧
            draft.design = r.brief.toDesign := by
  have hdrawable := Brief.drawable_of_isFinite hfinite
  refine ⟨b.restyled, Brief.ofDesign_toDesign hcategory, Brief.toDesign_restyled b,
    Brief.isMadeFrom_toDesign hdrawable, Brief.restyled_of_known, ?_⟩
  intro σ tools desk id feedback given now hgiven hproposal r hread
  have hrefine := refine_of_no_proposal hgiven hproposal now
  rw [Brief.revise_toDesign_of_read hdrawable hcategory hread] at hrefine
  obtain ⟨draft, hdraft, -, hdesign⟩ := hrefine
  exact ⟨draft, hdraft, hdesign⟩

/-- A window with a negative inset, of which the materials are named like styles of windows. -/
def slidingBrief : Brief where
  width := 3.5
  inset := -0.25
  category := "Windows"
  windowStyle := slidingDouble
  glass := "fixed glass"
  sash := "double"

/-- It is read back as it was, and a desk without an assistant makes it anew with another width. -/
theorem remade_slidingBrief :
    Brief.ofDesign slidingBrief.toDesign = .ok slidingBrief ∧
      (Reading.ofText "1200 mm wide" (some slidingBrief)).brief.width = 1200 / 304.8 ∧
      ∃ draft, (Desk.refine {} ⟨(), {}⟩ "s" "1200 mm wide" (some slidingBrief.toDesign) ⟨0⟩).1
          = .ok draft ∧
        draft.design = (Reading.ofText "1200 mm wide" (some slidingBrief)).brief.toDesign := by
  have hfinite : ∀ dim, (slidingBrief.dimension dim).isFinite = true := by
    intro dim
    cases dim <;> decide +kernel
  let desk : Desk Unit := ⟨(), {}⟩
  obtain ⟨base, hbase, -, -, hsame, hrefined⟩ := remade hfinite (by decide +kernel)
  cases hsame rfl (by decide +kernel)
  exact ⟨hbase, by decide +kernel, hrefined {} desk "s" "1200 mm wide"
    (some slidingBrief.toDesign) ⟨0⟩ rfl rfl _ rfl⟩

end Desk

end FamilyDesign
