import FamilyDesign.Proofs.Brief.Recognition
import FamilyDesign.Proofs.Desk.Offline

/-!
# Refining ready designs

A desk that hears nothing from an assistant refines a design itself: it makes anew what it
recognises, and patches anything else. What is made anew stays ready. A patch writes a dimension
into the parameter that carries it, which is told by its name and its default; its declared type is
not asked for, so a count or a text may be given a length.

* **`refine_ready_iff`** — whether the refined design is ready.
* **`refine_ready_of_measures`** — it is if the parameters that carry dimensions measure.
* **`refine_ready_iff_countedPanels`** — a ready design with a count in place of a width, which is
  not.
-/

namespace FamilyDesign.Desk

open Quality (areReady standardPasses)

variable {σ : Type} {tools : DeskTools σ} {desk : Desk σ} {g : Quality.Gateway}

/-- The design of a draft that was refined is the current one. -/
theorem design?_refine (hkept : desk.KeptById) {id feedback : Text} {given : Option Design}
    {now : Instant} {draft : Draft}
    (h : (desk.refine tools id feedback given now).1 = .ok draft) :
    (desk.refine tools id feedback given now).2.design? id = some draft.design := by
  obtain ⟨moment, hrenewed⟩ := (renewal_refine hkept (Prod.ext h rfl)).renewed
  unfold design?
  rw [hrenewed]
  rfl

/-- The revision of a design by a standard reader fails with its brief only. -/
theorem revise_standard_of_error {d : Design} {fault : NumberFault}
    (h : Brief.ofDesign d = .error fault) (feedback : Text) :
    d.revise .standard feedback = .error (.number fault) := by
  unfold Design.revise
  rw [h]
  rfl

/-- **Whether a revision keeps a design ready**: what is recognised stays ready, and anything else
does just if the dimensions that are written fit. -/
theorem revise_ready_iff (hpasses : g.passes = standardPasses) {d : Design}
    (hready : areReady (g.verdicts d none) = true) {base : Brief}
    (hbase : Brief.ofDesign d = .ok base) (feedback : Text) :
    ∃ revised warnings, d.revise .standard feedback = .ok (revised, warnings) ∧
      ((d.isMadeFrom base = true →
          (Reading.ofText feedback (some base)).brief.inset ≤ Brief.insetLimit) →
        (areReady (g.verdicts revised none) = true ↔
          d.isMadeFrom base = true ∨ (Reading.ofText feedback (some base)).Fits d base)) := by
  have hrevise : d.revise .standard feedback
      = ((d.withReading base (Reading.ofText feedback (some base))).mapError .number).map
          fun revised => (revised, Design.revisionWarnings (Reading.ofText feedback (some base))) := by
    unfold Design.revise
    rw [hbase]
    rfl
  rw [hrevise]
  unfold Design.withReading
  -- a design that its brief makes is made anew, any other one is patched
  by_cases hmade : d.isMadeFrom base = true
  · rw [if_pos hmade]
    refine ⟨_, _, rfl, fun hinset => ⟨fun _ => Or.inl hmade, fun _ => ?_⟩⟩
    exact Design.ready_remade hpasses hready hbase hmade (hinset hmade)
  · rw [if_neg hmade]
    obtain ⟨slots, hrefine⟩ := Design.refine_eq hbase (Reading.ofText feedback (some base))
    rw [hrefine]
    refine ⟨_, _, rfl, fun _ => ?_⟩
    obtain ⟨-, hclean, -⟩ := (Quality.ready_standardPasses_iff hpasses d none).mp hready
    rw [Design.ready_patched_iff hpasses hready,
      Reading.fits_newValues_iff (Quality.Parameters.clean_check_iff.mp hclean).1
        (Brief.readable_of_ofDesign hbase)]
    exact ⟨Or.inr, fun h => h.resolve_left hmade⟩

/-- **Whether a refined design is ready**, where the given one was and the assistant gives none. The
refinement fails only if the brief of the design cannot be read. -/
theorem refine_ready_iff (hread : tools.read = .standard) (hpasses : g.passes = standardPasses)
    (hkept : desk.KeptById) {id feedback : Text} {given : Option Design} {d : Design}
    (hgiven : given.or (desk.design? id) = some d)
    (hready : areReady (g.verdicts d none) = true)
    (hproposal : (desk.proposal tools (desk.refinementQuery id feedback d)).1 = .ok none)
    (now : Instant) :
    (∀ fault, Brief.ofDesign d = .error fault →
      (desk.refine tools id feedback given now).1 = .error (.revision (.number fault))) ∧
    ∀ base, Brief.ofDesign d = .ok base →
      ∃ draft, (desk.refine tools id feedback given now).1 = .ok draft ∧
        (desk.refine tools id feedback given now).2.design? id = some draft.design ∧
        ((d.isMadeFrom base = true →
            (Reading.ofText feedback (some base)).brief.inset ≤ Brief.insetLimit) →
          (areReady (g.verdicts draft.design none) = true ↔
            d.isMadeFrom base = true ∨ (Reading.ofText feedback (some base)).Fits d base)) := by
  have hrefine := refine_of_no_proposal hgiven hproposal now
  rw [hread] at hrefine
  constructor
  · -- without a brief there is nothing to read the feedback on top of
    intro fault hfault
    rw [revise_standard_of_error hfault] at hrefine
    exact hrefine
  · intro base hbase
    obtain ⟨revised, warnings, hrevise, hiff⟩ := revise_ready_iff hpasses hready hbase feedback
    rw [hrevise] at hrefine
    obtain ⟨draft, hdraft, -, rfl⟩ := hrefine
    exact ⟨draft, hdraft, design?_refine hkept hdraft, hiff⟩

/-- **A refined design is ready if the parameters that carry dimensions measure.** -/
theorem refine_ready_of_measures (hread : tools.read = .standard)
    (hpasses : g.passes = standardPasses) {id feedback : Text} {given : Option Design} {d : Design}
    (hgiven : given.or (desk.design? id) = some d)
    (hready : areReady (g.verdicts d none) = true)
    (hproposal : (desk.proposal tools (desk.refinementQuery id feedback d)).1 = .ok none)
    {base : Brief} (hbase : Brief.ofDesign d = .ok base)
    (hmeasures : ∀ dim p, d.dimensionParameter? dim = .ok (some p) → d.Binds p.name →
      ValueType.measures p.type = true)
    (hinset : d.isMadeFrom base = true →
      (Reading.ofText feedback (some base)).brief.inset ≤ Brief.insetLimit) (now : Instant) :
    ∃ draft, (desk.refine tools id feedback given now).1 = .ok draft ∧
      areReady (g.verdicts draft.design none) = true := by
  have hrefine := refine_of_no_proposal hgiven hproposal now
  obtain ⟨revised, warnings, hrevise, hiff⟩ := revise_ready_iff hpasses hready hbase feedback
  rw [hread, hrevise] at hrefine
  obtain ⟨draft, hdraft, -, rfl⟩ := hrefine
  exact ⟨draft, hdraft, (hiff hinset).mpr (Or.inr (Reading.fits_of_measures feedback hmeasures))⟩

/-! ## A width that is no length -/

/-- A ready design whose one parameter counts panels over the width. -/
def countedPanels : Design where
  metadata := some { familyName := "Panel", category := "Doors", lod := some 300 }
  geometry := some {
    extrusions := [{
      name := "Panel"
      profile := [{ x := 0, y := 0 }, { x := 3, y := 0 }, { x := 3, y := 7 }]
      stop := { x := 3, y := 7, z := 1 } }] }
  parameterSet := some {
    family := [{ name := "WidthPanels", type := "Integer", default := .real 3 }]
    types := [{ name := "Standard", bindings := [("WidthPanels", .real 3)] }] }

/-- The width that a text names is no count. -/
theorem not_fits_countedPanels (base : Brief)
    (hmatched : (Reading.ofText "900 mm wide" (some base)).matched
      = ([(.width, "900 mm wide")] : List (Dimension × Text)))
    (hwidth : (Reading.ofText "900 mm wide" (some base)).brief.dimension .width = 900 / 304.8) :
    ¬(Reading.ofText "900 mm wide" (some base)).Fits countedPanels base := by
  intro hfits
  have hvalue := hfits .width _ ⟨rfl, ⟨[], _, [], hmatched, nofun⟩, ?_⟩
    ⟨_, List.mem_singleton_self _, _, List.mem_singleton_self _, rfl⟩
  · have hproblem : (valueProblem? (.real (900 / 304.8)) "Integer").toOption ≠ some none := by
      decide +kernel
    rw [hwidth] at hvalue
    exact hproblem (congrArg Except.toOption hvalue)
  · -- the one parameter is no material
    intro c _ q hq hcovers
    cases List.mem_singleton.mp hq
    cases hcovers

/-- It is ready, and not any more when it is refined by a width. -/
theorem refine_ready_iff_countedPanels :
    areReady (({} : Quality.Gateway).verdicts countedPanels none) = true ∧
      ∃ draft, (Desk.refine {} ⟨(), {}⟩ "s" "900 mm wide" (some countedPanels) ⟨0⟩).1
          = .ok draft ∧
        areReady (({} : Quality.Gateway).verdicts draft.design none) = false := by
  have hready : areReady (({} : Quality.Gateway).verdicts countedPanels none) = true := by
    decide +kernel
  have hbase : Brief.ofDesign countedPanels = .ok { width := 3, category := "Doors" } := rfl
  have hmade : countedPanels.isMadeFrom { width := 3, category := "Doors" } = false := by
    decide +kernel
  let desk : Desk Unit := ⟨(), {}⟩
  have hgiven : (some countedPanels).or (desk.design? "s") = some countedPanels := rfl
  have hproposal : (desk.proposal {} (desk.refinementQuery "s" "900 mm wide" countedPanels)).1
      = .ok none := rfl
  obtain ⟨draft, hdraft, -, hiff⟩ :=
    (refine_ready_iff rfl rfl (keptById_of_empty rfl) hgiven hready hproposal ⟨0⟩).2 _ hbase
  refine ⟨hready, draft, hdraft, ?_⟩
  rw [Bool.eq_false_iff]
  intro hrefined
  -- neither is the design recognised nor does the width fit a count
  rcases (hiff (by rw [hmade]; nofun)).mp hrefined with h | hfits
  · rw [hmade] at h
    cases h
  · exact not_fits_countedPanels _ (by decide +kernel) (by decide +kernel) hfits

end FamilyDesign.Desk
