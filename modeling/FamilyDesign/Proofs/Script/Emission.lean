import FamilyDesign.Script.Emission
import FamilyDesign.Proofs.Fallible

/-!
# What emission refuses

A script is refused for the structure of its design at the gate or not at all: the sections that
come after need nothing else. When it is written its text does not depend on the moment.

* **`write_ne_structural`** — behind the gate no structural fault is left.
* **`emit_stamped`** — a script depends on the moment in its figures only.
-/

namespace FamilyDesign.Script

/-! ## Sections -/

/-- The setup alone needs a part of the design, and has it if there is metadata. -/
theorem Section.text_ne_structural {d : Design} (hmetadata : d.metadata.isSome = true)
    (s : Section) (fault : StructureFault) : s.text d ≠ .error (.structural fault) := by
  -- three sections can fail: the setup without metadata, the other two in a number only
  have hlines : s.lines d ≠ .error (.structural fault) := by
    cases s with
    | familySetup =>
      obtain ⟨metadata, hm⟩ := Option.isSome_iff_exists.mp hmetadata
      show setup d ≠ _
      unfold setup
      rw [hm]
      nofun
    | parameters =>
      intro h
      obtain ⟨cause, -, hwrap⟩ := mapError_eq_error_iff.mp h
      cases hwrap
    | familyTypes =>
      intro h
      obtain ⟨cause, -, hwrap⟩ := mapError_eq_error_iff.mp h
      cases hwrap
    | imports => nofun
    | referencePlanes => nofun
    | geometry => nofun
    | constraints => nofun
    | materials => nofun
    | visibility => nofun
    | validation => nofun
  intro h
  exact hlines (map_eq_error_iff.mp h)

/-- Behind the gate no structural fault is left. -/
theorem sectionTexts_ne_structural {d : Design} (hmetadata : d.metadata.isSome = true)
    (fault : StructureFault) : sectionTexts d ≠ .error (.structural fault) := by
  intro h
  obtain ⟨s, -, hs⟩ := exists_of_mapM_error h
  rcases bind_eq_error_iff.mp hs with htext | ⟨text, -, hnone⟩
  · exact Section.text_ne_structural hmetadata s fault htext
  · cases hnone

/-- With metadata there is no structural fault in writing. -/
theorem write_ne_structural {d : Design} (hmetadata : d.metadata.isSome = true) (rules : List Rule)
    (now : Instant) (fault : StructureFault) : write rules d now ≠ .error (.structural fault) := by
  intro h
  rcases bind_eq_error_iff.mp h with hsections | ⟨sections, -, hnone⟩
  · exact sectionTexts_ne_structural hmetadata fault hsections
  · cases hnone

/-! ## Scripts at different moments -/

/-- A script whose figures name another moment. -/
def Emission.stamped (e : Emission) (now : Instant) : Emission :=
  { e with summary := { e.summary with generatedAt := now } }

/-- The moment of writing bears on the stamp only. -/
theorem write_stamped {rules : List Rule} {d : Design} {now : Instant} {e : Emission}
    (h : write rules d now = .ok e) (later : Instant) :
    write rules d later = .ok (e.stamped later) := by
  obtain ⟨sections, hsections, hwritten⟩ := bind_eq_ok_iff.mp h
  refine bind_eq_ok_iff.mpr ⟨sections, hsections, ?_⟩
  cases hwritten
  rfl

/-- A script depends on the moment in its figures only. -/
theorem emit_stamped {rules : List Rule} {d : Design} {now : Instant} {e : Emission}
    (h : emit rules d now = .ok e) (later : Instant) :
    emit rules d later = .ok (e.stamped later) := by
  obtain ⟨d', hgate, hwrite⟩ := bind_eq_ok_iff.mp h
  exact bind_eq_ok_iff.mpr ⟨d', hgate, write_stamped hwrite later⟩

/-- What passes the gate is written. -/
theorem emit_of_checkEmittable {d : Design} (h : Design.checkEmittable d = .ok d)
    (rules : List Rule) (now : Instant) : emit rules d now = write rules d now := by
  unfold emit
  rw [h]
  rfl

end FamilyDesign.Script
