import FamilyDesign.Desk.Drafting
import FamilyDesign.Studio.Basic

/-!
# Designing in a studio

Every draft that the desk makes is assessed at once. The assessment of a current design is recorded
in its session; that of a variation is not.
-/

namespace FamilyDesign.Studio

variable {σ τ : Type}

/-- The assessment of a draft. -/
def assess (tools : StudioTools σ τ) (draft : Draft) (now : Instant) :
    Except StudioFault AssessedDraft :=
  match Assessment.ofDesign tools.gateway tools.rules draft.design now with
  | .ok assessment => .ok ⟨draft, assessment⟩
  | .error fault => .error (.number fault)

/-- The studio with the assessment of a current design recorded in its session. -/
def record (s : Studio σ τ) (a : AssessedDraft) : Studio σ τ :=
  match s.desk.session? a.draft.session with
  | some session =>
    { s with desk := s.desk.keep (session.assessed a.assessment.script a.assessment.report) }
  | none => s

/-- A draft that the desk has made, assessed and recorded. -/
def conclude (tools : StudioTools σ τ) (s : Studio σ τ)
    (made : Except DeskFault Draft × Desk σ) : Except StudioFault AssessedDraft × Studio σ τ :=
  let s := { s with desk := made.2 }
  match made.1 with
  | .error fault => (.error (.desk fault), s)
  | .ok draft =>
    match assess tools draft s.now with
    | .error fault => (.error fault, s)
    | .ok a => (.ok a, s.record a)

/-- A new current design for a session. -/
def create (tools : StudioTools σ τ) (s : Studio σ τ) (prompt id : Text) :
    Except StudioFault AssessedDraft × Studio σ τ :=
  s.conclude tools (s.desk.generate tools.desk prompt id none s.now)

/-- The current design of a session with what a text says about it. -/
def refine (tools : StudioTools σ τ) (s : Studio σ τ) (id feedback : Text) :
    Except StudioFault AssessedDraft × Studio σ τ :=
  s.conclude tools (s.desk.refine tools.desk id feedback none s.now)

/-- So many assessed siblings of the current design of a session. -/
def variations (tools : StudioTools σ τ) (s : Studio σ τ) (id : Text) (count : Int) :
    Except StudioFault (List AssessedDraft) × Studio σ τ :=
  match s.designed id with
  | .error fault => (.error fault, s)
  | .ok (_, design) =>
    let (drafts, desk) := s.desk.variations tools.desk design count (some id) s.now
    (match drafts with
      | .error fault => .error (.desk fault)
      | .ok drafts => drafts.mapM (assess tools · s.now),
      { s with desk })

end FamilyDesign.Studio
