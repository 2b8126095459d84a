import FamilyDesign.Session.Basic

/-!
# Drafts

A draft is a design together with where it comes from and the session it was made for.
-/

namespace FamilyDesign

/-- A design with its source, the session and version it belongs to, and warnings. -/
structure Draft where
  design : Design
  source : Source
  session : Text
  kind : TurnKind
  version : Nat
  time : Instant
  warnings : List Text := []

/-- The turn that a draft is recorded as. -/
def Draft.turn (d : Draft) (prompt : Text) : Turn :=
  ⟨d.time, prompt, d.design, d.kind, d.source⟩

end FamilyDesign
