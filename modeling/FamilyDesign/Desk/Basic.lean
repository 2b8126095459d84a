import FamilyDesign.Assistant.Basic
import FamilyDesign.Desk.Revision
import FamilyDesign.Session.Draft
import FamilyDesign.Store

/-!
# Desks

A desk makes designs on request and keeps the sessions that they belong to. A committed design takes
the place of the current one of its session; no other session changes (`session?_keep_of_ne`).
-/

namespace FamilyDesign

/-- Why a desk makes no draft. -/
inductive DeskFault
  | noDesign (session : Text)
  | noReading (message : Text)
  | revision (fault : RevisionFault)
  | number (fault : NumberFault)
  | beyond (limit : Limit)

/-- The wording of a desk's fault. -/
def DeskFault.message : DeskFault → Text
  | noDesign session => "No design to refine in session " ++ session
  | noReading message => "Heuristic extraction failed: " ++ message
  | revision fault => fault.message
  | number fault => fault.message
  | beyond limit => limit.message

/-- What a desk works with: an assistant of state `σ`, if there is one, and a reader. -/
structure DeskTools (σ : Type) where
  assistant : Option (Assistant σ) := none
  read : Reader := .standard

/-- The state of the assistant, and the sessions. -/
structure Desk (σ : Type) where
  remote : σ
  sessions : Store Session := {}

namespace Desk

variable {σ : Type}

/-- The session with an id. -/
def session? (desk : Desk σ) (id : Text) : Option Session := desk.sessions.get? id

/-- The current design of a session. -/
def design? (desk : Desk σ) (id : Text) : Option Design := (desk.session? id).bind (·.design)

/-- What a session has been about, if it can be written. -/
def context (desk : Desk σ) (id : Text) : Except Limit Json := contextOf id (desk.session? id)

/-- The turns of a session. -/
def turns (desk : Desk σ) (id : Text) : List Turn := ((desk.session? id).map (·.turns)).getD []

/-- The desk with a session kept. -/
def keep (desk : Desk σ) (s : Session) : Desk σ :=
  { desk with sessions := desk.sessions.put s.id s }

/-- A draft with a design that takes the place of the current one of its session, and the desk that
has recorded it. -/
def commit (desk : Desk σ) (id prompt : Text) (design : Design) (source : Source)
    (kind : TurnKind) (warnings : List Text) (now : Instant) : Draft × Desk σ :=
  let s := ((desk.session? id).getD (.start id now)).supersede design source
  let draft : Draft := ⟨design, source, id, kind, s.version, now, warnings⟩
  (draft, desk.keep (s.addTurn (draft.turn prompt)))

/-! ## What a kept session changes -/

@[simp] theorem session?_keep_self (desk : Desk σ) (s : Session) :
    (desk.keep s).session? s.id = some s := by
  simp [keep, session?]

theorem session?_keep_of_ne (desk : Desk σ) {s : Session} {id : Text} (h : id ≠ s.id) :
    (desk.keep s).session? id = desk.session? id := by
  simp [keep, session?, Store.get?_put_of_ne _ _ h]

end Desk

end FamilyDesign
