import FamilyDesign.Assistant.Basic
import FamilyDesign.Design.Structure
import FamilyDesign.Desk.Basic

/-!
# Consulting an assistant

Asking an assistant for a design. An assistant that is not ready, fails, withholds its reply or
replies with no usable design gives none. Of what a reply may be wrong in, only a number beyond all
bounds and an exceeded limit reach the caller. The query is composed only for an assistant that is
ready, so what keeps it from being composed is not noticed otherwise.
-/

namespace FamilyDesign.Desk

variable {σ α : Type}

/-- What a call of the assistant gives, unless it fails, and the desk after it. -/
def call (desk : Desk σ) (c : AssistantCall σ α) : Option α × Desk σ :=
  let (answer, remote) := c.run desk.remote
  (answer.toOption, { desk with remote })

/-- The design in a reply, if there is a usable one. -/
def designIn? (reply : Option Text) : Except DeskFault (Option Design) :=
  match Design.ofReply reply with
  | .ok d => .ok (some d)
  | .error (.lodUnbounded fault) => .error (.number fault)
  | .error (.beyond limit) => .error (.beyond limit)
  | .error _ => .ok none

/-- The design that an assistant gives for a query, if it is ready and gives one. -/
def consult (assistant : Assistant σ) (q : Except Limit Query) (desk : Desk σ) :
    Except DeskFault (Option Design) × Desk σ :=
  match desk.call assistant.isReady, q with
  | (some true, desk), .ok q =>
    let (reply, desk) := desk.call (assistant.reply q)
    (designIn? reply.join, desk)
  | (some true, desk), .error limit => (.error (.beyond limit), desk)
  | (_, desk), _ => (.ok none, desk)

/-- The design that the desk's assistant gives for a query, if there is an assistant. -/
def proposal (tools : DeskTools σ) (q : Except Limit Query) (desk : Desk σ) :
    Except DeskFault (Option Design) × Desk σ :=
  match tools.assistant with
  | some assistant => consult assistant q desk
  | none => (.ok none, desk)

end FamilyDesign.Desk
