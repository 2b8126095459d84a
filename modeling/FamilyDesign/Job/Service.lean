import FamilyDesign.Clock.Surroundings
import FamilyDesign.Job.Record
import FamilyDesign.Text.Bytes

/-!
# Services that run jobs

A service accepts jobs, tells how they stand, stops them and hands out their artifacts. Each of its
calls may fail, and may change the service and its surroundings whether it fails or not. Faults of
the service itself are told apart from answers that make no sense.
-/

namespace FamilyDesign.Job

/-- Why a call of a service fails. -/
inductive ServiceFault
  | failed (message : Text) (code : Option Int)
  | rejected (message : Text) (code : Option Int)
  | transient (message : Text) (code : Option Int)
  | malformed (places : List Place)
  | noFields (v : Json)
  | noKey (v : Json)
  | number (fault : NumberFault)
  | unencodable (fault : Text.EncodingFault)
  | beyond (limit : Limit)

namespace ServiceFault

/-- Whether the service itself reports the fault, rather than giving an answer without sense. -/
def isReported : ServiceFault → Bool
  | failed .. | rejected .. | transient .. => true
  | _ => false

/-- Whether the service refuses the call, for want of configuration or by its answer. -/
def isRejection : ServiceFault → Bool
  | rejected .. => true
  | _ => false

/-- The code that a fault carries. -/
def code : ServiceFault → Option Int
  | failed _ code | rejected _ code | transient _ code => code
  | _ => none

/-- The wording of a fault. -/
def message : ServiceFault → Text
  | failed message _ | rejected message _ | transient message _ => message
  | malformed places => Text.joinWith ", " (places.map (·.text))
  | noFields v => "'" ++ v.shapeName ++ "' object has no attribute 'get'"
  | noKey v => "unhashable type: '" ++ v.shapeName ++ "'"
  | number fault => fault.message
  | unencodable fault => fault.message
  | beyond limit => limit.message

end ServiceFault

/-- A call of a service with state `σ`. -/
abbrev Call (σ α : Type) := ExceptT ServiceFault (StateM (Surroundings × σ)) α

/-- A service with state `σ`. The parameters of a job may be any value; a service that looks into
them refuses those that have no fields. -/
structure Service (σ : Type) where
  submit : Json → Call σ Submission
  status : Text → Call σ Observation
  cancel : Text → Call σ Unit
  fetch : Text → Option Locator → Call σ (List UInt8)

/-- The fields of an answer that has to be an object. -/
def fieldsOf : Json → Except ServiceFault Fields
  | .object fields => .ok fields
  | v => .error (.noFields v)

end FamilyDesign.Job
