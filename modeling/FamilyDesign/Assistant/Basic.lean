import FamilyDesign.Http.Address
import FamilyDesign.Json.Limit

/-!
# Assistants

A language model that is asked for designs. It is asked whether it is ready, and for a reply to a
query; either may fail, and either may change the state of the assistant.
-/

namespace FamilyDesign

/-- What an assistant is asked: standing instructions, and the request itself. -/
structure Query where
  instructions : Text
  request : Text

/-- Why an assistant fails. -/
inductive AssistantFault
  | failed (message : Text)
  | noFields (v : Json)
  | noItems (v : Json)
  | noKey (v : Json)
  | beyond (limit : Limit)
  | unreachable (fault : Http.AddressFault)

/-- A call of an assistant with state `σ`. -/
abbrev AssistantCall (σ α : Type) := ExceptT AssistantFault (StateM σ) α

/-- An assistant with state `σ`. A reply may be withheld. -/
structure Assistant (σ : Type) where
  isReady : AssistantCall σ Bool
  reply : Query → AssistantCall σ (Option Text)

end FamilyDesign
