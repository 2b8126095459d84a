import FamilyDesign.Assistant.Basic

/-!
# Prepared assistants

An assistant that gives answers prepared beforehand, and keeps a record of the queries. When the
answers about readiness are used up, one of them stands for all others; when the replies are, no
reply is given.
-/

namespace FamilyDesign

/-- The answers to come, and the queries received. -/
structure PreparedAssistant where
  readiness : List (Except AssistantFault Bool) := []
  otherwise : Except AssistantFault Bool := .ok true
  replies : List (Except AssistantFault (Option Text)) := []
  queries : List Query := []

namespace PreparedAssistant

/-- Whether it is ready. -/
def isReady : AssistantCall PreparedAssistant Bool := fun p =>
  match p.readiness with
  | [] => (p.otherwise, p)
  | answer :: rest => (answer, { p with readiness := rest })

/-- The reply to a query. -/
def reply (q : Query) : AssistantCall PreparedAssistant (Option Text) := fun p =>
  let queries := p.queries ++ [q]
  match p.replies with
  | [] => (.ok none, { p with queries })
  | answer :: rest => (answer, { p with replies := rest, queries })

/-- The assistant. -/
def assistant : Assistant PreparedAssistant := ⟨isReady, reply⟩

end PreparedAssistant

end FamilyDesign
