import FamilyDesign.Assistant.Basic
import FamilyDesign.Document.Field

/-!
# Hosted assistants

A model that is reached with a key, through a client that is built for the first query and kept.
Without a key it is not ready and is not asked. How it is to be asked is checked only when it is
asked: with a wrong time limit there is no client, with any other wrong option no query.
-/

namespace FamilyDesign

open Document

/-- A hosted model and how it is asked: a real number and two integers, each of which may be absent,
in whatever form they were given. -/
structure HostedModel where
  key : Text
  model : Json := .text "gemini-2.5-flash"
  temperature : Json := .real 0.1
  longestReply : Json := .int 8192
  timeoutMillis : Json := .int 120000

namespace HostedModel

/-- What reaches the host. -/
inductive Message
  | client (key : Text) (timeoutMillis : Option Int)
  | query (model : Json) (request : Text) (options : Fields)

/-- A message as an object. -/
def Message.write : Message → Json
  | client key timeoutMillis =>
    .object [("client", .text key), ("timeout", optional .int timeoutMillis)]
  | query model request options =>
    .object [("model", model), ("contents", .text request), ("config", .object options)]

/-- What comes back for a query: a text, or none, or nothing at all for a reason. -/
inductive Answer
  | given (text : Option Text)
  | lost (reason : Text)

/-- The answers to come, the messages sent, and whether a client has been built. -/
structure Line where
  answers : List Answer := []
  sent : List Message := []
  hasClient : Bool := false

/-- A field with a value, if there is one. -/
def present (key : Text) (v : Option Json) : Fields := (v.map (key, ·)).toList

/-- How freely every query is answered. -/
def sampling : Fields := [("top_p", .real 0.8), ("top_k", .real 1)]

/-- How a query is to be answered, if the options are right; those that are absent and instructions
that are empty are left out. -/
def options? (m : HostedModel) (instructions : Text) : Option Fields := do
  let temperature ← (asOptional asReal m.temperature).toOption
  let longestReply ← (asOptional asInt m.longestReply).toOption
  some (present "temperature" (temperature.map .real)
    ++ sampling
    ++ present "max_output_tokens" (longestReply.map .int)
    ++ present "response_mime_type" (some (.text "application/json"))
    ++ present "system_instruction"
      (if instructions.isEmpty then none else some (.text instructions)))

/-- The line with a client, if the time limit is right. -/
def connect? (m : HostedModel) (l : Line) : Option Line :=
  if l.hasClient then some l
  else do
    let timeout ← (asOptional asInt m.timeoutMillis).toOption
    some { l with hasClient := true, sent := l.sent ++ [.client m.key timeout] }

/-- The answer to a query with options on a line. -/
def ask (m : HostedModel) (q : Query) (options : Fields) (l : Line) : Option Text × Line :=
  let sent := l.sent ++ [.query m.model q.request options]
  match l.answers with
  | [] => (none, { l with sent })
  | .given text :: rest => (text, { l with sent, answers := rest })
  | .lost _ :: rest => (none, { l with sent, answers := rest })

/-- Whether there is a key. -/
def isReady (m : HostedModel) : Bool := !m.key.isEmpty

/-- The reply to a query over a line with a client. -/
def replyOver (m : HostedModel) (q : Query) (l : Line) : Option Text × Line :=
  match m.options? q.instructions with
  | some options => m.ask q options l
  | none => (none, l)

/-- The model as an assistant. -/
def assistant (m : HostedModel) : Assistant Line where
  isReady := pure m.isReady
  reply q := do
    match (m.connect? (← get)).filter fun _ => m.isReady with
    | some line =>
      let (reply, line) := m.replyOver q line
      set line
      pure reply
    | none => pure none

end HostedModel

end FamilyDesign
