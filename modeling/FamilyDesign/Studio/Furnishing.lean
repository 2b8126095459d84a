import FamilyDesign.Assistant.Hosted
import FamilyDesign.Assistant.LocalServer
import FamilyDesign.Setup.Settings
import FamilyDesign.Studio.Basic
import FamilyDesign.WorkItem.Service

/-!
# Furnishing a studio

The assistant and the service that settings name, with the state that both kinds of assistant share.
-/

namespace FamilyDesign

/-- The state of the assistants: the network to a server, and the line to a host. -/
structure AssistantState where
  network : Http.Network := {}
  line : HostedModel.Line := {}

/-- An assistant whose state is part of a larger one. -/
def Assistant.within {σ ρ : Type} (a : Assistant σ) (part : ρ → σ) (replace : ρ → σ → ρ) :
    Assistant ρ where
  isReady := widen a.isReady
  reply q := widen (a.reply q)
where
  /-- A call on the part. -/
  widen {α : Type} (c : AssistantCall σ α) : AssistantCall ρ α := fun s =>
    let (answer, inner) := c.run (part s)
    (answer, replace s inner)

/-- The assistant of a choice. -/
def AssistantChoice.assistant : AssistantChoice → Assistant AssistantState
  | hosted key model =>
    let hosted : HostedModel := { key, model := .text model }
    hosted.assistant.within (·.line) fun s line => { s with line }
  | onServer address model =>
    let server : LocalServer := { address, model := .text model }
    server.assistant.within (·.network) fun s network => { s with network }

/-- A choice of assistant as an object. -/
def AssistantChoice.write : AssistantChoice → Json
  | hosted _ model =>
    .object [("name", .text "gemini"), ("model", .text model), ("base_url", .null)]
  | onServer address model =>
    let server : LocalServer := { address }
    .object [("name", .text "ollama"), ("model", .text model), ("base_url", .text server.base)]

/-- An account as an object, without its secrets. -/
def WorkItem.Account.write (a : WorkItem.Account) : Json :=
  .object [("name", .text "design_automation"), ("endpoint", .text a.endpoint),
    ("bucket_key", .text a.bucketKey)]

/-- What settings lead to, as an object. -/
def Settings.overview (s : Settings) : Json :=
  .object [("settings", .object s.write), ("backend_configured", .bool s.hasAccount),
    ("provider", (s.assistant?.map (·.write)).getD .null),
    ("backend", (s.account?.map (·.write)).getD .null)]

/-- What a studio works with under settings. -/
def Settings.tools (s : Settings) : StudioTools AssistantState WorkItem.Connection where
  desk := { assistant := s.assistant?.map (·.assistant) }
  service := s.account?.map WorkItem.service

/-- A studio under settings, in which nothing has been done. -/
def Settings.studio (s : Settings) (outside : Surroundings) :
    Studio AssistantState WorkItem.Connection where
  desk := { remote := {} }
  tracker := { outside, remote := {}, simulator := { duration := s.simulatedSeconds } }

end FamilyDesign
