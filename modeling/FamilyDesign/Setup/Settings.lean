import FamilyDesign.Document.Field
import FamilyDesign.Json.Number
import FamilyDesign.Setup.Configuration
import FamilyDesign.Text.Case
import FamilyDesign.WorkItem.Account

/-!
# Settings

A configuration read into what a studio is set up with: which assistant it asks, which account its
jobs run under, and how long a simulated job takes. An assistant or account that is not configured
in full is none.
-/

namespace FamilyDesign

open Numeric (Binary64)

/-- What a studio is set up with. -/
structure Settings where
  profile : Text
  logLevel : Text
  assistant : Text
  hostedKey : Text
  hostedModel : Text
  localAddress : Text
  localModel : Text
  clientId : Text
  clientSecret : Text
  endpoint : Text
  activity : Text
  templateUrl : Text
  simulatedSeconds : Binary64

/-- Why a configuration gives no settings. -/
inductive SettingsFault
  | noKey (v : Json)
  | number (fault : NumberFault)
  | noText (v : Json)
  | malformed (places : List Place)

/-- The wording of a settings fault. -/
def SettingsFault.message : SettingsFault → Text
  | noKey v => "unhashable type: '" ++ v.shapeName ++ "'"
  | number fault => fault.message
  | noText v => "'" ++ v.shapeName ++ "' object has no attribute 'lower'"
  | malformed places => Text.joinWith ", " (places.map (·.text))

/-- An assistant that settings name. -/
inductive AssistantChoice
  | hosted (key model : Text)
  | onServer (address model : Text)

namespace Settings

/-- The seconds that a simulated job takes if the configuration gives no number. -/
def standardSimulatedSeconds : Binary64 := 15

/-- The seconds that a simulated job takes. A text that is no numeral stands for the standard. -/
def secondsOf (v : Json) : Except NumberFault Binary64 :=
  match v.toReal with
  | .error (.notNumeral _) => .ok standardSimulatedSeconds
  | x => x

/-- The name of an assistant in lower case. -/
def assistantName : Json → Except SettingsFault Text
  | .text s => .ok (Text.lower s)
  | v => .error (.noText v)

/-- A setting that has to be a text, under the name that it has among the settings. -/
def textOf (c : Configuration) (s : Setting) (name : Text) : Checked Text :=
  (Document.asText (c s)).under name

/-- The settings of a configuration, given the two that are not just texts. -/
def assemble (c : Configuration) (assistant : Text) (seconds : Binary64) : Checked Settings :=
  Settings.mk <$> textOf c .profile "env" <*> textOf c .logLevel "log_level" <*> pure assistant
    <*> textOf c .hostedKey "gemini_api_key" <*> textOf c .hostedModel "gemini_model"
    <*> textOf c .localAddress "ollama_host" <*> textOf c .localModel "ollama_model"
    <*> textOf c .clientId "aps_client_id" <*> textOf c .clientSecret "aps_client_secret"
    <*> textOf c .endpoint "aps_da_endpoint" <*> textOf c .activity "aps_da_activity"
    <*> textOf c .templateUrl "aps_template_url" <*> pure seconds

/-- The settings of a configuration. -/
def ofConfiguration (c : Configuration) : Except SettingsFault Settings := do
  let seconds ← (secondsOf (c .simulatedSeconds)).mapError .number
  let assistant ← assistantName (c .assistant)
  (assemble c assistant seconds).toExcept.mapError .malformed

/-- The settings of an environment. -/
def ofEnvironment (environment : Fields) : Except SettingsFault Settings := do
  ofConfiguration (← (Configuration.ofEnvironment environment).mapError .noKey)

/-- Whether nothing that an account needs is missing. -/
def hasAccount (s : Settings) : Bool :=
  [s.clientId, s.clientSecret, s.endpoint, s.activity, s.templateUrl].all (!·.isEmpty)

/-- The account, if it is configured in full. -/
def account? (s : Settings) : Option WorkItem.Account :=
  if s.hasAccount then
    some (.ofParts s.clientId s.clientSecret s.endpoint s.activity s.templateUrl none
      WorkItem.standardStorage)
  else none

/-- The assistant, if one is named; a hosted one needs a key. -/
def assistant? (s : Settings) : Option AssistantChoice :=
  if s.assistant = "gemini" then
    if s.hostedKey.isEmpty then none else some (.hosted s.hostedKey s.hostedModel)
  else if s.assistant = "ollama" then some (.onServer s.localAddress s.localModel)
  else none

/-- The fields of settings. -/
def write (s : Settings) : Fields :=
  [("env", .text s.profile), ("log_level", .text s.logLevel), ("llm_provider", .text s.assistant),
    ("gemini_api_key", .text s.hostedKey), ("gemini_model", .text s.hostedModel),
    ("ollama_host", .text s.localAddress), ("ollama_model", .text s.localModel),
    ("aps_client_id", .text s.clientId), ("aps_client_secret", .text s.clientSecret),
    ("aps_da_endpoint", .text s.endpoint), ("aps_da_activity", .text s.activity),
    ("aps_template_url", .text s.templateUrl),
    ("simulated_job_seconds", .real s.simulatedSeconds)]

end Settings

end FamilyDesign
