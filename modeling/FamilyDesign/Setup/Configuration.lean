import FamilyDesign.Json.Value

/-!
# Configurations

A configuration gives every setting a value. The environment decides first, then the profile that it
names, then the standard: `fill_eq` says so for each setting. Profiles and standards are texts; an
environment may hold any values, of which `null` decides nothing.
-/

namespace FamilyDesign

/-- What can be set. -/
inductive Setting
  | profile
  | logLevel
  | assistant
  | hostedKey
  | hostedModel
  | localAddress
  | localModel
  | clientId
  | clientSecret
  | endpoint
  | activity
  | templateUrl
  | simulatedSeconds
deriving DecidableEq

namespace Setting

/-- All settings. -/
def all : List Setting :=
  [profile, logLevel, assistant, hostedKey, hostedModel, localAddress, localModel, clientId,
    clientSecret, endpoint, activity, templateUrl, simulatedSeconds]

/-- The name of a setting in the environment. -/
def key : Setting → Text
  | profile => "FAMAI_ENV"
  | logLevel => "FAMAI_LOG_LEVEL"
  | assistant => "FAMAI_LLM_PROVIDER"
  | hostedKey => "GEMINI_API_KEY"
  | hostedModel => "FAMAI_GEMINI_MODEL"
  | localAddress => "OLLAMA_HOST"
  | localModel => "FAMAI_OLLAMA_MODEL"
  | clientId => "APS_CLIENT_ID"
  | clientSecret => "APS_CLIENT_SECRET"
  | endpoint => "APS_DA_ENDPOINT"
  | activity => "APS_DA_ACTIVITY"
  | templateUrl => "APS_TEMPLATE_URL"
  | simulatedSeconds => "FAMAI_SIMULATED_JOB_SECONDS"

/-- The text of a setting that nothing else decides. -/
def standard : Setting → Text
  | profile => "development"
  | logLevel => "INFO"
  | assistant => "gemini"
  | hostedModel => "gemini-2.5-flash"
  | localAddress => "http://localhost:11434"
  | localModel => "mistral"
  | endpoint => "https://developer.api.autodesk.com/da/us-east/v3/"
  | simulatedSeconds => "15.0"
  | _ => ""

end Setting

/-- What a profile says about a setting. Profiles of other names say nothing. -/
def profileText? (profile : Text) : Setting → Option Text
  | .logLevel =>
    if profile = "development" ∨ profile = "testing" then some "DEBUG"
    else if profile = "production" then some "WARNING"
    else none
  | .assistant => if profile = "testing" then some "none" else none
  | _ => none

/-- A value for every setting. -/
abbrev Configuration := Setting → Json

namespace Configuration

/-- The profile that an environment names, if it names one. A list or an object cannot be the name
of a profile and is given back. -/
def profileOf (environment : Fields) : Except Json (Option Text) :=
  match environment.lookup Setting.profile.key with
  | none => .ok (some Setting.profile.standard)
  | some (.text name) => .ok (some name)
  | some v@(.array _) | some v@(.object _) => .error v
  | some _ => .ok none

/-- The value of a setting in an environment that names a profile. -/
def fill (environment : Fields) (profile : Option Text) : Configuration := fun s =>
  match (environment.lookup s.key).bind Json.present? with
  | some v => v
  | none => .text ((profile.bind (profileText? · s)).getD s.standard)

/-- The configuration of an environment. -/
def ofEnvironment (environment : Fields) : Except Json Configuration :=
  (profileOf environment).map (fill environment)

/-- A configuration as values by name. -/
def write (c : Configuration) : Fields :=
  Setting.all.map fun s => (s.key, c s)

theorem fill_eq (environment : Fields) (profile : Option Text) (s : Setting) :
    fill environment profile s =
      (((environment.lookup s.key).bind Json.present?).or
        ((profile.bind (profileText? · s)).map .text)).getD (.text s.standard) := by
  unfold fill
  cases (environment.lookup s.key).bind Json.present? with
  | some v => rfl
  | none => cases profile.bind (profileText? · s) <;> rfl

end Configuration

end FamilyDesign
