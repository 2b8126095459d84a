import FamilyDesign.Assistant.Basic
import FamilyDesign.Http.Exchange
import FamilyDesign.Json.Number
import FamilyDesign.Json.Reader
import FamilyDesign.Text.Blank

/-!
# Assistants on a server of one's own

The server is asked over HTTP which models it has, and for replies. A server that does not answer,
or answers with no JSON, is not ready and gives no reply. An address that cannot be opened and an
answer beyond the limits are faults.
-/

namespace FamilyDesign

/-- The wording of an assistant's fault. -/
def AssistantFault.message : AssistantFault → Text
  | failed message => message
  | noFields v => "'" ++ v.shapeName ++ "' object has no attribute 'get'"
  | noItems v => "'" ++ v.shapeName ++ "' object is not iterable"
  | noKey v => "unhashable type: '" ++ v.shapeName ++ "'"
  | beyond limit => limit.message
  | unreachable fault => fault.message

/-- A server and the model that is asked on it. What is only passed on may be any value. -/
structure LocalServer where
  address : Text := "http://localhost:11434"
  model : Json := .text "mistral"
  timeout : Json := .real 60
  temperature : Json := .real 0.1

namespace LocalServer

open Http (Network)

/-- The seconds for which the list of models is waited for. -/
def listTimeout : Json := .real 2

/-- The address without slashes at its end. -/
def base (s : LocalServer) : Text :=
  Text.ofList (Text.dropRightWhile (· == '/') s.address.toList)

/-- A value that a computation may fail to give. -/
def given {α : Type} (x : Except AssistantFault α) : AssistantCall Network α :=
  match x with
  | .ok v => pure v
  | .error fault => throw fault

/-- The address of one of the things that can be asked for. -/
def addressOf (s : LocalServer) (path : Text) : Except AssistantFault Json :=
  (Http.Address.opened (s.base ++ path)).map .text |>.mapError .unreachable

/-- The JSON value in the body of an answer, if there is one. -/
def bodyValue (body : Text) : Except AssistantFault (Option Json) :=
  match Json.read body with
  | .ok v => .ok (some v)
  | .error (.beyond limit) => .error (.beyond limit)
  | .error _ => .ok none

/-- The JSON value that a request is answered with, if it is. -/
def valueOf (r : Http.Request) : AssistantCall Network (Option Json) := do
  let network ← get
  let (reply, network) := network.send r
  set network
  match reply with
  | .lost _ => pure none
  | .answered _ body => given (bodyValue body)

/-- The value under a key of an object. -/
def get? (v : Json) (key : Text) : Except AssistantFault (Option Json) :=
  match v with
  | .object fields => .ok (fields.lookup key)
  | v => .error (.noFields v)

/-- The items of a value: those of a list, the characters of a text, the keys of an object. -/
def itemsOf : Json → Except AssistantFault (List Json)
  | .array items => .ok items
  | .text s => .ok (s.toList.map fun c => .text (Text.ofList [c]))
  | .object fields => .ok (fields.map fun (key, _) => .text key)
  | v => .error (.noItems v)

/-- A value that may name something: any but a list and an object. -/
def keyOf : Json → Except AssistantFault Json
  | v@(.array _) | v@(.object _) => .error (.noKey v)
  | v => .ok v

/-- The names that stand for the model: the model itself and its latest version. -/
def wantedNames (s : LocalServer) : Except AssistantFault (List Json) := do
  .ok [← keyOf s.model, .text (s.model.plain ++ ":latest")]

/-- Whether one of the entries has one of the names. -/
def anyNamed (names : List Json) : List Json → Except AssistantFault Bool
  | [] => .ok false
  | entry :: rest => do
    let name ← keyOf ((← get? entry "name").getD .null)
    if names.any name.same then .ok true else anyNamed names rest

/-- Whether the model is among those that a list of models names. -/
def hasModel (s : LocalServer) (listing : Json) : Except AssistantFault Bool := do
  let names ← s.wantedNames
  let models := (← get? listing "models").getD (.array [])
  anyNamed names (← itemsOf models)

/-- The request for the list of models. -/
def listRequest (address : Json) : Http.Request where
  method := "GET"
  address
  timeout := listTimeout

/-- Whether the server answers and has the model. -/
def isReady (s : LocalServer) : AssistantCall Network Bool := do
  let address ← given (s.addressOf "/api/tags")
  match ← valueOf (listRequest address) with
  | some listing => given (s.hasModel listing)
  | none => pure false

/-- The fields of a request for a reply, instructions apart. -/
def question (s : LocalServer) (q : Query) : Fields :=
  [("model", s.model), ("prompt", .text q.request), ("stream", .bool false),
    ("format", .text "json"),
    ("options", .object [("temperature", s.temperature), ("top_p", .real 0.8)])]

/-- A field for a text, if the text is not empty. -/
def spoken (key s : Text) : Fields := if s.isEmpty then [] else [(key, .text s)]

/-- The request for a reply; instructions that are empty are left out. -/
def replyRequest (s : LocalServer) (q : Query) (address : Json) : Http.Request where
  method := "POST"
  address
  body := some (.object (s.question q ++ spoken "system" q.instructions))
  timeout := s.timeout

/-- The reply in an answer, unless the answer tells of an error or the reply is empty. -/
def replyIn (answer : Json) : Except AssistantFault (Option Json) := do
  if ((← get? answer "error").getD .null).isTrue then .ok none
  else .ok ((← get? answer "response").filter (·.isTrue))

/-- The reply of the model, which may be any value. -/
def replyValue (s : LocalServer) (q : Query) : AssistantCall Network (Option Json) := do
  let address ← given (s.addressOf "/api/generate")
  match ← valueOf (s.replyRequest q address) with
  | some answer => given (replyIn answer)
  | none => pure none

/-- The model as an assistant; only a text is a reply. -/
def assistant (s : LocalServer) : Assistant Network where
  isReady := s.isReady
  reply q := do pure ((← s.replyValue q).bind Json.text?)

end LocalServer

end FamilyDesign
