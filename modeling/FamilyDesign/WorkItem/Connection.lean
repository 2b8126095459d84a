import FamilyDesign.Http.Exchange
import FamilyDesign.Job.Service
import FamilyDesign.Json.Reader
import FamilyDesign.Text.Bytes
import FamilyDesign.WorkItem.Account

/-!
# Connections to the work item service

Requests of an account, and the access token that all but the first carry. A token is kept with the
time up to which it is used, a minute before it runs out; a new one is asked for only when there is
none or that time has come.
-/

namespace FamilyDesign.WorkItem

open Numeric (Binary64)
open Job (Call ServiceFault)

/-- The network, and the token held with the time up to which it is used. -/
structure Connection where
  network : Http.Network := {}
  token : Option Json := none
  useUntil : Binary64 := 0

/-- The seconds by which a token is given up before it runs out. -/
def tokenMargin : Binary64 := 60

/-- The seconds after which a token runs out if its reply does not say. -/
def standardLifetime : Json := .int 3600

/-- What a token is asked for. -/
def scopes : Text := "code:all bucket:create bucket:read data:read data:write"

/-- A fault that ends a call. -/
def fail {α : Type} (fault : ServiceFault) : Call Connection α :=
  throw fault

/-- The value of a computation that may fail. -/
def ofExcept {α : Type} (x : Except ServiceFault α) : Call Connection α :=
  match x with
  | .ok v => pure v
  | .error fault => fail fault

/-- The reply to a request. -/
def send (r : Http.Request) : Call Connection Http.Reply := do
  let (outside, connection) ← get
  let (reply, network) := connection.network.send r
  set (outside, { connection with network })
  pure reply

/-- A request in words, for messages. -/
def labelOf (r : Http.Request) : Text := r.method ++ " " ++ r.address.plain

/-- The fault that a reply with a code of 400 or more stands for: below 500 the request is refused,
from there on the service is in trouble. -/
def refusal (r : Http.Request) (code : Int) (body : Text) : ServiceFault :=
  let message := Text.strip (labelOf r ++ " failed: " ++ Numeric.intText code ++ " "
    ++ Text.ofList (body.toList.take 200))
  if code < 500 then .rejected message (some code) else .transient message (some code)

/-- The body of the reply to a request. -/
def bodyOf (r : Http.Request) : Call Connection Text := do
  match ← send r with
  | .lost reason => fail (.transient (labelOf r ++ " failed: " ++ reason) none)
  | .answered code body => if 400 ≤ code then fail (refusal r code body) else pure body

/-- The fault that a body with no JSON in it stands for. Nesting beyond the limit is a fault of its
own. -/
def unreadable (r : Http.Request) (fault : Json.Fault) : ServiceFault :=
  match fault.limit?.filter (·.isNesting) with
  | some limit => .beyond limit
  | none => .transient (labelOf r ++ " returned invalid JSON") none

/-- The JSON value that the reply to a request holds; an empty body is an empty object. -/
def valueOf (r : Http.Request) : Call Connection Json := do
  let body ← bodyOf r
  if body.isEmpty then pure (.object [])
  else
    match Json.read body with
    | .ok v => pure v
    | .error fault => fail (unreadable r fault)

/-- The fields of the object that the reply to a request holds. -/
def objectOf (r : Http.Request) : Call Connection Fields := do
  ofExcept (Job.fieldsOf (← valueOf r))

/-- The header that carries credentials. -/
def authorization (credentials : Text) : Entries Text :=
  [("Authorization", credentials)]

/-- The request for a token. -/
def tokenRequest (a : Account) : Except ServiceFault Http.Request := do
  let credentials ← (a.clientId ++ ":" ++ a.clientSecret).base64Of.mapError .unencodable
  .ok {
    method := "POST"
    address := .text a.tokenUrl
    form := some [("grant_type", "client_credentials"), ("scope", scopes)]
    headers := some (authorization ("Basic " ++ credentials))
    timeout := .real a.timeout }

/-- The token held, if it counts as one and may still be used. -/
def usableToken? (outside : Surroundings) (c : Connection) : Option Json :=
  c.token.filter fun token => token.isTrue && decide (outside.uptime < c.useUntil)

/-- Holds a new token. -/
def holdToken (token : Json) : Call Connection Unit :=
  modify fun (outside, c) => (outside, { c with token := some token })

/-- Sets the time up to which the token is used. -/
def useTokenFor (lifetime : Binary64) : Call Connection Unit :=
  modify fun (outside, c) =>
    (outside, { c with useUntil := outside.uptime + lifetime - tokenMargin })

/-- Asks for a new token. -/
def renewToken (a : Account) : Call Connection Json := do
  if a.clientId.isEmpty || a.clientSecret.isEmpty then
    fail (.rejected "Backend credentials are not configured" none)
  else
    let reply ← objectOf (← ofExcept (tokenRequest a))
    let token := (reply.lookup "access_token").getD .null
    if token.isTrue then
      holdToken token
      let lifetime ←
        ofExcept (((reply.lookup "expires_in").getD standardLifetime).toReal.mapError .number)
      useTokenFor lifetime
      pure token
    else fail (.rejected "Token response carried no access_token" none)

/-- A token that may be used now. -/
def accessToken (a : Account) : Call Connection Json := do
  let (outside, c) ← get
  match usableToken? outside c with
  | some token => pure token
  | none => renewToken a

/-- The text under which a token is carried. -/
def bearer (token : Json) : Text := "Bearer " ++ token.plain

/-- A request of an account to an address of the service. -/
def request (a : Account) (method address : Text) (body : Option Json) :
    Call Connection Http.Request := do
  let token ← accessToken a
  pure {
    method
    address := .text address
    body
    headers := some (authorization (bearer token))
    timeout := .real a.timeout }

end FamilyDesign.WorkItem
