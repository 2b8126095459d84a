import FamilyDesign.Json.Number

/-!
# Exchanges over HTTP

Requests and the replies to them. The network is a sequence of replies still to come, one for each
request, and a record of the requests sent.
-/

namespace FamilyDesign.Http

/-- A request. The address may have come from a reply and the time limit from a configuration, so
they may be any values. -/
structure Request where
  method : Text
  address : Json
  body : Option Json := none
  form : Option (Entries Text) := none
  headers : Option (Entries Text) := none
  timeout : Json

/-- Headers or form fields as an object. -/
def writeTexts (entries : Entries Text) : Json :=
  .object (entries.map fun (key, s) => (key, .text s))

/-- The fields of a request. -/
def Request.write (r : Request) : Fields :=
  [("method", .text r.method), ("url", r.address), ("body", r.body.getD .null),
    ("form", (r.form.map writeTexts).getD .null),
    ("headers", (r.headers.map writeTexts).getD .null), ("timeout", r.timeout)]

/-- What comes back: nothing, for a reason, or a reply with a status code and a body. -/
inductive Reply
  | lost (reason : Text)
  | answered (code : Int) (body : Text)

/-- The replies to come, and the requests sent. -/
structure Network where
  replies : List Reply := []
  sent : List Request := []

namespace Network

/-- What comes back where no reply is left. -/
def exhausted : Reply := .lost "script exhausted"

/-- What comes back for a request. -/
def send (n : Network) (r : Request) : Reply × Network :=
  match n.replies with
  | [] => (exhausted, { n with sent := n.sent ++ [r] })
  | reply :: rest => (reply, ⟨rest, n.sent ++ [r]⟩)

end Network

end FamilyDesign.Http
