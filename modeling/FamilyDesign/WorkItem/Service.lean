import FamilyDesign.WorkItem.Connection

/-!
# The work item service

Running jobs as work items with their output in object storage. A submission makes sure that the
bucket is there, asks for an address that the output may be written to, and only then sends the work
item.
-/

namespace FamilyDesign.WorkItem

open Job (Call ServiceFault Locator Submission Observation)

/-- A character that a file may be named with. -/
def isFileChar (c : CodePoint) : Bool :=
  c.isAlphanum || c == '_' || c == '.' || c == '-'

/-- The characters with one underscore for each run of others; `inRun` tells that such a run has
just begun. -/
def replaceRuns : Bool → List CodePoint → List CodePoint
  | _, [] => []
  | inRun, c :: rest =>
    if isFileChar c then c :: replaceRuns false rest
    else if inRun then replaceRuns true rest
    else '_' :: replaceRuns true rest

/-- A text as the name of a file. -/
def safeName (s : Text) : Text :=
  let name := Text.stripWhile (fun c : CodePoint => c == '_') (replaceRuns false s.toList)
  if name.isEmpty then "Generated_Family" else Text.ofList name

/-- The text without an ending. -/
def withoutSuffix (suffix s : Text) : Text :=
  if suffix.toList.isSuffixOf s.toList then
    Text.ofList (s.toList.take (s.toList.length - suffix.toList.length))
  else s

/-- The key of the output of a job that gets an identifier. -/
def objectKeyOf (params : Fields) (identifier : List CodePoint) : Text :=
  let fileName := ((params.lookup "FileName").getD (.text "Generated_Family.rfa")).plain
  "output/" ++ safeName (withoutSuffix ".rfa" fileName) ++ "_"
    ++ Text.ofList (identifier.take 8) ++ ".rfa"

/-- The address of an object in storage. -/
def objectUrl (a : Account) (l : Locator) : Except ServiceFault Text := do
  let bucket ← (Text.percentOf ['/'] l.bucketKey).mapError .unencodable
  let object ← (Text.percentOf [] l.objectKey).mapError .unencodable
  .ok (a.storageUrl ++ "buckets/" ++ bucket ++ "/objects/" ++ object)

/-- The address of a work item. -/
def itemUrl (a : Account) (id : Text) : Text :=
  a.endpoint ++ "workitems/" ++ id

/-- Refuses an account that lacks something. -/
def checkConfigured (a : Account) : Call Connection Unit :=
  match a.missing with
  | [] => pure ()
  | names => fail (.rejected ("Backend not configured: missing " ++ Text.joinWith ", " names) none)

/-- Asks for the bucket. -/
def createBucket (a : Account) : Call Connection Unit := do
  let r ← request a "POST" (a.storageUrl ++ "buckets")
    (some (.object [("bucketKey", .text a.bucketKey), ("policyKey", .text "transient")]))
  let _ ← valueOf r

/-- Makes sure that the bucket is there: a refusal for the reason that it exists does no harm. -/
def ensureBucket (a : Account) : Call Connection Unit :=
  tryCatch (createBucket a) fun fault =>
    match fault with
    | .rejected _ (some 409) => pure ()
    | fault => fail fault

/-- An address that the output of a job may be written to. -/
def signedUpload (a : Account) (l : Locator) : Call Connection Json := do
  let objectAt ← ofExcept (objectUrl a l)
  let r ← request a "POST" (objectAt ++ "/signed?access=readwrite") (some (.object []))
  let reply ← objectOf r
  let url := (reply.lookup "signedUrl").getD .null
  if url.isTrue then pure url
  else fail (.transient "No signed URL returned for output object" none)

/-- A work item. -/
def itemBody (a : Account) (params : Fields) (token output : Json) : Json :=
  let window := (params.lookup "WindowParams").getD (.object params)
  .object [("activityId", .text a.activity),
    ("arguments", .object [
      ("templateFile", .object [("url", .text a.templateUrl),
        ("headers", .object [("Authorization", .text (bearer token))])]),
      ("windowParams", .object [("url", .text ("data:application/json," ++ window.compact)),
        ("localName", .text "WindowParams.json")]),
      ("resultFamily", .object [("verb", .text "put"), ("url", output)])])]

/-- A fresh identifier. -/
def freshIdentifier : Call Connection (List CodePoint) := do
  let (outside, c) ← get
  let (identifier, outside) := outside.issue
  set (outside, c)
  pure identifier

/-- The submission that the reply to a work item stands for. -/
def submissionOf (reply : Fields) (l : Locator) : Except ServiceFault Submission :=
  let id := (reply.lookup "id").getD .null
  if id.isTrue then
    let status := (reply.lookup "status").getD (.text "pending")
    ((Submission.load [("job_id", id), ("status", status)]).toExcept.mapError .malformed).map
      fun s => { s with locator := some l }
  else .error (.transient "Work item response carried no id" none)

/-- Sends a job as a work item. -/
def submit (a : Account) (params : Json) : Call Connection Submission := do
  checkConfigured a
  ensureBucket a
  let params ← ofExcept (Job.fieldsOf params)
  let identifier ← freshIdentifier
  let locator : Locator := ⟨a.bucketKey, objectKeyOf params identifier⟩
  let output ← signedUpload a locator
  let token ← accessToken a
  let r ← request a "POST" (a.endpoint ++ "workitems") (some (itemBody a params token output))
  let reply ← objectOf r
  ofExcept (submissionOf reply locator)

/-- The progress that a reply tells of, if it is a number. -/
def progressOf (reply : Fields) : Except ServiceFault (Option Json) :=
  match (reply.lookup "progress").bind Json.present? with
  | none => .ok none
  | some v =>
    match v.toReal with
    | .ok x => .ok (some (.real x))
    | .error fault => if fault.isRange then .error (.number fault) else .ok none

/-- The observation that a reply stands for. -/
def observationOf (reply : Fields) : Except ServiceFault Observation := do
  let progress ← progressOf reply
  let status := ((reply.lookup "status").getD (.text "")).plain
  (Observation.load [("status", .text status), ("progress", progress.getD .null),
    ("report_url", (reply.lookup "reportUrl").getD .null)]).toExcept.mapError .malformed

/-- Asks how a work item stands. -/
def status (a : Account) (id : Text) : Call Connection Observation := do
  let r ← request a "GET" (itemUrl a id) none
  ofExcept (observationOf (← objectOf r))

/-- Asks to stop a work item. -/
def cancel (a : Account) (id : Text) : Call Connection Unit := do
  let r ← request a "DELETE" (itemUrl a id) none
  let _ ← valueOf r

/-- The bytes at an address that storage has given. -/
def download (a : Account) (url : Json) : Call Connection (List UInt8) := do
  let body ← bodyOf { method := "GET", address := url, timeout := .real a.timeout }
  ofExcept (body.utf8.mapError .unencodable)

/-- The output of a work item. -/
def fetch (a : Account) (id : Text) (locator : Option Locator) :
    Call Connection (List UInt8) := do
  match locator with
  | none => fail (.failed ("Job " ++ id ++ " has no result locator") none)
  | some l =>
    let objectAt ← ofExcept (objectUrl a l)
    let r ← request a "GET" (objectAt ++ "/signeds3download") none
    let reply ← objectOf r
    let url := (reply.lookup "url").getD .null
    if url.isTrue then download a url
    else fail (.failed ("No download URL for " ++ l.bucketKey ++ "/" ++ l.objectKey) none)

/-- The work item service of an account. -/
def service (a : Account) : Job.Service Connection where
  submit := submit a
  status := status a
  cancel := cancel a
  fetch := fetch a

end FamilyDesign.WorkItem
