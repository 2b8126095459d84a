import FamilyDesign.Numeric.Binary64
import FamilyDesign.Text.Blank
import FamilyDesign.Text.Case
import FamilyDesign.Text.Search

/-!
# Accounts

What is needed to use the work item service: credentials, the addresses of the service and of its
storage, and the activity and template that build a family.
-/

namespace FamilyDesign.WorkItem

open Numeric (Binary64)

/-- An account. -/
structure Account where
  clientId : Text
  clientSecret : Text
  endpoint : Text
  activity : Text
  templateUrl : Text
  bucketKey : Text
  storageUrl : Text
  tokenUrl : Text := "https://developer.api.autodesk.com/authentication/v2/token"
  timeout : Binary64 := 30

/-- The address with a slash at its end. -/
def withSlash (url : Text) : Text :=
  if url.toList.getLast? = some (.char '/') then url else url ++ "/"

/-- A character that a bucket may be named with. -/
def isBucketChar (c : CodePoint) : Bool :=
  ('a' ≤ c && c ≤ 'z') || c.isDigit || c == '-' || c == '_' || c == '.'

/-- The bucket that is named after a client. -/
def bucketOf (clientId : Text) : Text :=
  Text.ofList (((Text.lower clientId ++ "-famai").toList.filter isBucketChar).take 128)

/-- The address of the storage where nothing else is said. -/
def standardStorage : Text := "https://developer.api.autodesk.com/oss/v2/"

/-- An account; a bucket is named after the client unless one is given. -/
def Account.ofParts (clientId clientSecret endpoint activity templateUrl : Text)
    (bucketKey : Option Text) (storageUrl : Text) : Account where
  clientId
  clientSecret
  endpoint := withSlash endpoint
  activity
  templateUrl
  bucketKey := (bucketKey.filter (!·.isEmpty)).getD (bucketOf clientId)
  storageUrl := withSlash storageUrl

/-- What an account lacks, in words. -/
def Account.missing (a : Account) : List Text :=
  [("client id", a.clientId.isEmpty), ("client secret", a.clientSecret.isEmpty),
    ("endpoint", a.endpoint.toList.all (· == '/')), ("activity", a.activity.isEmpty),
    ("template URL", a.templateUrl.isEmpty)].filterMap fun (name, isMissing) =>
    if isMissing then some name else none

end FamilyDesign.WorkItem
