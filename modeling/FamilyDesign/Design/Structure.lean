import FamilyDesign.Design.Loading
import FamilyDesign.Json.Number
import FamilyDesign.Json.Reader

/-!
# Structural gates

Three gates guard the way of a design. A model reply must hold a JSON object; a document must have
the sections of a design, a name, a category and a level of detail in range; a design that a script
is to be written for must have its metadata, geometry and parameters and a level of detail in
range. Each gate names the first thing that is wrong.
-/

namespace FamilyDesign

/-- Why a document or a design does not pass a gate. -/
inductive StructureFault
  | emptyReply
  | noObject
  | invalidJson (message : Text)
  | beyond (limit : Limit)
  | notObject
  | missingField (name : Text)
  | metadataNotObject
  | missingNames
  | lodNotNumber (v : Json)
  | lodUnbounded (fault : NumberFault)
  | lodOutOfRange (lod : Int)
  | schemaMismatch (count : Nat)
  | missingSection (name : Text)
  | lodInvalid (lod : Option Int)

namespace StructureFault

/-- Whether the fault lies in a model reply and not in a document. -/
def isReply : StructureFault → Bool
  | emptyReply | noObject | invalidJson _ | notObject => true
  | _ => false

end StructureFault

namespace Design

/-- The least and the greatest level of detail. -/
def lodRange : Int × Int := (100, 500)

/-- Whether a level of detail is in range. -/
def lodInRange (lod : Int) : Bool :=
  lodRange.1 ≤ lod && lod ≤ lodRange.2

end Design

/-- The wording of a structure fault. -/
def StructureFault.message : StructureFault → Text
  | emptyReply => "Empty model response"
  | noObject => "No JSON object found in model response"
  | invalidJson message => "Invalid JSON in model response: " ++ message
  | beyond limit => limit.message
  | notObject => "Model response JSON is not an object"
  | missingField name => "Missing required SIR field: " ++ name
  | metadataNotObject => "familyMetadata must be an object"
  | missingNames => "Missing required family metadata (familyName, category)"
  | lodNotNumber v => "LOD level must be a number, got " ++ v.shown
  | lodUnbounded fault => fault.message
  | lodOutOfRange lod =>
    "LOD level must be between " ++ Numeric.intText Design.lodRange.1 ++ " and "
      ++ Numeric.intText Design.lodRange.2 ++ ", got " ++ Numeric.intText lod
  | schemaMismatch count =>
    "SIR does not match schema: " ++ Numeric.intText count ++ " errors"
  | missingSection name => "Missing " ++ name ++ " in SIR"
  | lodInvalid lod => "Invalid LOD level: " ++ (Document.optional .int lod).shown

namespace Design

/-! ## Model replies -/

/-- The text from the first opening brace to the last closing one. -/
def objectSpan? (reply : List CodePoint) : Option (List CodePoint) :=
  let fromOpening := reply.dropWhile (fun c : CodePoint => c != '\x7b')
  let span := Text.dropRightWhile (fun c : CodePoint => c != '\x7d') fromOpening
  if span.length < 2 then none else some span

/-- The JSON object that a model reply holds; prose around it is ignored. -/
def objectOfReply (reply : Option Text) : Except StructureFault Fields :=
  match reply with
  | none | some "" => .error .emptyReply
  | some s =>
    match objectSpan? s.toList with
    | none => .error .noObject
    | some span =>
      match Json.readChars span with
      | .error (.beyond limit) => .error (.beyond limit)
      | .error fault => .error (.invalidJson (fault.message span))
      | .ok (.object fields) => .ok fields
      | .ok _ => .error .notObject

/-! ## Documents -/

/-- The sections that a document must have. -/
def requiredSections : List Text :=
  ["familyMetadata", "geometryDefinition", "parameters", "materials", "visibilitySettings"]

/-- The sections that a script cannot be written without. -/
def scriptSections : List Text :=
  ["familyMetadata", "geometryDefinition", "parameters"]

/-- The first of the sections that is absent or `null`. -/
def missingSection? (sections : List Text) (fields : Fields) : Option Text :=
  sections.find? fun name => ((Json.object fields).field? name).isNone

/-- The level of detail as the document gate reads it: the integer part of a number or an integer
numeral. -/
def checkedLod (metadata : Fields) : Except StructureFault Int :=
  let v := (metadata.lookup "lodLevel").getD .null
  match v.toInteger with
  | .ok lod => .ok lod
  | .error .infiniteInteger => .error (.lodUnbounded .infiniteInteger)
  | .error _ => .error (.lodNotNumber v)

/-- Whether the metadata has a family name and a category that are not empty. -/
def hasNames (metadata : Fields) : Bool :=
  ((metadata.lookup "familyName").getD .null).isTrue
    && ((metadata.lookup "category").getD .null).isTrue

/-- Passes the metadata of a document. -/
def checkMetadata : Json → Except StructureFault Unit
  | .object metadata =>
    if hasNames metadata then do
      let lod ← checkedLod metadata
      if lodInRange lod then .ok () else .error (.lodOutOfRange lod)
    else .error .missingNames
  | _ => .error .metadataNotObject

/-- Passes a document that has the sections of a design, a name, a category and a level of detail
in range. -/
def checkStructure (fields : Fields) : Except StructureFault Unit :=
  match missingSection? requiredSections fields with
  | some name => .error (.missingField name)
  | none => checkMetadata ((fields.lookup "familyMetadata").getD .null)

/-- The design that a document describes; how many places are wrong if it describes none. -/
def ofFields (fields : Fields) : Except StructureFault Design :=
  match load fields with
  | .valid d => .ok d
  | .invalid places => .error (.schemaMismatch places.length)

/-- The design of a document that passes its gate. -/
def build (fields : Fields) : Except StructureFault Design := do
  checkStructure fields
  ofFields fields

/-- The design that a model reply describes. -/
def ofReply (reply : Option Text) : Except StructureFault Design := do
  build (← objectOfReply reply)

/-! ## Designs ahead of their script -/

/-- Passes a design that a script can be written for. -/
def checkEmittable (d : Design) : Except StructureFault Design :=
  if d.metadata.isNone then .error (.missingSection "familyMetadata")
  else if d.geometry.isNone then .error (.missingSection "geometryDefinition")
  else if d.parameterSet.isNone then .error (.missingSection "parameters")
  else if d.lod.any lodInRange then .ok d
  else .error (.lodInvalid d.lod)

/-- The design of a document that a script can be written for. -/
def emittableOfFields (fields : Fields) : Except StructureFault Design :=
  match missingSection? scriptSections fields with
  | some name => .error (.missingSection name)
  | none => do checkEmittable (← ofFields fields)

end Design

end FamilyDesign
