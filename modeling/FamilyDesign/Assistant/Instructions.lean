import FamilyDesign.Assistant.Basic
import FamilyDesign.Json.Writer

/-!
# Instructions

The queries that assistants are asked. The standing instructions give the rules, the shape of the
document that is asked for, and what the session has been about so far.
-/

namespace FamilyDesign.Instructions

/-- Lines as a text. -/
def lines (parts : List Text) : Text := Text.joinWith "\n" parts

/-- The shape of the document that is asked for. -/
def documentShape : Text :=
  "\n".intercalate [
    "\x7b",
    "  \"familyMetadata\": \x7b",
    "    \"familyName\": \"string\",",
    "    \"category\": \"string (e.g., 'Doors', 'Windows', 'Furniture')\",",
    "    \"description\": \"string\",",
    "    \"lodLevel\": \"number (100, 200, 300, 400 or 500)\",",
    "    \"isHosted\": \"boolean\",",
    "    \"hostingType\": \"string (if hosted)\"",
    "  \x7d,",
    "  \"geometryDefinition\": \x7b",
    "    \"extrusions\": [",
    "      \x7b",
    "        \"name\": \"string\",",
    "        \"startPoint\": \x7b\"x\": 0, \"y\": 0, \"z\": 0\x7d,",
    "        \"endPoint\": \x7b\"x\": 0, \"y\": 0, \"z\": 0\x7d,",
    "        \"profile\": [\x7b\"x\": 0, \"y\": 0\x7d],",
    "        \"material\": \"string\",",
    "        \"isSolid\": true",
    "      \x7d",
    "    ],",
    "    \"referencePlanes\": [",
    "      \x7b",
    "        \"name\": \"string\",",
    "        \"origin\": \x7b\"x\": 0, \"y\": 0, \"z\": 0\x7d,",
    "        \"normal\": \x7b\"x\": 0, \"y\": 0, \"z\": 1\x7d,",
    "        \"locked\": true",
    "      \x7d",
    "    ],",
    "    \"constraints\": [",
    "      \x7b",
    "        \"element1\": \"string\",",
    "        \"element2\": \"string\",",
    "        \"constraintType\": \"align | lock | dimension\",",
    "        \"offset\": 0",
    "      \x7d",
    "    ]",
    "  \x7d,",
    "  \"parameters\": \x7b",
    "    \"familyParameters\": [",
    "      \x7b",
    "        \"name\": \"string (letters, digits, underscore; starts with a letter)\",",
    "        \"type\": \"Length | Number | Text | Material | YesNo | Integer\",",
    "        \"group\": \"string\",",
    "        \"isInstance\": true,",
    "        \"defaultValue\": \"any\",",
    "        \"formula\": \"string (optional)\"",
    "      \x7d",
    "    ],",
    "    \"sharedParameters\": [],",
    "    \"familyTypes\": [",
    "      \x7b",
    "        \"name\": \"string\",",
    "        \"parameters\": \x7b\x7d",
    "      \x7d",
    "    ]",
    "  \x7d,",
    "  \"materials\": [",
    "    \x7b",
    "      \"name\": \"string\",",
    "      \"parameterName\": \"string\",",
    "      \"defaultValue\": \"string\"",
    "    \x7d",
    "  ],",
    "  \"nestedFamilies\": [],",
    "  \"visibilitySettings\": \x7b",
    "    \"coarse\": [\"element names\"],",
    "    \"medium\": [\"element names\"],",
    "    \"fine\": [\"element names\"]",
    "  \x7d",
    "\x7d"]

/-- The rules. -/
def rules : Text :=
  lines [
    "You are a BIM family programmer.  Convert a natural-language description of",
    "a building component into a Structured Intermediate Representation (SIR).",
    "",
    "Rules:",
    "1. Output ONLY one JSON object following the SIR schema below.  No prose, no markdown.",
    "2. You describe the family; you do not generate geometry files.",
    "3. Keep consistent with the previous context of this session.",
    "4. Infer implicit requirements: doors and windows are wall-hosted, windows",
    "   carry a sill height, furniture carries material parameters.",
    "5. All lengths are in feet.  1 ft = 304.8 mm = 12 in = 30.48 cm.",
    "",
    "SIR schema:"]

/-- The standing instructions, ahead of a context. -/
def standing (context : Json) : Text :=
  lines [rules, documentShape, "", "Previous context:",
    (if context.isTrue then context else .object []).indented, ""]

/-- The query for a new design. -/
def generation (wish : Text) (context : Json) : Query where
  instructions := standing context
  request := "User request: " ++ wish

/-- The query for a design with changes. -/
def refinement (feedback : Text) (design context : Json) : Query where
  instructions := standing context
  request := lines [
    "Refine the existing SIR according to the feedback.  Keep every valid aspect",
    "of the original design and change only what the feedback asks for.",
    "",
    "FEEDBACK: " ++ feedback,
    "",
    "ORIGINAL SIR:",
    design.indented,
    "",
    "Output ONLY the updated SIR as one JSON object.",
    ""]

/-- The query for a sibling of a design, which has a number or some other label. -/
def variation (design label : Json) : Query where
  instructions := standing .null
  request := lines [
    "Create variation " ++ label.plain ++ " of this BIM family design.  Vary dimensions,",
    "materials or parametric relationships while keeping the core function and",
    "the SIR schema.",
    "",
    "BASE SIR:",
    design.indented,
    "",
    "Output ONLY the new SIR as one JSON object.",
    ""]

end FamilyDesign.Instructions
