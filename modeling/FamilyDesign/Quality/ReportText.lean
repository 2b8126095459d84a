import FamilyDesign.Document.Field
import FamilyDesign.Quality.Report

/-!
# Written reports

A report as a JSON object, and as a document with a table of the passes, their findings and the
suggestions.
-/

namespace FamilyDesign.Quality

open Document

/-! ## As an object -/

/-- A list of texts. -/
def textList (texts : List Text) : Json := .array (texts.map .text)

/-- A verdict. -/
def Verdict.write (v : Verdict) : Json :=
  .object [("name", .text v.name), ("pass", .bool v.passed), ("score", .int v.score),
    ("issues", textList v.issues), ("warnings", textList v.warnings),
    ("critical", .bool v.critical), ("details", .object v.details)]

/-- A recommendation. -/
def Recommendation.write (r : Recommendation) : Json :=
  .object [("pass_name", .text r.passName), ("priority", .text r.priority.name),
    ("findings", textList r.findings), ("suggestions", textList r.suggestions)]

/-- The fields of a report. -/
def Report.write (r : Report) : Fields :=
  [("family_name", .text r.familyName), ("category", .text r.category),
    ("lod_level", optional .int r.lod), ("overall_pass", .bool r.ready),
    ("overall_score", .real (r.score.roundTo 2)), ("timestamp", .text r.timestamp.withOffset),
    ("validations", .object (r.verdicts.map fun (name, v) => (name, v.write))),
    ("recommendations", .array (r.recommendations.map (·.write)))]

/-- The fields that sum a report up. -/
def Report.writeSummary (r : Report) : Fields :=
  [("order", textList (r.verdicts.map (·.1))), ("summary", .text r.summary),
    ("issues", .int r.issueCount), ("warnings", .int r.warningCount),
    ("failed", textList r.failedPasses)]

/-- The report as a JSON text. -/
def Report.json (r : Report) : Text := Json.indented (.object r.write)

/-! ## As a document -/

/-- A text, or what stands for it where it is empty. -/
def orElseText (s otherwise : Text) : Text := if s.isEmpty then otherwise else s

namespace Report

/-- An empty line. -/
def blankLine : Text := ""

/-- What is said where nothing is found. -/
def praise : Text := "No issues found. Family passes all QA checks."

/-- The lines at the head of the document. -/
def headLines (r : Report) : List Text :=
  ["# QA Report: " ++ orElseText r.familyName "Unnamed family", "",
    "**Category:** " ++ orElseText r.category "n/a",
    "**LOD:** " ++ ((r.lod.map Numeric.intText).getD "n/a"),
    "**Status:** " ++ (if r.ready then "PASS" else "FAIL"),
    "**Score:** " ++ r.score.fixed 1,
    "**Validated:** " ++ r.timestamp.heading, ""]

/-- The line of the table for one pass. -/
def tableLine (name : Text) (v : Verdict) : Text :=
  "| " ++ (if v.critical then name ++ " (critical)" else name) ++ " | "
    ++ (if v.passed then "pass" else "FAIL") ++ " | " ++ Numeric.intText v.score
    ++ s!" | {v.issues.length} | {v.warnings.length} |"

/-- The head of the table of the passes. -/
def tableHead : List Text :=
  ["## Passes", "", "| Pass | Result | Score | Issues | Warnings |",
    "|------|--------|-------|--------|----------|"]

/-- The table of the passes. -/
def tableLines (r : Report) : List Text :=
  tableHead ++ r.verdicts.map (fun (name, v) => tableLine name v) ++ [blankLine]

/-- The lines for the findings of one pass. -/
def findingLines (name : Text) (v : Verdict) : List Text :=
  v.issues.map ("- **" ++ name ++ "** ERROR: " ++ ·)
    ++ v.warnings.map ("- **" ++ name ++ "** WARNING: " ++ ·)

/-- A section of the document, left out if it has no lines. -/
def sectionLines (title : Text) (present : Bool) (lines : List Text) : List Text :=
  if present then [title, blankLine] ++ lines ++ [blankLine] else []

/-- The document. -/
def document (r : Report) : Text :=
  let findings := r.verdicts.flatMap fun (name, v) => findingLines name v
  let suggestions := r.recommendations.flatMap fun rec =>
    rec.suggestions.map fun s => "- [" ++ rec.priority.name ++ "] " ++ rec.passName ++ ": " ++ s
  Text.joinWith "\n" (r.headLines ++ r.tableLines
    ++ sectionLines "## Findings" (!findings.isEmpty) findings
    ++ sectionLines "## Recommendations" (!r.recommendations.isEmpty) suggestions
    ++ (if findings.isEmpty then [praise, blankLine] else []))

end Report

end FamilyDesign.Quality
