import FamilyDesign.Clock.Instant
import FamilyDesign.Script.Rule
import FamilyDesign.Script.Section

/-!
# Emitting a script

The script of a design: its sections with empty lines between them, shortened by the rules, and the
figures that describe it. Nothing is written for a design that lacks a section it needs.
-/

namespace FamilyDesign.Script

/-- The figures of a script. -/
structure Summary where
  familyName : Text
  category : Text
  lod : Option Int
  length : Nat
  estimatedSeconds : Nat
  complexity : Nat
  optimizations : List Text
  generatedAt : Instant

/-- The fields of a script's figures. -/
def Summary.write (s : Summary) : Fields :=
  [("family_name", .text s.familyName), ("category", .text s.category),
    ("lod_level", Document.optional .int s.lod), ("code_length", .int s.length),
    ("estimated_execution_time", .int s.estimatedSeconds), ("complexity_score", .int s.complexity),
    ("optimizations", .array (s.optimizations.map .text)),
    ("generated_at", .text s.generatedAt.withZone)]

/-- A script: its text, its figures, and its sections before they were shortened. -/
structure Emission where
  code : Text
  summary : Summary
  sections : List (Text × Text)

/-- The seconds that building a family is expected to take, five minutes at most. -/
def estimatedSeconds (d : Design) : Nat :=
  min 300 (30 + 5 * d.extrusions.length + 2 * d.parameters.length + 3 * d.types.length)

/-- How complex a family is. -/
def complexity (d : Design) : Nat :=
  2 * d.extrusions.length + d.parameters.length + 2 * d.types.length

/-- The sections of a design, each with its name. -/
def sectionTexts (d : Design) : Except Fault (List (Text × Text)) :=
  Section.all.mapM fun s => do .ok (s.name, ← s.text d)

/-- The sections with an empty line between neighbours. -/
def combined (sections : List (Text × Text)) : Text :=
  Text.joinWith "\n\n" (sections.map (·.2)) ++ "\n"

/-- The script of a design that has what it needs. -/
def write (rules : List Rule) (d : Design) (now : Instant) : Except Fault Emission := do
  let sections ← sectionTexts d
  let (code, applied) := optimize rules d (combined sections)
  .ok {
    code
    summary := {
      familyName := d.familyName
      category := d.category
      lod := d.lod
      length := code.length
      estimatedSeconds := estimatedSeconds d
      complexity := complexity d
      optimizations := applied
      generatedAt := now }
    sections }

/-- The script of a design. -/
def emit (rules : List Rule) (d : Design) (now : Instant) : Except Fault Emission := do
  let d ← (Design.checkEmittable d).mapError .structural
  write rules d now

/-- The script of the design that a document describes. -/
def emitFields (rules : List Rule) (fields : Fields) (now : Instant) : Except Fault Emission := do
  let d ← (Design.emittableOfFields fields).mapError .structural
  write rules d now

end FamilyDesign.Script
