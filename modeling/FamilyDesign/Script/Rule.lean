import FamilyDesign.Script.Role
import FamilyDesign.Text.LetterTable
import FamilyDesign.Text.Search

/-!
# Rules that shorten a script

A family of a low level of detail gets a shorter script. Each rule drops whole lines: comments, the
lines that build details, or the lines that build voids. A rule is applied where it drops something.
-/

namespace FamilyDesign.Script

/-- The variables by which the lines of a role are known. -/
def roleVariables (role : Role) : List (List CodePoint) :=
  let parts : List Text := ["sketch", "curves", "profile", "obj", "material"]
  parts.map fun part => (role.word ++ "_" ++ part).toList

/-- Whether one of the words stands at the front of `cs` with no letter behind it. -/
def wholeWordAhead (words : List (List CodePoint)) (cs : List CodePoint) : Bool :=
  words.any fun word => word.isPrefixOf cs && !(cs.drop word.length).head?.any Text.isWordChar

/-- Whether one of the words occurs as a whole word; `glued` tells that a letter stands before. -/
def hasWord (words : List (List CodePoint)) : Bool → List CodePoint → Bool
  | _, [] => false
  | glued, c :: rest =>
    (!glued && wholeWordAhead words (c :: rest)) || hasWord words (Text.isWordChar c) rest

/-- Whether a line is a comment. -/
def isComment (line : List CodePoint) : Bool :=
  (line.dropWhile fun c : CodePoint => c == ' ' || c == '\t').head? == some (.char '#')

/-- Whether a line builds an extrusion of a role. -/
def buildsRole (role : Role) (line : List CodePoint) : Bool :=
  hasWord (roleVariables role) false line

/-- A rule that shortens a script. -/
inductive Rule
  | stripComments
  | simplifiedGeometry
  | minimizeVoids
deriving DecidableEq

namespace Rule

/-- All rules, in the order in which they are applied. -/
def standard : List Rule := [stripComments, simplifiedGeometry, minimizeVoids]

/-- The name of a rule. -/
def name : Rule → Text
  | stripComments => "strip_comments"
  | simplifiedGeometry => "simplified_geometry"
  | minimizeVoids => "minimize_voids"

/-- The rule of a name. -/
def ofName? (s : Text) : Option Rule :=
  standard.find? (·.name == s)

/-- Whether a rule drops a line. -/
def drops : Rule → List CodePoint → Bool
  | stripComments, line => isComment line
  | simplifiedGeometry, line => buildsRole .detail line
  | minimizeVoids, line => buildsRole .void line

/-- The lines that a rule keeps, put together. -/
def keep (rule : Rule) (code : List CodePoint) : List CodePoint :=
  ((Text.newlineLines code).filter (!rule.drops ·)).flatten

end Rule

/-- The name under which many extrusions are noted. -/
def consolidationNote : Text := "geometry_consolidation"

/-- The number of extrusions above which they are noted. -/
def consolidationThreshold : Nat := 5

/-- Whether the rules apply to a design: its level of detail is at most 200. -/
def isLowDetail (d : Design) : Bool :=
  d.lod.any (· ≤ 200)

/-- The script after one rule, its name added to those applied if it dropped anything. -/
def applyRule (low : Bool) (before : List CodePoint × List Text) (rule : Rule) :
    List CodePoint × List Text :=
  let (code, applied) := before
  let kept := if low then rule.keep code else code
  if kept = code then (code, applied) else (kept, applied ++ [rule.name])

/-- The script after a sequence of rules, and what was applied. -/
def optimize (rules : List Rule) (d : Design) (code : Text) : Text × List Text :=
  let (kept, applied) := rules.foldl (applyRule (isLowDetail d)) (code.toList, [])
  (Text.ofList kept,
    applied ++ (if consolidationThreshold < d.extrusions.length then [consolidationNote] else []))

end FamilyDesign.Script
