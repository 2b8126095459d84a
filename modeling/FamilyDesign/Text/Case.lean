import FamilyDesign.Text.Basic
import FamilyDesign.Text.CaseTable

/-!
# Letter case

Lower case and initial capitals for all scripts. A lower case text can be longer than the text it
comes from, since the dotted capital I becomes two characters; the capital sigma has a form of its
own at the end of a word.
-/

namespace FamilyDesign.Text

/-- The lower case of a character other than the capital sigma. -/
def lowerChar (c : CodePoint) : List CodePoint :=
  if c.toNat < 0x80 then [c.toLower]
  else if c.toNat = 0x130 then ['i', CodePoint.ofNat 0x307]
  else [mapCase lowerRuns c]

/-- Whether the nearest character that counts for case is a letter with case. -/
def casedNeighbour (cs : List CodePoint) : Bool :=
  (cs.dropWhile caseIgnorableRanges.covers).head?.any casedRanges.covers

/-- The lower case of a capital sigma after `before` (nearest first) and ahead of `after`: the
final form stands behind a letter and not ahead of one. -/
def lowerSigma (before after : List CodePoint) : CodePoint :=
  Char.ofNat (if casedNeighbour before && !casedNeighbour after then 0x3C2 else 0x3C3)

/-- The lower case of `cs` where `before` precedes it, nearest first. -/
def lowerAfter (before : List CodePoint) : List CodePoint → List CodePoint
  | [] => []
  | c :: rest =>
    (if c.toNat = 0x3A3 then [lowerSigma before rest] else lowerChar c)
      ++ lowerAfter (c :: before) rest

/-- The text in lower case. -/
def lower (s : Text) : Text :=
  Text.ofList (lowerAfter [] s.toList)

/-- The initial form of a letter. -/
def titleChar (c : CodePoint) : List CodePoint :=
  if c.toNat < 0x80 then [c.toUpper]
  else
    match titleExpansions.lookup c.toNat with
    | some codes => codes.map CodePoint.ofNat
    | none => [mapCase titleRuns c]

/-- The text with an initial capital and the rest in lower case. -/
def capitalize (s : Text) : Text :=
  match s.toList with
  | [] => ""
  | c :: rest => Text.ofList (titleChar c ++ lowerAfter [c] rest)

end FamilyDesign.Text
