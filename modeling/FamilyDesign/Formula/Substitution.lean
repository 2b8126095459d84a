import FamilyDesign.Formula.Template
import FamilyDesign.Formula.Token

/-!
# Substitution in a formula

Every whole-word occurrence of a name is replaced, where a word ends at any character that cannot
stand in a name. The replacement is a template, so it may be wrong.
-/

namespace FamilyDesign.Formula

/-- Whether the word stands at the front of `cs` with no character of a name around it; `glued`
tells that one stands before. -/
def wordAhead (word : List CodePoint) (glued : Bool) (cs : List CodePoint) : Bool :=
  !glued && word.isPrefixOf cs && !(cs.drop word.length).head?.any inName

/-- The text with each whole-word occurrence replaced, where the first `skip` characters belong to
an occurrence already replaced. -/
def replaceFrom (word replacement : List CodePoint) : Nat → Bool → List CodePoint → List CodePoint
  | skip + 1, _, c :: rest => replaceFrom word replacement skip (inName c) rest
  | _, glued, [] => if wordAhead word glued [] then replacement else []
  | 0, glued, c :: rest =>
    if wordAhead word glued (c :: rest) then
      replacement ++ (if word.isEmpty then [c] else [])
        ++ replaceFrom word replacement (word.length - 1) (inName c) rest
    else c :: replaceFrom word replacement 0 (inName c) rest

/-- Whole-word occurrences of a word replaced by fixed characters. -/
def replaceWord (word replacement cs : List CodePoint) : List CodePoint :=
  replaceFrom word replacement 0 false cs

/-- A formula with each whole-word occurrence of a name replaced by what a template stands for. -/
def substitute (formula name template : Text) : Except Template.Fault Text := do
  let replacement ← Template.expand name.toList template.toList
  .ok (Text.ofList (replaceWord name.toList replacement formula.toList))

end FamilyDesign.Formula
