import FamilyDesign.Prompt.Token
import FamilyDesign.Text.Search

/-!
# Keywords of dimensions

The phrases that name a dimension. Phrases are found from the left without overlap, the longest
first at each place, so that "sill height" names the sill and not the height.
-/

namespace FamilyDesign

/-- A dimension that a prompt can set. -/
inductive Dimension
  | width
  | height
  | sillHeight
  | inset
deriving DecidableEq

namespace Dimension

/-- The name of a dimension. -/
def name : Dimension → Text
  | width => "width"
  | height => "height"
  | sillHeight => "sill_height"
  | inset => "inset"

/-- The dimensions in the order in which they are looked for. -/
def all : List Dimension := [width, height, sillHeight, inset]

/-- The dimension with a given name. -/
def ofName? (s : Text) : Option Dimension :=
  all.find? (·.name == s)

end Dimension

namespace Prompt

/-- The phrases that name dimensions, longer ones first. -/
def keywordPhrases : List (List Text × Dimension) := [
  (["sill", "height"], .sillHeight), (["from", "floor"], .sillHeight),
  (["above", "floor"], .sillHeight), (["frame", "depth"], .inset),
  (["wide"], .width), (["width"], .width),
  (["high"], .height), (["height"], .height), (["tall"], .height),
  (["sill"], .sillHeight), (["inset"], .inset), (["depth"], .inset)]

/-- A phrase found from token `start` to token `stop`. -/
structure Keyword where
  dimension : Dimension
  phrase : Text
  start : Nat
  stop : Nat
deriving DecidableEq

/-- The first phrase of the list at the front of the tokens. -/
def phraseAhead? (tokens : List Token) : Option (List Text × Dimension) :=
  keywordPhrases.find? fun (phrase, _) => (tokens.take phrase.length).map (·.text) == phrase

/-- The keywords among tokens, from the left, where the first `skip` tokens belong to a phrase
already found. -/
def keywordsFrom : Nat → List Token → List Keyword
  | _, [] => []
  | skip + 1, _ :: rest => keywordsFrom skip rest
  | 0, token :: rest =>
    match phraseAhead? (token :: rest) with
    | some (phrase, dimension) =>
      ⟨dimension, Text.joinWith " " phrase, token.index, token.index + (phrase.length - 1)⟩
        :: keywordsFrom (phrase.length - 1) rest
    | none => keywordsFrom 0 rest

/-- The keywords among tokens. -/
def keywords (tokens : List Token) : List Keyword :=
  keywordsFrom 0 tokens

end Prompt

end FamilyDesign
