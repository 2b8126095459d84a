import FamilyDesign.Text.Digit
import FamilyDesign.Text.Search

/-!
# Numbered hosts

A host may be a number in place of a name. A short number is four bytes in decimal with points
between them. A long one, which stands in square brackets, is eight groups of hexadecimal digits
with colons between them: the last two groups may be written as a short number, and two colons may
stand for a run of groups that are zero.
-/

namespace FamilyDesign.Http

/-- Whether the digits are a byte in decimal, without leading zeros. -/
def isByteNumeral (cs : List CodePoint) : Bool :=
  !cs.isEmpty && cs.all (·.isDigit) && cs.length ≤ 3
    && (cs.length = 1 || cs.head? != some (.char '0'))
    && cs.foldl (fun n c => n * 10 + (c.toNat - '0'.toNat)) 0 ≤ 255

/-- Whether the text is a short number. -/
def isShortNumber (cs : List CodePoint) : Bool :=
  let parts := Text.pieces '.' cs
  parts.length = 4 && parts.all isByteNumeral

/-- Whether the text is a group of a long number. -/
def isGroup (cs : List CodePoint) : Bool :=
  !cs.isEmpty && cs.length ≤ 4 && cs.all Text.isHexDigit

/-- The groups of a long number, a short number at their end as the two groups that it stands for.
`none` if what has points in it is no short number. -/
def spelledOut? : List (List CodePoint) → Option (List (List CodePoint))
  | [] => some []
  | [last] =>
    if !last.contains '.' then some [last]
    else if isShortNumber last then some [['0'], ['0']]
    else none
  | part :: rest => (spelledOut? rest).map (part :: ·)

/-- How many groups stand on one side of two colons; a side on which there are none is one empty
part. -/
def groupsBeside? : List (List CodePoint) → Option Nat
  | [] => none
  | [[]] => some 0
  | parts => if parts.all isGroup then some parts.length else none

/-- Whether two colons at the empty part of an index leave room for a group. -/
def isGap (parts : List (List CodePoint)) (index : Nat) : Bool :=
  parts[index]? == some []
    && match groupsBeside? (parts.take index), groupsBeside? (parts.drop (index + 1)) with
      | some before, some after => before + after < 8
      | _, _ => false

/-- The text ahead of a percent sign, behind which the name of a network may stand; `none` if no
name stands there, or more than one. -/
def withoutNetwork? (cs : List CodePoint) : Option (List CodePoint) :=
  match Text.pieces '%' cs with
  | [number] => some number
  | [number, _ :: _] => some number
  | _ => none

/-- Whether the text is a long number. -/
def isLongNumber (cs : List CodePoint) : Bool :=
  match (withoutNetwork? cs).bind fun number => spelledOut? (Text.pieces ':' number) with
  | some parts =>
    (parts.length = 8 && parts.all isGroup) || (List.range parts.length).any (isGap parts)
  | none => false

/-- Whether the text has the form that is kept free for later kinds of numbers: a `v`, hexadecimal
digits, a point, and something behind it. -/
def isLaterNumber : List CodePoint → Bool
  | 'v' :: rest =>
    let version := rest.takeWhile Text.isHexDigit
    !version.isEmpty &&
      match rest.drop version.length with
      | '.' :: _ :: _ => true
      | _ => false
  | _ => false

end FamilyDesign.Http
