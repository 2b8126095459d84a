import FamilyDesign.Numeric.Notation

/-!
# Instants

A moment in universal time, in whole microseconds, and its written forms: the date by the Gregorian
calendar, the time of day with six more places only if they are needed.
-/

namespace FamilyDesign

open Numeric (Binary64)

/-- A moment: microseconds since the start of 1970. -/
structure Instant where
  micros : Int
deriving DecidableEq

instance : Inhabited Instant := ⟨⟨0⟩⟩

namespace Instant

/-- Microseconds in a second. -/
def perSecond : Nat := 1000000

/-- The microseconds in a number of seconds: the fraction is scaled as a real, then rounded, a half
going to the even neighbour. -/
def microsIn (seconds : Binary64) : Int :=
  let units := seconds.value.natAbs
  let fraction := Binary64.nearest false (units % Binary64.unitsPerOne) 1 * Binary64.ofInt perSecond
  let whole := units / Binary64.unitsPerOne * perSecond
    + Numeric.roundDiv fraction.value.natAbs Binary64.unitsPerOne
  if seconds.isNegative then -(whole : Int) else whole

/-- Microseconds in a day. -/
def perDay : Nat := 86400 * perSecond

/-- The first moment of the calendar. -/
def first : Instant := ⟨-62135596800 * perSecond⟩

/-- The moment after the last one of the calendar, that of the year 9999. -/
def bound : Instant := ⟨253402300800 * perSecond⟩

/-- Whether a moment is in the calendar. -/
def isDated (t : Instant) : Bool := first.micros ≤ t.micros && t.micros < bound.micros

/-- The seconds from an earlier moment to this one. -/
def since (t earlier : Instant) : Binary64 :=
  Binary64.ofQuotient (t.micros - earlier.micros) perSecond

/-- A date of the Gregorian calendar. -/
structure Date where
  year : Int
  month : Int
  day : Int

/-- The date a number of days after the first of March of year 0. Years run from March to February,
so that the leap day comes last in its year. -/
def dateOfDays (days : Int) : Date :=
  let era := days / 146097
  let dayOfEra := days % 146097
  let yearOfEra := (dayOfEra - dayOfEra / 1460 + dayOfEra / 36524 - dayOfEra / 146096) / 365
  let dayOfYear := dayOfEra - (365 * yearOfEra + yearOfEra / 4 - yearOfEra / 100)
  let shifted := (5 * dayOfYear + 2) / 153
  let month := if shifted < 10 then shifted + 3 else shifted - 9
  let year := yearOfEra + era * 400
  ⟨if month ≤ 2 then year + 1 else year, month, dayOfYear - (153 * shifted + 2) / 5 + 1⟩

/-- Whole seconds since the start of 1970. -/
def seconds (t : Instant) : Int := t.micros / perSecond

/-- The date. -/
def date (t : Instant) : Date :=
  dateOfDays (t.seconds / 86400 + 719468)

/-- The last `width` decimal digits of a number. -/
def padded (width : Nat) (n : Int) : String :=
  let digits := Numeric.decimalDigits n.natAbs
  String.ofList (List.replicate (width - digits.length) '0' ++ digits)

/-- Year, month and day. -/
def dateText (t : Instant) : String :=
  padded 4 t.date.year ++ "-" ++ padded 2 t.date.month ++ "-" ++ padded 2 t.date.day

/-- Hour and minute. -/
def minuteText (t : Instant) : String :=
  padded 2 (t.seconds / 3600 % 24) ++ ":" ++ padded 2 (t.seconds / 60 % 60)

/-- Date and time of day to the second, and the six places behind it if they are not zero. -/
def stamp (t : Instant) : String :=
  let fraction := t.micros % perSecond
  t.dateText ++ "T" ++ t.minuteText ++ ":" ++ padded 2 (t.seconds % 60)
    ++ (if fraction = 0 then "" else "." ++ padded 6 fraction)

/-- The written form with the offset from universal time. -/
def withOffset (t : Instant) : String := t.stamp ++ "+00:00"

/-- The written form with the letter for universal time. -/
def withZone (t : Instant) : String := t.stamp ++ "Z"

/-- The form of a heading: to the minute. -/
def heading (t : Instant) : String := t.dateText ++ " " ++ t.minuteText ++ " UTC"

end Instant

end FamilyDesign
