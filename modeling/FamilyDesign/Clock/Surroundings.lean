import FamilyDesign.Clock.Instant
import FamilyDesign.Json.Number
import FamilyDesign.Text.Escape

/-!
# Surroundings

What a running program is given from outside: the time of day, a clock that counts seconds, and
fresh identifiers. Time passes only when the surroundings are moved on, never out of the calendar,
and no identifier is issued twice.
-/

namespace FamilyDesign

open Numeric (Binary64)

/-- Why time does not pass by a number of seconds. -/
inductive ClockFault
  | number (fault : NumberFault)
  | noNumber (v : Json)
  | boundlessDays
  | tooManyDays (days : Int)
  | outOfCalendar

/-- How many days a span of time may have. -/
def longestSpan : Nat := 999999999

/-- The wording of a clock fault. -/
def ClockFault.message : ClockFault → Text
  | number fault => fault.message
  | noNumber v => "unsupported type for timedelta seconds component: " ++ v.shapeName
  | boundlessDays => "Python int too large to convert to C int"
  | tooManyDays days =>
    "days=" ++ Numeric.intText days ++ "; must have magnitude <= " ++ Numeric.intText longestSpan
  | outOfCalendar => "date value out of range"

/-- The time, a clock in seconds, and how many identifiers have been issued. -/
structure Surroundings where
  now : Instant
  uptime : Binary64 := 0
  issued : Nat := 0

namespace Surroundings

-- Powers are those of the core library, whatever algebra is imported beside this module.
attribute [local instance (1100)] instPowNat

/-- The microseconds in a number of seconds. -/
def microsOf : Scalar → Except NumberFault Int
  | .int n => .ok (n * Instant.perSecond)
  | .truth b => .ok (Scalar.ofTruth b * Instant.perSecond)
  | .real x => do
    let _ ← Json.integerPart x
    .ok (Instant.microsIn x)

/-- A span of time in microseconds, unless it has too many days. -/
def span (micros : Int) : Except ClockFault Int :=
  let days := micros / Instant.perDay
  if days < -2 ^ (31 : Nat) ∨ 2 ^ (31 : Nat) ≤ days then .error .boundlessDays
  else if longestSpan < days.natAbs then .error (.tooManyDays days)
  else .ok micros

/-- The moment a number of seconds after another. -/
def later (t : Instant) (seconds : Scalar) : Except ClockFault Instant := do
  let micros ← span (← (microsOf seconds).mapError .number)
  let moment : Instant := ⟨t.micros + micros⟩
  if moment.isDated then .ok moment else .error .outOfCalendar

/-- The surroundings a number of seconds later. -/
def advance (s : Surroundings) (seconds : Scalar) : Except ClockFault Surroundings := do
  let now ← later s.now seconds
  .ok { s with now, uptime := s.uptime + seconds.nearest }

theorem isDated_of_later {t moment : Instant} {seconds : Scalar}
    (h : later t seconds = .ok moment) : moment.isDated = true := by
  unfold later at h
  cases hs : microsOf seconds with
  | error fault =>
    rw [hs] at h
    replace h : Except.error (ClockFault.number fault) = Except.ok moment := h
    cases h
  | ok micros =>
    rw [hs] at h
    replace h : (span micros >>= fun delta =>
        if Instant.isDated ⟨t.micros + delta⟩ then Except.ok ⟨t.micros + delta⟩
        else Except.error ClockFault.outOfCalendar) = Except.ok moment := h
    cases hp : span micros with
    | error fault =>
      rw [hp] at h
      cases h
    | ok delta =>
      rw [hp] at h
      replace h : (if Instant.isDated ⟨t.micros + delta⟩ then Except.ok ⟨t.micros + delta⟩
        else Except.error ClockFault.outOfCalendar) = Except.ok moment := h
      split at h
      · cases h
        assumption
      · cases h

/-- The hexadecimal form of the identifier with a number: eight digits, four times over. -/
def identifier (n : Nat) : List CodePoint :=
  let digits := Text.hexDigits 8 n
  digits ++ digits ++ digits ++ digits

/-- A fresh identifier, and the surroundings that have issued it. -/
def issue (s : Surroundings) : List CodePoint × Surroundings :=
  (identifier (s.issued + 1), { s with issued := s.issued + 1 })

end Surroundings

end FamilyDesign
