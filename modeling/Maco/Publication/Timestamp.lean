import Maco.Base.Number
import Maco.Base.Result
import Maco.Base.Text

/-!
# Provider timestamps

A provider time is a text `YYYY-MM-DDTHH:MM:SSZ` naming a real calendar second, and times are
ordered as texts. The coordination records measure elapsed time by counting seconds from the first
day of year one.
-/

namespace Maco.Publication

open Maco.Base

/-- The separator a timestamp carries at a position; every other position holds a digit. -/
def timestampSeparator : ℕ → Option Char
  | 4 | 7 => some '-'
  | 10 => some 'T'
  | 13 | 16 => some ':'
  | 19 => some 'Z'
  | _ => none

/-- Twenty characters, digits and separators each in their place. -/
def timestampShape (text : String) : Bool :=
  text.toList.length == 20 && text.toList.zipIdx.all fun (c, index) =>
    match timestampSeparator index with
    | some separator => c == separator
    | none => isAsciiDigit c

/-- The characters from one position up to another. -/
def slice (text : String) (start stop : ℕ) : Option String :=
  if stop ≤ text.toList.length then
    some (String.ofList ((text.toList.drop start).take (stop - start)))
  else none

/-- A number of the timestamp, as its validation reads it. -/
def timestampDecimal (text : String) (start stop : ℕ) : Except String ℕ :=
  require ((slice text start stop).bind (parseUnsigned (2 ^ 32 - 1)))
    "forge timestamp component was invalid"

/-- The leap years of the proleptic Gregorian calendar. -/
def isLeapYear (year : ℕ) : Bool := year % 4 == 0 && (year % 100 != 0 || year % 400 == 0)

/-- The number of days of a month. -/
def daysInMonth (year : ℕ) : ℕ → ℕ
  | 1 | 3 | 5 | 7 | 8 | 10 | 12 => 31
  | 4 | 6 | 9 | 11 => 30
  | 2 => if isLeapYear year then 29 else 28
  | _ => 0

/-- `validate_timestamp`. -/
def validateTimestamp (text : String) : Except String Unit := do
  refuseIf (timestampShape text = false)
    "forge timestamp must be canonical UTC YYYY-MM-DDTHH:MM:SSZ"
  let year ← timestampDecimal text 0 4
  let month ← timestampDecimal text 5 7
  let day ← timestampDecimal text 8 10
  let hour ← timestampDecimal text 11 13
  let minute ← timestampDecimal text 14 16
  let second ← timestampDecimal text 17 19
  refuseIf (year = 0 ∨ month < 1 ∨ 12 < month ∨ 23 < hour ∨ 59 < minute ∨ 59 < second)
    "forge timestamp contains an out-of-range calendar or time component"
  refuseIf (day = 0 ∨ daysInMonth year month < day)
    "forge timestamp contains an invalid calendar day"

/-- `ForgeTimestamp`: a text its validation accepts. -/
structure ForgeTimestamp where
  text : String
  valid : validateTimestamp text = .ok ()

theorem ForgeTimestamp.text_injective : Function.Injective ForgeTimestamp.text := by
  rintro ⟨left, _⟩ ⟨right, _⟩ same
  cases same
  rfl

instance : LinearOrder ForgeTimestamp :=
  LinearOrder.lift' ForgeTimestamp.text ForgeTimestamp.text_injective

/-- A number of the timestamp, as the count of seconds reads it. -/
def timestampComponent (text : String) (start stop : ℕ) (label : String) : Except String ℕ := do
  let part ← require (slice text start stop) "forge timestamp shape changed unexpectedly"
  require (parseUnsigned (2 ^ 64 - 1) part) ("forge timestamp " ++ label ++ " was invalid")

def daysBeforeMonth : List ℕ := [0, 31, 59, 90, 120, 151, 181, 212, 243, 273, 304, 334]

/-- The leap day counts from March on. -/
def addLeapDay (year month days : ℕ) : Except String ℕ :=
  if isLeapYear year ∧ 2 < month then
    require (checkedAddU64 days 1) "forge timestamp leap day overflowed"
  else pure days

/-- `timestamp_seconds`. -/
def timestampSeconds (timestamp : ForgeTimestamp) : Except String ℕ := do
  let year ← timestampComponent timestamp.text 0 4 "year"
  let month ← timestampComponent timestamp.text 5 7 "month"
  let day ← timestampComponent timestamp.text 8 10 "day"
  let hour ← timestampComponent timestamp.text 11 13 "hour"
  let minute ← timestampComponent timestamp.text 14 16 "minute"
  let second ← timestampComponent timestamp.text 17 19 "second"
  let priorYear ← require (checkedSubU64 year 1) "forge timestamp year cannot be zero"
  let days ← require (do
    let days ← checkedMulU64 365 priorYear
    let days ← checkedAddU64 days (priorYear / 4)
    let days ← checkedSubU64 days (priorYear / 100)
    checkedAddU64 days (priorYear / 400)) "forge timestamp day count overflowed"
  let monthIndex ← require (checkedSubU64 month 1) "month cannot be zero"
  let before ← require daysBeforeMonth[monthIndex]? "forge timestamp month is outside its range"
  let days ← require (checkedAddU64 days before) "forge timestamp day count overflowed"
  let days ← addLeapDay year month days
  let dayIndex ← require (checkedSubU64 day 1) "day cannot be zero"
  let days ← require (checkedAddU64 days dayIndex) "forge timestamp day count overflowed"
  require (do
    let seconds ← checkedMulU64 days 86400
    let seconds ← checkedAddU64 seconds (← checkedMulU64 hour 3600)
    let seconds ← checkedAddU64 seconds (← checkedMulU64 minute 60)
    checkedAddU64 seconds second) "forge timestamp second count overflowed"

/-- The time between two provider times, refused when it runs backward. -/
def elapsedSeconds (start stop : ℕ) : Except String ℕ :=
  require (checkedSubU64 stop start) "coordination provider time moved backward"

/-- `elapsed_strictly_after`. -/
def elapsedStrictlyAfter (start stop threshold : ℕ) : Except String Bool :=
  (elapsedSeconds start stop).map fun elapsed => decide (threshold < elapsed)

/-- `elapsed_at_least`. -/
def elapsedAtLeast (start stop threshold : ℕ) : Except String Bool :=
  (elapsedSeconds start stop).map fun elapsed => decide (threshold ≤ elapsed)

/-- Strictly more than the threshold has passed. -/
theorem elapsedStrictlyAfter_eq_true :
    elapsedStrictlyAfter start stop threshold = .ok true ↔ start + threshold < stop := by
  simp only [elapsedStrictlyAfter, elapsedSeconds, map_ok, require_ok, checkedSubU64_eq_some,
    decide_eq_true_eq]
  constructor
  · rintro ⟨elapsed, ⟨forward, rfl⟩, past⟩
    omega
  · intro past
    exact ⟨stop - start, ⟨by omega, rfl⟩, by omega⟩

/-- At least the threshold has passed. -/
theorem elapsedAtLeast_eq_true :
    elapsedAtLeast start stop threshold = .ok true ↔ start + threshold ≤ stop := by
  simp only [elapsedAtLeast, elapsedSeconds, map_ok, require_ok, checkedSubU64_eq_some,
    decide_eq_true_eq]
  constructor
  · rintro ⟨elapsed, ⟨forward, rfl⟩, past⟩
    omega
  · intro past
    exact ⟨stop - start, ⟨by omega, rfl⟩, by omega⟩

end Maco.Publication
