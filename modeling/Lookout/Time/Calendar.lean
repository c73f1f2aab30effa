import Lookout.Text.Fit

/-!
# Calendar

Days counted from 1 January 1970 and their dates in the Gregorian calendar, for the years that the
clock of the dashboard covers, with the times of day that titles and lists show. All times are UTC, but
for the titles of notifications, which show the local time.

* **`daysInMonth_le`** — no month has more than 31 days.
-/

namespace Lookout

namespace Time

/-- A date; months and days count from one. -/
structure Date where
  year : Int
  month : Nat
  day : Nat
deriving DecidableEq, Repr

/-- The year has a 29 February. -/
def isLeap (year : Int) : Bool := year % 4 == 0 && (year % 100 != 0 || year % 400 == 0)

/-- The number of days of a month. -/
def daysInMonth (year : Int) (month : Nat) : Nat :=
  match month with
  | 2 => if isLeap year then 29 else 28
  | 4 | 6 | 9 | 11 => 30
  | _ => 31

theorem daysInMonth_le (year : Int) (month : Nat) : daysInMonth year month ≤ 31 := by
  unfold daysInMonth
  split <;> first | omega | (split <;> omega)

/-- The first year of the calendar. -/
def firstYear : Int := -262143

/-- The last year of the calendar. -/
def lastYear : Int := 262142

/-- The days from 1 January 1970 to a date. Years are counted from March, so that the leap day comes
last. -/
def Date.toDays (d : Date) : Int :=
  let year := if d.month ≤ 2 then d.year - 1 else d.year
  let era := year / 400
  let yearOfEra := year % 400
  let monthFromMarch : Int := (d.month + 9) % 12
  let dayOfYear := (153 * monthFromMarch + 2) / 5 + d.day - 1
  let dayOfEra := yearOfEra * 365 + yearOfEra / 4 - yearOfEra / 100 + dayOfYear
  era * 146097 + dayOfEra - 719468

/-- The date of a day counted from 1 January 1970. -/
def Date.ofDays (days : Int) : Date :=
  let shifted := days + 719468
  let era := shifted / 146097
  let dayOfEra := shifted % 146097
  let yearOfEra := (dayOfEra - dayOfEra / 1460 + dayOfEra / 36524 - dayOfEra / 146096) / 365
  let dayOfYear := dayOfEra - (365 * yearOfEra + yearOfEra / 4 - yearOfEra / 100)
  let monthFromMarch := (5 * dayOfYear + 2) / 153
  let day := (dayOfYear - (153 * monthFromMarch + 2) / 5 + 1).toNat
  let month := (if monthFromMarch < 10 then monthFromMarch + 3 else monthFromMarch - 9).toNat
  ⟨yearOfEra + era * 400 + (if month ≤ 2 then 1 else 0), month, day⟩

/-- The date exists in the calendar. -/
def Date.isValid (d : Date) : Bool :=
  firstYear ≤ d.year && d.year ≤ lastYear && 1 ≤ d.month && d.month ≤ 12 && 1 ≤ d.day &&
    d.day ≤ daysInMonth d.year d.month

/-- The day lies between the first and the last day of the calendar. -/
def coversDay (days : Int) : Bool :=
  (⟨firstYear, 1, 1⟩ : Date).toDays ≤ days && days ≤ (⟨lastYear, 12, 31⟩ : Date).toDays

/-- The milliseconds of a day. -/
def millisPerDay : Int := 86400000

/-- The time, in milliseconds from 1 January 1970, lies in the calendar. -/
def covers (millis : Int) : Bool := coversDay (millis / millisPerDay)

/-- A number with at least two digits. -/
def twoDigits (n : Nat) : List Char :=
  let digits := Nat.toDigits 10 n
  List.replicate (2 - digits.length) '0' ++ digits

/-- A time zone: by how many milliseconds the local time is ahead at a time of the calendar. -/
abbrev Zone := Int → Int

/-- The zone whose local time is the calendar itself. -/
def utc : Zone := fun _ => 0

/-- The time of day with hours, minutes and seconds, in milliseconds from 1 January 1970. -/
def clockText (millis : Int) : String :=
  let secs := (millis % millisPerDay).toNat / 1000
  String.ofList (twoDigits (secs / 3600) ++ ':' :: twoDigits (secs / 60 % 60) ++
    ':' :: twoDigits (secs % 60))

end Time

end Lookout
