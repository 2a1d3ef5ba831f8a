/-!
Moments of the proleptic Gregorian calendar, to the second, in the years -9999 to 9999.

Between the calendar fields and a count of seconds stand day numbers: day 1 is the first of January
of the year 1. `dayNumber` counts days with years that start in March, so that a leap day is the
last day of its year.
-/

namespace Questionnaire

namespace Calendar

def isLeapYear (year : Int) : Bool :=
  year % 4 == 0 && (year % 100 != 0 || year % 400 == 0)

def monthLength (year : Int) (month : Nat) : Nat :=
  if month = 2 then if isLeapYear year then 29 else 28
  else if month = 4 ∨ month = 6 ∨ month = 9 ∨ month = 11 then 30 else 31

/-- The fields of a moment that exists. -/
def Valid (year : Int) (month day hour minute second : Nat) : Prop :=
  -9999 ≤ year ∧ year ≤ 9999 ∧ 1 ≤ month ∧ month ≤ 12 ∧ 1 ≤ day ∧ day ≤ monthLength year month ∧
    hour ≤ 23 ∧ minute ≤ 59 ∧ second ≤ 59

instance (year : Int) (month day hour minute second : Nat) :
    Decidable (Valid year month day hour minute second) := by
  unfold Valid
  infer_instance

def dayNumber (year : Int) (month day : Nat) : Int :=
  let shifted : Int := if month ≤ 2 then year - 1 else year
  let cycle := shifted / 400
  let yearOfCycle := shifted % 400
  let monthOfYear : Int := if month ≤ 2 then (month : Int) + 9 else (month : Int) - 3
  let dayOfYear := (153 * monthOfYear + 2) / 5 + day - 1
  let dayOfCycle := yearOfCycle * 365 + yearOfCycle / 4 - yearOfCycle / 100 + dayOfYear
  cycle * 146097 + dayOfCycle - 305

def ofDayNumber (n : Int) : Int × Nat × Nat :=
  let shifted := n + 305
  let cycle := shifted / 146097
  let dayOfCycle := shifted % 146097
  let yearOfCycle :=
    (dayOfCycle - dayOfCycle / 1460 + dayOfCycle / 36524 - dayOfCycle / 146096) / 365
  let dayOfYear := dayOfCycle - (365 * yearOfCycle + yearOfCycle / 4 - yearOfCycle / 100)
  let monthOfYear := (5 * dayOfYear + 2) / 153
  let day := dayOfYear - (153 * monthOfYear + 2) / 5 + 1
  let month := if monthOfYear < 10 then monthOfYear + 3 else monthOfYear - 9
  let year := yearOfCycle + cycle * 400
  (if month ≤ 2 then year + 1 else year, month.toNat, day.toNat)

end Calendar

structure Moment where
  year : Int
  month : Nat
  day : Nat
  hour : Nat
  minute : Nat
  second : Nat
  valid : Calendar.Valid year month day hour minute second
deriving DecidableEq

namespace Moment

def ofFields? (year : Int) (month day hour minute second : Nat) : Option Moment :=
  if h : Calendar.Valid year month day hour minute second then
    some ⟨year, month, day, hour, minute, second, h⟩
  else none

def isMidnight (m : Moment) : Bool := m.hour == 0 && m.minute == 0 && m.second == 0

/-- Seconds since the start of day 0. -/
def seconds (m : Moment) : Int :=
  Calendar.dayNumber m.year m.month m.day * 86400 + (m.hour * 3600 + m.minute * 60 + m.second : Nat)

/-- The moment at a count of seconds, if it lies in a year of the calendar. -/
def ofSeconds? (n : Int) : Option Moment :=
  let (year, month, day) := Calendar.ofDayNumber (n / 86400)
  let clock := (n % 86400).toNat
  ofFields? year month day (clock / 3600) (clock / 60 % 60) (clock % 60)

def addSeconds? (m : Moment) (n : Int) : Option Moment := ofSeconds? (m.seconds + n)

def secondsBetween (a b : Moment) : Int := b.seconds - a.seconds

def compare (a b : Moment) : Ordering :=
  (Ord.compare a.year b.year).then <| (Ord.compare a.month b.month).then <|
    (Ord.compare a.day b.day).then <| (Ord.compare a.hour b.hour).then <|
      (Ord.compare a.minute b.minute).then <| Ord.compare a.second b.second

end Moment

end Questionnaire
