/-!
# Calendar days

Days of the Gregorian calendar, carried back before its introduction, with a year 0 before the
year 1. The calendar of this library has a first and a last year; a day outside it is no `Date`.

Days are also numbered, day 0 being the first of January 1970. Years are counted from March for
this, so that the leap day is the last day of a year and the months before it have a fixed pattern:
day `(153 m + 2) / 5` is the first of the `m`-th month. Four hundred years have 146097 days.
-/

namespace TypedQuery

namespace Calendar

/-- The first year of the calendar. -/
def firstYear : Int := -262143

/-- The last year of the calendar. -/
def lastYear : Int := 262142

/-- Whether a year has a leap day. -/
def isLeapYear (year : Int) : Bool :=
  year % 4 = 0 && (year % 100 ≠ 0 || year % 400 = 0)

/-- The number of days of a month, which is zero if there is no such month. -/
def daysInMonth (year : Int) (month : Nat) : Nat :=
  match month with
  | 1 | 3 | 5 | 7 | 8 | 10 | 12 => 31
  | 4 | 6 | 9 | 11 => 30
  | 2 => if isLeapYear year then 29 else 28
  | _ => 0

/-- Whether a year, a month and a day are a day of the calendar. -/
def IsDay (year : Int) (month day : Nat) : Prop :=
  firstYear ≤ year ∧ year ≤ lastYear ∧ 1 ≤ day ∧ day ≤ daysInMonth year month

instance (year : Int) (month day : Nat) : Decidable (IsDay year month day) :=
  inferInstanceAs (Decidable (_ ∧ _ ∧ _ ∧ _))

/-- A month with days is one of the twelve. -/
theorem IsDay.month_bounds {year : Int} {month day : Nat} (h : IsDay year month day) :
    1 ≤ month ∧ month ≤ 12 := by
  obtain ⟨-, -, one, upper⟩ := h
  unfold daysInMonth at upper
  split at upper <;> omega

/-- The year that a month lies in if years start in March. -/
def marchYear (year : Int) (month : Nat) : Int :=
  if month ≤ 2 then year - 1 else year

/-- The place of a month in a year that starts in March, which has place zero. -/
def marchMonth (month : Nat) : Int :=
  if month ≤ 2 then month + 9 else month - 3

/-- The days of an era before one of its years, both starting in March. -/
def daysBeforeYear (yearOfEra : Int) : Int :=
  365 * yearOfEra + yearOfEra / 4 - yearOfEra / 100

/-- The year of an era that a day of the era lies in. -/
def yearOfDay (dayOfEra : Int) : Int :=
  (dayOfEra - dayOfEra / 1460 + dayOfEra / 36524 - dayOfEra / 146096) / 365

/-- The days of a year before the month at a place in it. -/
def daysBeforeMonth (place : Int) : Int :=
  (153 * place + 2) / 5

/-- The place of the month that a day of a year lies in. -/
def monthOfDay (dayOfYear : Int) : Int :=
  (5 * dayOfYear + 2) / 153

end Calendar

/-- A day of the calendar. -/
structure Date where
  year : Int
  month : Nat
  day : Nat
  isDay : Calendar.IsDay year month day
  deriving DecidableEq

namespace Date

open Calendar

/-- The first of January 1970, from which days are numbered. -/
def epoch : Date := ⟨1970, 1, 1, by decide⟩

instance : Inhabited Date := ⟨epoch⟩

/-- The day of a year, a month and a number in the month, if the calendar has it. -/
def ofYmd? (year : Int) (month day : Nat) : Option Date :=
  if h : Calendar.IsDay year month day then some ⟨year, month, day, h⟩ else none

/-- A day is found under its own year, month and number. -/
theorem ofYmd?_self (date : Date) : ofYmd? date.year date.month date.day = some date := by
  simp [ofYmd?, date.isDay]

/-- The days since the first of March. -/
def dayOfYear (date : Date) : Int :=
  daysBeforeMonth (marchMonth date.month) + date.day - 1

/-- The year of a day in its era. -/
def yearOfEra (date : Date) : Int :=
  marchYear date.year date.month % 400

/-- The days since the start of an era. -/
def dayOfEra (date : Date) : Int :=
  daysBeforeYear date.yearOfEra + date.dayOfYear

/-- The number of a day. -/
def number (date : Date) : Int :=
  146097 * (marchYear date.year date.month / 400) + date.dayOfEra - 719468

/-- The day of a number, if the calendar has it. -/
def ofNumber? (number : Int) : Option Date :=
  let shifted := number + 719468
  let dayOfEra := shifted % 146097
  let yearOfEra := yearOfDay dayOfEra
  let dayOfYear := dayOfEra - daysBeforeYear yearOfEra
  let place := monthOfDay dayOfYear
  let day := dayOfYear - daysBeforeMonth place + 1
  let month := if place < 10 then place + 3 else place - 9
  let year := yearOfEra + 400 * (shifted / 146097)
  ofYmd? (if month ≤ 2 then year + 1 else year) month.toNat day.toNat

/-- The day of a moment, given in seconds since the start of day 0. -/
def ofSeconds? (seconds : Int) : Option Date :=
  ofNumber? (seconds / 86400)

/-- A number in decimal digits, filled up with zeros to a width. -/
def padded (width n : Nat) : List Char :=
  let digits := Nat.toDigits 10 n
  List.replicate (width - digits.length) '0' ++ digits

/-- The year of a date as it is written: at least four digits, with a sign if it lies before year 0
or has more than four. -/
def yearText (year : Int) : List Char :=
  if year < 0 then '-' :: padded 4 year.natAbs
  else if year > 9999 then '+' :: padded 4 year.natAbs
  else padded 4 year.natAbs

/-- The written form of a date: year, month and day with hyphens between. -/
def chars (date : Date) : List Char :=
  yearText date.year ++ '-' :: padded 2 date.month ++ '-' :: padded 2 date.day

/-- The written form of a date. -/
def text (date : Date) : String :=
  String.ofList date.chars

end Date

end TypedQuery
