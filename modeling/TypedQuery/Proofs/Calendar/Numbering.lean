import Mathlib.Tactic.IntervalCases
import TypedQuery.Calendar.Date

/-!
# The numbers of days

`Date.number` counts days: day 0 is the first of January 1970, and each day has the number after the
one of the day before it (`Calendar.countsDays_number`). `Date.ofNumber?` goes back: it finds each
day under its number, and finds nothing under any other (`Date.ofNumber?_eq_some_iff`).

Both work on years that start in March. There the months have a fixed pattern and the leap day is
the last day of the year, so that a number is the days before the year, plus the days before the
month, plus the day. To go back is to find the last year and the last month that start early enough
(`Calendar.yearOfDay_eq_iff`, `Calendar.monthOfDay_eq_iff`). For months this is arithmetic. For the
years of an era the quotient grows with the day, so it is enough to look at the first day and at the
last day of each of the 400 years.
-/

namespace TypedQuery

namespace Calendar

/-! ## Years and months from March -/

/-- The days before a year of any era, up to a constant. -/
def daysBefore (year : Int) : Int :=
  365 * year + year / 4 - year / 100 + year / 400

/-- The days before a year are those before its era and those of the era before it. -/
theorem daysBefore_eq (year : Int) :
    daysBefore year = 146097 * (year / 400) + daysBeforeYear (year % 400) := by
  unfold daysBefore daysBeforeYear
  omega

/-- The days before a year grow with the year. -/
theorem daysBefore_mono {a b : Int} (le : a ≤ b) : daysBefore a ≤ daysBefore b := by
  unfold daysBefore
  omega

/-- The later day of an era lies in the later year. -/
theorem yearOfDay_mono {a b : Int} (le : a ≤ b) : yearOfDay a ≤ yearOfDay b := by
  -- Each quotient grows, but two of them are taken away: they are paired with what outgrows them.
  have centuries : a / 36524 - a / 146096 ≤ b / 36524 - b / 146096 := by
    have first : a / 36524 / 4 = a / 146096 := Int.ediv_ediv_of_nonneg (by decide)
    have second : b / 36524 / 4 = b / 146096 := Int.ediv_ediv_of_nonneg (by decide)
    omega
  unfold yearOfDay
  apply Int.ediv_le_ediv (by decide)
  omega

/-- The first day of a year of an era lies in it or later, and the day before the next year lies in
it or earlier. -/
theorem yearOfDay_daysBeforeYear : ∀ year < 400,
    ((year : Nat) : Int) ≤ yearOfDay (daysBeforeYear year) ∧
      yearOfDay (daysBeforeYear (year + 1) - 1) ≤ year := by
  decide +kernel

/-- A day of an era lies in a year or later exactly if it is not before the year. -/
theorem le_yearOfDay_iff {year day : Int} (zero : 0 ≤ year) (less : year < 400) (pos : 0 ≤ day) :
    year ≤ yearOfDay day ↔ daysBeforeYear year ≤ day := by
  obtain ⟨n, rfl⟩ := Int.eq_ofNat_of_zero_le zero
  constructor
  · intro le
    by_contra early
    cases n with
    | zero => exact early (by simpa [daysBeforeYear] using pos)
    | succ n =>
      -- A day before the year is not after the last day of the year before it.
      have last := (yearOfDay_daysBeforeYear n (by omega)).2
      have before : yearOfDay day ≤ yearOfDay (daysBeforeYear ((n + 1 : Nat) : Int) - 1) :=
        yearOfDay_mono (by omega)
      push_cast at le before
      omega
  · intro late
    exact (yearOfDay_daysBeforeYear n (by omega)).1.trans (yearOfDay_mono late)

/-- The year of a day of an era is one of the era's 400. -/
theorem yearOfDay_bounds {day : Int} (pos : 0 ≤ day) (inEra : day < 146097) :
    0 ≤ yearOfDay day ∧ yearOfDay day < 400 := by
  have last : yearOfDay day ≤ yearOfDay 146096 := yearOfDay_mono (by omega)
  rw [show yearOfDay 146096 = 399 from rfl] at last
  exact ⟨(le_yearOfDay_iff le_rfl (by decide) pos).2 pos, by omega⟩

/-- The year of a day of an era is the last one that starts early enough. -/
theorem yearOfDay_eq_iff {year day : Int} (zero : 0 ≤ year) (less : year < 400) (pos : 0 ≤ day)
    (inEra : day < 146097) : yearOfDay day = year ↔
      daysBeforeYear year ≤ day ∧ (year < 399 → day < daysBeforeYear (year + 1)) := by
  obtain ⟨-, bound⟩ := yearOfDay_bounds pos inEra
  rw [← le_yearOfDay_iff zero less pos]
  constructor
  · intro same
    refine ⟨same.ge, fun inner => ?_⟩
    rw [← not_le, ← le_yearOfDay_iff (by omega) (by omega) pos]
    omega
  · rintro ⟨reached, before⟩
    by_contra ne
    have next : year + 1 ≤ yearOfDay day := by omega
    have later := (le_yearOfDay_iff (by omega) (by omega) pos).1 next
    have earlier := before (by omega)
    omega

/-- The month of a day of a year is the last one that starts early enough. -/
theorem monthOfDay_eq_iff {place day : Int} :
    monthOfDay day = place ↔ daysBeforeMonth place ≤ day ∧ day < daysBeforeMonth (place + 1) := by
  unfold monthOfDay daysBeforeMonth
  omega

/-- A month has a place in a year that starts in March. -/
theorem marchMonth_bounds {month : Nat} (one : 1 ≤ month) (twelve : month ≤ 12) :
    0 ≤ marchMonth month ∧ marchMonth month < 12 := by
  unfold marchMonth
  split <;> omega

/-- The months other than February follow the pattern. -/
theorem daysInMonth_eq {month : Nat} (one : 1 ≤ month) (twelve : month ≤ 12) (ne : month ≠ 2)
    (year : Int) : (daysInMonth year month : Int) =
      daysBeforeMonth (marchMonth month + 1) - daysBeforeMonth (marchMonth month) := by
  interval_cases month
  case «2» => exact absurd rfl ne
  all_goals rfl

/-- February has what is left of the year that started in March. -/
theorem daysInMonth_february (year : Int) : (daysInMonth year 2 : Int) =
    daysBefore year - daysBefore (year - 1) - daysBeforeMonth (marchMonth 2) := by
  have place : daysBeforeMonth (marchMonth 2) = 337 := rfl
  rw [place]
  simp only [daysInMonth, isLeapYear, daysBefore, Bool.and_eq_true, Bool.or_eq_true,
    decide_eq_true_eq]
  split <;> push_cast <;> omega

/-- Every month has a day. -/
theorem daysInMonth_pos {month : Nat} (one : 1 ≤ month) (twelve : month ≤ 12) (year : Int) :
    1 ≤ daysInMonth year month := by
  by_cases february : month = 2
  · rw [february, daysInMonth]
    split <;> decide
  · have length := daysInMonth_eq one twelve february year
    unfold daysBeforeMonth at length
    omega

end Calendar

open Calendar

namespace Date

/-! ## Numbers -/

/-- The number of a day, without eras. -/
theorem number_eq (date : Date) :
    date.number = daysBefore (marchYear date.year date.month) + date.dayOfYear - 719468 := by
  rw [daysBefore_eq, number, dayOfEra, yearOfEra]
  omega

/-- The days since the first of March are those before the month and those of the month. -/
theorem dayOfYear_bounds (date : Date) :
    daysBeforeMonth (marchMonth date.month) ≤ date.dayOfYear ∧
      date.dayOfYear < daysBeforeMonth (marchMonth date.month + 1) ∧
      date.dayOfYear < daysBefore (marchYear date.year date.month + 1) -
        daysBefore (marchYear date.year date.month) := by
  obtain ⟨one, twelve⟩ := date.isDay.month_bounds
  obtain ⟨-, -, first, last⟩ := date.isDay
  unfold dayOfYear
  by_cases february : date.month = 2
  · have length := daysInMonth_february date.year
    rw [february] at last ⊢
    have place : daysBeforeMonth (marchMonth 2) = 337 := rfl
    have next : daysBeforeMonth (marchMonth 2 + 1) = 367 := rfl
    have year : marchYear date.year 2 = date.year - 1 := rfl
    rw [place] at length ⊢
    rw [next, year, sub_add_cancel]
    have longest : (daysInMonth date.year 2 : Int) ≤ 29 := by
      simp only [daysInMonth]
      split <;> decide
    omega
  · have length := daysInMonth_eq one twelve february date.year
    -- A month that is not the last one ends long before its year.
    have place : marchMonth date.month ≤ 10 := by
      unfold marchMonth
      split <;> omega
    have whole : 365 ≤ daysBefore (marchYear date.year date.month + 1) -
        daysBefore (marchYear date.year date.month) := by
      unfold daysBefore
      omega
    unfold daysBeforeMonth at *
    omega

/-- The year of a day in its era is one of the era's 400. -/
theorem yearOfEra_bounds (date : Date) : 0 ≤ date.yearOfEra ∧ date.yearOfEra < 400 := by
  unfold yearOfEra
  omega

/-- A day of an era is not before its year, and before the next year or before the next era. -/
theorem dayOfEra_bounds (date : Date) : daysBeforeYear date.yearOfEra ≤ date.dayOfEra ∧
    date.dayOfEra < 146097 ∧
    (date.yearOfEra < 399 → date.dayOfEra < daysBeforeYear (date.yearOfEra + 1)) := by
  obtain ⟨one, twelve⟩ := date.isDay.month_bounds
  obtain ⟨place, -⟩ := marchMonth_bounds one twelve
  obtain ⟨fromMonth, -, beforeYear⟩ := date.dayOfYear_bounds
  have start : 0 ≤ daysBeforeMonth (marchMonth date.month) := by
    unfold daysBeforeMonth
    omega
  unfold dayOfEra yearOfEra
  generalize marchYear date.year date.month = year at beforeYear ⊢
  unfold daysBefore at beforeYear
  unfold daysBeforeYear
  refine ⟨?_, ?_, ?_⟩
  · omega
  · omega
  · intro inner
    omega

/-! ## Days by their numbers -/

/-- The day of a year, a month and a number in the month is the one that has these. -/
theorem ofYmd?_eq_some_iff {year : Int} {month day : Nat} {date : Date} :
    ofYmd? year month day = some date ↔ date.year = year ∧ date.month = month ∧ date.day = day := by
  constructor
  · intro found
    unfold ofYmd? at found
    split at found
    · rw [Option.some.injEq] at found
      subst found
      exact ⟨rfl, rfl, rfl⟩
    · simp at found
  · rintro ⟨rfl, rfl, rfl⟩
    exact ofYmd?_self date

/-- A day is found under its number. -/
theorem ofNumber?_number (date : Date) : ofNumber? date.number = some date := by
  obtain ⟨one, twelve⟩ := date.isDay.month_bounds
  obtain ⟨-, -, first, -⟩ := date.isDay
  obtain ⟨zero, less⟩ := date.yearOfEra_bounds
  obtain ⟨fromYear, inEra, beforeYear⟩ := date.dayOfEra_bounds
  obtain ⟨fromMonth, beforeMonth, -⟩ := date.dayOfYear_bounds
  have pos : 0 ≤ date.dayOfEra := by
    unfold daysBeforeYear at fromYear
    omega
  have shifted : date.number + 719468 =
      146097 * (marchYear date.year date.month / 400) + date.dayOfEra := by
    unfold number
    omega
  have era : (date.number + 719468) / 146097 = marchYear date.year date.month / 400 := by omega
  have day : (date.number + 719468) % 146097 = date.dayOfEra := by omega
  have year : yearOfDay date.dayOfEra = date.yearOfEra :=
    (yearOfDay_eq_iff zero less pos inEra).2 ⟨fromYear, beforeYear⟩
  have month : monthOfDay date.dayOfYear = marchMonth date.month :=
    monthOfDay_eq_iff.2 ⟨fromMonth, beforeMonth⟩
  have ofYear : date.dayOfEra - daysBeforeYear date.yearOfEra = date.dayOfYear := by
    unfold dayOfEra
    omega
  have whole : date.yearOfEra + 400 * (marchYear date.year date.month / 400) =
      marchYear date.year date.month := by
    unfold yearOfEra
    omega
  simp only [ofNumber?, era, day, year, ofYear, month, whole, ofYmd?_eq_some_iff]
  simp only [marchMonth, marchYear, dayOfYear]
  split <;> split <;> split <;> omega

/-- The day that is found under a number has that number. -/
theorem number_of_ofNumber? {number : Int} {date : Date} (found : ofNumber? number = some date) :
    date.number = number := by
  simp only [ofNumber?, ofYmd?_eq_some_iff] at found
  obtain ⟨year_eq, month_eq, day_eq⟩ := found
  generalize shifted_eq : number + 719468 = shifted at year_eq month_eq day_eq
  have pos : 0 ≤ shifted % 146097 := Int.emod_nonneg _ (by decide)
  have less : shifted % 146097 < 146097 := Int.emod_lt_of_pos _ (by decide)
  have parts := Int.mul_ediv_add_emod shifted 146097
  generalize shifted / 146097 = era at year_eq parts
  generalize shifted % 146097 = dayOfEra at year_eq month_eq day_eq pos less parts
  obtain ⟨zero, bound⟩ := yearOfDay_bounds pos less
  obtain ⟨fromYear, beforeYear⟩ := (yearOfDay_eq_iff zero bound pos less).1 rfl
  generalize yearOfDay dayOfEra = yearOfEra at *
  generalize dayOfYear_eq : dayOfEra - daysBeforeYear yearOfEra = dayOfYear at *
  obtain ⟨fromMonth, beforeMonth⟩ := monthOfDay_eq_iff.1 (rfl : monthOfDay dayOfYear = _)
  generalize monthOfDay dayOfYear = place at *
  -- The day lies in the year, so its month is one of the twelve.
  have inYear : 0 ≤ dayOfYear ∧ dayOfYear ≤ 365 := by
    unfold daysBeforeYear at *
    omega
  have places : 0 ≤ place ∧ place < 12 := by
    unfold daysBeforeMonth at fromMonth beforeMonth
    omega
  have month : marchMonth date.month = place := by
    rw [month_eq]
    unfold marchMonth
    split <;> split <;> omega
  have whole : marchYear date.year date.month = yearOfEra + 400 * era := by
    rw [year_eq, month_eq]
    unfold marchYear
    split <;> split <;> split <;> omega
  have ofYear : date.dayOfYear = dayOfYear := by
    rw [Date.dayOfYear, month, day_eq]
    omega
  have era_eq : marchYear date.year date.month / 400 = era := by omega
  have year : date.yearOfEra = yearOfEra := by
    unfold Date.yearOfEra
    omega
  rw [Date.number, Date.dayOfEra, era_eq, year, ofYear]
  omega

/-- A day is found under its number and under no other. -/
theorem ofNumber?_eq_some_iff {number : Int} {date : Date} :
    ofNumber? number = some date ↔ date.number = number :=
  ⟨number_of_ofNumber?, fun same => same ▸ ofNumber?_number date⟩

/-- No two days have one number. -/
theorem number_injective : Function.Injective number := by
  intro a b same
  have found := ofNumber?_number a
  rw [same, ofNumber?_number, Option.some.injEq] at found
  exact found.symm

/-! ## The first day and the last day -/

/-- The first day of the calendar. -/
def first : Date := ⟨firstYear, 1, 1, by decide⟩

/-- The last day of the calendar. -/
def last : Date := ⟨lastYear, 12, 31, by decide⟩

/-- The numbers of all days lie between those of the first day and the last. -/
theorem number_bounds (date : Date) : first.number ≤ date.number ∧ date.number ≤ last.number := by
  obtain ⟨one, twelve⟩ := date.isDay.month_bounds
  obtain ⟨low, high, -, -⟩ := date.isDay
  obtain ⟨fromMonth, beforeNext, beforeYear⟩ := date.dayOfYear_bounds
  have start : first.number = daysBefore firstYear - 59 - 719468 := by decide
  have finish : last.number = daysBefore lastYear + 305 - 719468 := by decide
  have before := daysBefore_mono low
  have after := daysBefore_mono high
  rw [start, finish, number_eq]
  -- January and February are the end of a year from March, the other months its start.
  by_cases early : date.month ≤ 2
  · have year : marchYear date.year date.month = date.year - 1 := if_pos early
    have place : marchMonth date.month = date.month + 9 := if_pos early
    have whole : daysBefore firstYear - daysBefore (firstYear - 1) = 365 := rfl
    have earlier := daysBefore_mono (show firstYear - 1 ≤ date.year - 1 by omega)
    rw [year, sub_add_cancel] at beforeYear
    rw [place] at fromMonth
    rw [year]
    unfold daysBeforeMonth at fromMonth
    omega
  · have year : marchYear date.year date.month = date.year := if_neg early
    have place : marchMonth date.month = date.month - 3 := if_neg early
    rw [place] at fromMonth beforeNext
    rw [year]
    unfold daysBeforeMonth at fromMonth beforeNext
    omega

/-! ## One day after another -/

/-- The day after a day, which is the first of the next month or of the next year where a month or a
year ends. The last day of the calendar has none. -/
def next? (date : Date) : Option Date :=
  if date.day < daysInMonth date.year date.month then ofYmd? date.year date.month (date.day + 1)
  else if date.month < 12 then ofYmd? date.year (date.month + 1) 1
  else ofYmd? (date.year + 1) 1 1

/-- Every day but the last has a day after it. -/
theorem exists_next?_eq_some {date : Date} (ne : date ≠ last) : ∃ next, date.next? = some next := by
  have valid {year : Int} {month day : Nat} (isDay : IsDay year month day) :
      ∃ next, ofYmd? year month day = some next :=
    ⟨⟨year, month, day, isDay⟩, ofYmd?_eq_some_iff.2 ⟨rfl, rfl, rfl⟩⟩
  obtain ⟨year, month, day, isDay⟩ := date
  obtain ⟨one, twelve⟩ := isDay.month_bounds
  obtain ⟨low, high, pos, upper⟩ := isDay
  simp only [next?]
  split
  next inner => exact valid ⟨low, high, by omega, inner⟩
  next ended =>
    split
    next early => exact valid ⟨low, high, le_rfl, daysInMonth_pos (by omega) early year⟩
    next late =>
      obtain rfl : month = 12 := by omega
      obtain rfl : day = 31 := le_antisymm upper (not_lt.1 ended)
      have more : year ≠ lastYear := by
        rintro rfl
        exact ne rfl
      exact valid ⟨by omega, by omega, le_rfl, daysInMonth_pos le_rfl (by decide) _⟩

/-- The day after a day has the number after it. -/
theorem number_of_next? {date next : Date} (after : date.next? = some next) :
    next.number = date.number + 1 := by
  obtain ⟨one, twelve⟩ := date.isDay.month_bounds
  obtain ⟨-, -, -, upper⟩ := date.isDay
  rw [number_eq, number_eq, dayOfYear, dayOfYear]
  unfold next? at after
  split at after
  next inner =>
    obtain ⟨year, month, day⟩ := ofYmd?_eq_some_iff.1 after
    rw [year, month, day]
    omega
  next ended =>
    have whole : date.day = daysInMonth date.year date.month := by omega
    split at after
    next early =>
      obtain ⟨year, month, day⟩ := ofYmd?_eq_some_iff.1 after
      rw [year, month, day, whole]
      by_cases february : date.month = 2
      · -- The year from March ends, and the next one starts.
        have ending : marchYear date.year 2 = date.year - 1 := rfl
        have starting : marchYear date.year (2 + 1) = date.year := rfl
        rw [february, daysInMonth_february, ending, starting,
          show daysBeforeMonth (marchMonth (2 + 1)) = 0 from rfl]
        push_cast
        omega
      · have place : marchMonth (date.month + 1) = marchMonth date.month + 1 := by
          unfold marchMonth
          split <;> split <;> omega
        have same : marchYear date.year (date.month + 1) = marchYear date.year date.month := by
          unfold marchYear
          split <;> split <;> omega
        rw [daysInMonth_eq one twelve february, place, same]
        omega
    next late =>
      have december : date.month = 12 := by omega
      obtain ⟨year, month, day⟩ := ofYmd?_eq_some_iff.1 after
      have ending : marchYear date.year 12 = date.year := rfl
      have starting : marchYear (date.year + 1) 1 = date.year := Int.add_sub_cancel _ _
      rw [year, month, day, whole, december, ending, starting]
      simp only [marchMonth, daysBeforeMonth, daysInMonth]
      omega

end Date

namespace Calendar

/-- A numbering of the days that counts them, before and after the first of January 1970: that day
has number zero, and each day has the number after the one of the day before it. -/
structure CountsDays (days : Date → Int) : Prop where
  epoch : days .epoch = 0
  next : ∀ {date next : Date}, date.next? = some next → days next = days date + 1

/-- The numbers of days count them. -/
theorem countsDays_number : CountsDays Date.number where
  epoch := by decide
  next := Date.number_of_next?

/-- A day has the number that one comes to by counting from the first day of the calendar. -/
theorem CountsDays.exists_counted {days : Date → Int} (counts : CountsDays days) (n : Nat) :
    Date.first.number + n ≤ Date.last.number →
      ∃ date : Date, date.number = Date.first.number + n ∧ days date = days .first + n := by
  induction n with
  | zero => exact fun _ => ⟨.first, by simp, by simp⟩
  | succ n ih =>
    intro le
    push_cast at le ⊢
    obtain ⟨date, number, count⟩ := ih (by omega)
    have ne : date ≠ .last := by
      rintro rfl
      omega
    obtain ⟨next, after⟩ := Date.exists_next?_eq_some ne
    refine ⟨next, ?_, ?_⟩
    · rw [Date.number_of_next? after, number, add_assoc]
    · rw [counts.next after, count, add_assoc]

/-- There is one way to count the days. -/
theorem CountsDays.eq_number {days : Date → Int} (counts : CountsDays days) :
    days = Date.number := by
  have steps (date : Date) : days date - days .first = date.number - Date.first.number := by
    obtain ⟨low, high⟩ := date.number_bounds
    obtain ⟨other, number, count⟩ :=
      counts.exists_counted (date.number - Date.first.number).toNat (by omega)
    obtain rfl : other = date := Date.number_injective (by omega)
    omega
  funext date
  have here := steps date
  have zero := steps .epoch
  rw [counts.epoch, countsDays_number.epoch] at zero
  omega

end Calendar

end TypedQuery
