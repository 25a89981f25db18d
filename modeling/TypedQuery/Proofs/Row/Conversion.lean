import TypedQuery.Database.Binding
import TypedQuery.Proofs.Calendar.Numbering
import TypedQuery.Proofs.Calendar.Reading
import TypedQuery.Row.Mapping

/-!
# What values mean when they come back

A value goes to the store by `Database.Datum.ofValue`, which knows fewer kinds, and what comes back
is given its meaning by `Value.convert`. The two fit: a value that was bound to a placeholder is the
same value when it is read under its own type (`Value.convert_bound`).

Dates may have been stored by others in one of four ways, and all of them are understood
(`Value.convert_stored_date`): the text of the day, that text with a time of day behind it in two
spellings, and the seconds since the first of January 1970. Seconds that no day of the calendar has
are left as they are.
-/

namespace TypedQuery

open Calendar Database

/-! ## Moments -/

namespace Date

/-- A moment of a day is found to be on that day. -/
theorem ofSeconds?_moment (date : Date) (clock : Clock) :
    ofSeconds? (86400 * date.number + clock.seconds) = some date := by
  obtain ⟨⟨hour, hour_lt⟩, ⟨minute, minute_lt⟩, ⟨second, second_lt⟩⟩ := clock
  have day : (86400 * date.number + Clock.seconds ⟨⟨hour, hour_lt⟩, ⟨minute, minute_lt⟩,
      ⟨second, second_lt⟩⟩) / 86400 = date.number := by
    simp only [Clock.seconds]
    omega
  rw [ofSeconds?, day, ofNumber?_number]

/-- A moment is on no day exactly if it is before the first one or after the last. -/
theorem ofSeconds?_eq_none_iff {seconds : Int} : ofSeconds? seconds = none ↔
    seconds < 86400 * first.number ∨ 86400 * (last.number + 1) ≤ seconds := by
  constructor
  · intro none
    by_contra inside
    -- The days are counted from the first to the last, and the moment's day is passed on the way.
    obtain ⟨date, number, -⟩ := countsDays_number.exists_counted
      (seconds / 86400 - first.number).toNat (by omega)
    have found : ofSeconds? seconds = some date := ofNumber?_eq_some_iff.2 (by omega)
    rw [none] at found
    contradiction
  · intro outside
    rw [Option.eq_none_iff_forall_ne_some]
    intro date found
    have number := number_of_ofNumber? found
    obtain ⟨low, high⟩ := date.number_bounds
    omega

end Date

namespace Value

/-! ## Types of values -/

/-- The types that a value belongs to: null and bytes to all of them, any other value to the one
that it is named for. -/
inductive HasType : Value → DataType → Prop
  | null (dataType : DataType) : HasType .null dataType
  | blob (bytes : List UInt8) (dataType : DataType) : HasType (.blob bytes) dataType
  | integer (i : Int64) : HasType (.integer i) .integer
  | real (x : Float) : HasType (.real x) .real
  | text (s : String) : HasType (.text s) .text
  | boolean (b : Bool) : HasType (.boolean b) .boolean
  | date (d : Date) : HasType (.date d) .date

/-- Every value belongs to a type. -/
theorem exists_hasType (v : Value) : ∃ dataType, v.HasType dataType := by
  cases v with
  | null => exact ⟨.text, .null _⟩
  | blob bytes => exact ⟨.text, .blob _ _⟩
  | integer i => exact ⟨_, .integer i⟩
  | real x => exact ⟨_, .real x⟩
  | text s => exact ⟨_, .text s⟩
  | boolean b => exact ⟨_, .boolean b⟩
  | date d => exact ⟨_, .date d⟩

/-- A value of a type means itself under it. -/
theorem HasType.convert_eq {v : Value} {dataType : DataType} (typed : v.HasType dataType) :
    v.convert dataType = v := by
  cases typed with
  | null => cases dataType <;> rfl
  | blob => cases dataType <;> rfl
  | _ => rfl

/-- A number where a truth value is wanted is one. -/
theorem convert_boolean_integer (i : Int64) :
    (Value.integer i).convert .boolean = .boolean (i ≠ 0) := rfl

/-- A number where a real one is wanted is one. -/
theorem convert_real_integer (i : Int64) : (Value.integer i).convert .real = .real i.toFloat := rfl

/-- A text where a date is wanted is the date that it spells, or itself. -/
theorem convert_date_text (s : String) :
    (Value.text s).convert .date = ((Date.ofString? s).map Value.date).getD (.text s) := by
  unfold convert
  dsimp only
  cases Date.ofString? s with
  | none => rfl
  | some d => rfl

/-- A number where a date is wanted is the date that it is a moment of, or itself. -/
theorem convert_date_integer (i : Int64) : (Value.integer i).convert .date =
    ((Date.ofSeconds? i.toInt).map Value.date).getD (.integer i) := by
  unfold convert
  dsimp only
  cases Date.ofSeconds? i.toInt with
  | none => rfl
  | some d => rfl

/-- What a value means under a type is the value itself, or else a value of the type that is not
null. -/
theorem convert_cases (v : Value) (dataType : DataType) :
    v.convert dataType = v ∨
      (v.convert dataType).HasType dataType ∧ v ≠ .null ∧ v.convert dataType ≠ .null := by
  cases dataType <;> cases v
  case boolean.integer i =>
    rw [convert_boolean_integer]
    exact .inr ⟨.boolean _, by simp, by simp⟩
  case real.integer i =>
    rw [convert_real_integer]
    exact .inr ⟨.real _, by simp, by simp⟩
  case date.text s =>
    rw [convert_date_text]
    cases Date.ofString? s with
    | none => exact .inl rfl
    | some d => exact .inr ⟨.date d, by simp, by simp⟩
  case date.integer i =>
    rw [convert_date_integer]
    cases Date.ofSeconds? i.toInt with
    | none => exact .inl rfl
    | some d => exact .inr ⟨.date d, by simp, by simp⟩
  all_goals exact .inl rfl

/-- What a value means under a type means the same once more. -/
theorem convert_convert (v : Value) (dataType : DataType) :
    (v.convert dataType).convert dataType = v.convert dataType := by
  rcases v.convert_cases dataType with same | ⟨typed, -, -⟩
  · rw [same, same]
  · exact typed.convert_eq

/-- Only null means null. -/
theorem convert_eq_null_iff (v : Value) (dataType : DataType) :
    v.convert dataType = .null ↔ v = .null := by
  rcases v.convert_cases dataType with same | ⟨-, before, after⟩
  · rw [same]
  · exact iff_of_false after before

/-! ## Values that come back -/

/-- The date that a text is. -/
theorem convert_text_of_ofString? {s : String} {date : Date} (read : Date.ofString? s = some date) :
    (Value.text s).convert .date = .date date := by
  rw [convert_date_text, read]
  rfl

/-- A value that is bound to a placeholder and read again under a type that it belongs to is the
same value. No value but null is ever read as null, and to read what was read once more changes
nothing. -/
theorem convert_bound :
    (∀ v : Value, ∃ dataType, v.HasType dataType) ∧
      (∀ (v : Value) (dataType : DataType), v.HasType dataType →
        (Datum.ofValue v).value.convert dataType = v) ∧
      (∀ (v : Value) (dataType : DataType), v.convert dataType = .null ↔ v = .null) ∧
      ∀ (v : Value) (dataType : DataType),
        (v.convert dataType).convert dataType = v.convert dataType := by
  refine ⟨exists_hasType, ?_, convert_eq_null_iff, convert_convert⟩
  intro v dataType typed
  cases typed with
  | null => exact (HasType.null dataType).convert_eq
  | blob bytes => exact (HasType.blob bytes dataType).convert_eq
  | boolean b => cases b <;> rfl
  | date d => exact convert_text_of_ofString? d.ofString?_text
  | _ => rfl

/-- The leap day of the year -4, which is written with a sign, comes back, and so do bytes that are
wanted as a date. -/
theorem convert_bound_leap_day :
    (Value.date ⟨-4, 2, 29, by decide⟩).HasType .date ∧
      (Datum.ofValue (.date ⟨-4, 2, 29, by decide⟩)).value = .text "-0004-02-29" ∧
      (Value.text "-0004-02-29").convert .date = .date ⟨-4, 2, 29, by decide⟩ ∧
      (Datum.ofValue (.blob [0, 255])).value.convert .date = .blob [0, 255] := by
  have bound : (Datum.ofValue (.date ⟨-4, 2, 29, by decide⟩)).value = .text "-0004-02-29" := rfl
  exact ⟨.date _, bound, bound ▸ convert_bound.2.1 _ _ (.date _),
    convert_bound.2.1 _ _ (.blob _ _)⟩

/-- However a day has been stored, as its text, with a time of day behind the text in one of two
spellings, or as the seconds since the start of day 0, it is read as that day. Seconds that no day
has are the ones that are left as they are. -/
theorem convert_stored_date {days : Date → Int} (counts : CountsDays days) :
    (∀ (date : Date) (clock : Clock),
      (Value.text date.text).convert .date = .date date ∧
      (Value.text (date.text ++ " " ++ clock.text)).convert .date = .date date ∧
      (Value.text (date.text ++ "T" ++ clock.text)).convert .date = .date date ∧
      ∃ i : Int64, i.toInt = 86400 * days date + clock.seconds ∧
        (Value.integer i).convert .date = .date date) ∧
    ∀ i : Int64, (Value.integer i).convert .date = .integer i ↔
      i.toInt < 86400 * days .first ∨ 86400 * (days .last + 1) ≤ i.toInt := by
  rw [counts.eq_number]
  constructor
  · intro date clock
    have fits : (Int64.ofInt (86400 * date.number + clock.seconds)).toInt =
        86400 * date.number + clock.seconds := by
      obtain ⟨low, high⟩ := date.number_bounds
      have start : Date.first.number = -96465292 := by decide
      have finish : Date.last.number = 95026236 := by decide
      obtain ⟨⟨hour, hour_lt⟩, ⟨minute, minute_lt⟩, ⟨second, second_lt⟩⟩ := clock
      simp only [Clock.seconds]
      rw [Int64.toInt_ofInt_of_le (by omega) (by omega)]
    refine ⟨convert_text_of_ofString? date.ofString?_text,
      convert_text_of_ofString? (date.ofString?_blank clock),
      convert_text_of_ofString? (date.ofString?_letter clock),
      Int64.ofInt (86400 * date.number + clock.seconds), fits, ?_⟩
    rw [convert_date_integer, fits, Date.ofSeconds?_moment]
    rfl
  · intro i
    rw [← Date.ofSeconds?_eq_none_iff, convert_date_integer]
    cases Date.ofSeconds? i.toInt with
    | none => simp
    | some d => simp

/-- The last second of the leap day of the year -4 is found in each of its spellings, and the
largest number of seconds is after the last day. -/
theorem convert_stored_leap_day :
    CountsDays Date.number ∧
      (Value.text "-0004-02-29 23:59:59").convert .date = .date ⟨-4, 2, 29, by decide⟩ ∧
      (Value.text "-0004-02-29T23:59:59").convert .date = .date ⟨-4, 2, 29, by decide⟩ ∧
      (Value.integer (-62288265601)).convert .date = .date ⟨-4, 2, 29, by decide⟩ ∧
      (Value.integer Int64.maxValue).convert .date = .integer Int64.maxValue := by
  obtain ⟨-, blank, letter, i, seconds, number⟩ :=
    (convert_stored_date countsDays_number).1 ⟨-4, 2, 29, by decide⟩ ⟨23, 59, 59⟩
  have moment : i = -62288265601 := by
    apply Int64.toInt_inj.1
    rw [seconds]
    rfl
  exact ⟨countsDays_number, blank, letter, moment ▸ number,
    ((convert_stored_date countsDays_number).2 _).2 (.inr (by decide))⟩

end Value

end TypedQuery
