import Mathlib.Algebra.Group.Nat.Defs
import TypedQuery.Calendar.Reading

/-!
# Dates are read as they are written

A written date is read back as the day that it was written for, alone or with a time of day behind a
blank or behind the letter T (`Date.ofString?_text`, `Date.ofString?_blank`,
`Date.ofString?_letter`).

Each piece of a format takes exactly what was written for it off the front of a text, whatever comes
after: the year up to the hyphen behind it, and of the other numbers their two digits. So the first
three numbers are read in every format. The formats that are tried too early then fail at what comes
behind the day: the first has no more pieces, and the second wants an hour where the letter is.
-/

namespace TypedQuery

namespace Calendar

open Date (padded yearText)

/-! ## Numbers -/

/-- Zeros in front of digits leave their value as it is. -/
theorem digitsValue_padded (width n : Nat) : digitsValue (padded width n) = n := by
  show Nat.ofDigitChars 10 (padded width n) 0 = n
  rw [padded, Nat.ofDigitChars_append, Nat.ofDigitChars_replicate_zero, Nat.mul_zero,
    Nat.ofDigitChars_ten_toDigits]

/-- A number that is filled up with zeros is made of digits. -/
theorem isDigit_of_mem_padded {width n : Nat} {c : Char} (mem : c ∈ padded width n) :
    c.isDigit = true := by
  rcases List.mem_append.1 mem with zero | digit
  · rw [List.eq_of_mem_replicate zero]
    rfl
  · exact Nat.isDigit_of_mem_toDigits (by decide) (by decide) digit

/-- A number has a digit. -/
theorem padded_ne_nil (width n : Nat) : padded width n ≠ [] := by
  intro empty
  exact Nat.toDigits_ne_nil (List.append_eq_nil_iff.1 empty).2

/-- A number that fits a width fills it. -/
theorem length_padded {width n : Nat} (pos : 0 < width) (fits : n < 10 ^ width) :
    (padded width n).length = width := by
  have digits := (Nat.length_toDigits_le_iff (by decide) pos).2 fits
  rw [padded, List.length_append, List.length_replicate]
  omega

/-- Digits in front of a text are read as their value if they fill the width, or if no digit comes
after them. -/
theorem number?_append {width : Nat} {digits after : List Char}
    (all : ∀ c ∈ digits, c.isDigit = true) (ne : digits ≠ []) (le : digits.length ≤ width)
    (stops : digits.length = width ∨ ∀ c ∈ after.head?, c.isDigit = false) :
    number? width (digits ++ after) = some (digitsValue digits, after) := by
  have rest : (after.take (width - digits.length)).takeWhile Char.isDigit = [] := by
    rcases stops with whole | stop
    · rw [whole, Nat.sub_self, List.take_zero, List.takeWhile_nil]
    · cases after with
      | nil => rw [List.take_nil, List.takeWhile_nil]
      | cons c after =>
        cases width - digits.length with
        | zero => rfl
        | succ n => rw [List.take_succ_cons, List.takeWhile_cons_of_neg (by simp [stop c rfl])]
  have taken : ((digits ++ after).take width).takeWhile Char.isDigit = digits := by
    rw [List.take_append, List.take_of_length_le le, List.takeWhile_append_of_pos all, rest,
      List.append_nil]
  simp only [number?, taken, List.isEmpty_iff, ne, if_false, List.drop_left]

/-- A number that fills its width is read in front of any text. -/
theorem number?_padded {width n : Nat} (pos : 0 < width) (fits : n < 10 ^ width)
    (after : List Char) : number? width (padded width n ++ after) = some (n, after) := by
  have length := length_padded pos fits
  rw [number?_append (fun _ => isDigit_of_mem_padded) (padded_ne_nil width n)
    (Nat.le_of_eq length) (.inl length), digitsValue_padded]

/-- A number of two digits is read in front of any text. -/
theorem bounded?_padded {least largest n : Nat} (low : least ≤ n) (high : n ≤ largest)
    (fits : n < 100) (after : List Char) :
    bounded? least largest (padded 2 n ++ after) = some (n, after) := by
  rw [bounded?, number?_padded (by decide) fits]
  exact if_pos ⟨low, high⟩

/-- A digit in front of a text is no sign of a year. -/
theorem year?_of_isDigit {c : Char} (digit : c.isDigit = true) (text : List Char) :
    year? (c :: text) = (number? 4 (c :: text)).map fun (n, after) => ((n : Int), after) := by
  unfold year?
  split
  next sign =>
    rw [(List.cons.inj sign).1] at digit
    simp at digit
  next sign =>
    rw [(List.cons.inj sign).1] at digit
    simp at digit
  next => rfl

/-- A year is read up to the hyphen behind it. -/
theorem year?_yearText (year : Int) (after : List Char) :
    year? (yearText year ++ '-' :: after) = some (year, '-' :: after) := by
  -- Behind a sign there may be any number of digits.
  have signed (n : Nat) : number? (padded 4 n ++ '-' :: after).length (padded 4 n ++ '-' :: after) =
      some (n, '-' :: after) := by
    rw [number?_append (fun _ => isDigit_of_mem_padded) (padded_ne_nil 4 n) (by simp)
      (.inr (by simp)), digitsValue_padded]
  unfold yearText
  split
  next negative =>
    simp only [List.cons_append, year?, signed, Option.map_some, Option.some.injEq, Prod.mk.injEq,
      and_true]
    omega
  next natural =>
    split
    next long =>
      simp only [List.cons_append, year?, signed, Option.map_some, Option.some.injEq,
        Prod.mk.injEq, and_true]
      omega
    next short =>
      have fits : year.natAbs < 10 ^ 4 := by omega
      have read := number?_padded (by decide) fits ('-' :: after)
      obtain ⟨c, digits, first⟩ := List.exists_cons_of_ne_nil (padded_ne_nil 4 year.natAbs)
      have digit : c.isDigit = true := isDigit_of_mem_padded (first ▸ List.mem_cons_self)
      rw [first, List.cons_append] at read ⊢
      simp only [year?_of_isDigit digit, read, Option.map_some, Option.some.injEq, Prod.mk.injEq,
        and_true]
      omega

/-! ## Pieces -/

/-- Blanks are skipped up to a character that is none. -/
theorem skipBlanks_cons {c : Char} (none : Text.isBlank c = false) (text : List Char) :
    skipBlanks (c :: text) = c :: text :=
  List.dropWhile_cons_of_neg (by simp [none])

/-- A digit is no blank. -/
theorem isBlank_of_isDigit {c : Char} (digit : c.isDigit = true) : Text.isBlank c = false := by
  obtain ⟨low, high⟩ := Char.isDigit_iff_toNat.1 digit
  simp only [Char.reduceToNat] at low high
  simp only [Text.isBlank, Text.inRanges, Text.blankRanges, List.any_cons, List.any_nil]
  generalize c.toNat = point at low high
  simp
  omega

/-- No blanks are skipped in front of a number. -/
theorem skipBlanks_padded (width n : Nat) (after : List Char) :
    skipBlanks (padded width n ++ after) = padded width n ++ after := by
  obtain ⟨c, digits, first⟩ := List.exists_cons_of_ne_nil (padded_ne_nil width n)
  have digit : c.isDigit = true := isDigit_of_mem_padded (first ▸ List.mem_cons_self)
  rw [first, List.cons_append]
  exact skipBlanks_cons (isBlank_of_isDigit digit) _

/-- No blanks are skipped in front of a year. -/
theorem skipBlanks_yearText (year : Int) (after : List Char) :
    skipBlanks (yearText year ++ after) = yearText year ++ after := by
  unfold yearText
  split
  next => exact skipBlanks_cons (by decide) _
  next =>
    split
    next => exact skipBlanks_cons (by decide) _
    next => exact skipBlanks_padded _ _ _

/-- A year is read in front of its hyphen. -/
theorem read?_year (year : Int) (date : Partial) (after : List Char) :
    Piece.year.read? date (yearText year ++ '-' :: after) =
      some ({ date with year }, '-' :: after) := by
  rw [Piece.read?, skipBlanks_yearText, year?_yearText]
  rfl

/-- A month is read in front of any text. -/
theorem read?_month {month : Nat} (one : 1 ≤ month) (twelve : month ≤ 12) (date : Partial)
    (after : List Char) :
    Piece.month.read? date (padded 2 month ++ after) = some ({ date with month }, after) := by
  rw [Piece.read?, skipBlanks_padded, bounded?_padded one twelve (by omega)]
  rfl

/-- A day is read in front of any text. -/
theorem read?_day {day : Nat} (one : 1 ≤ day) (last : day ≤ 31) (date : Partial)
    (after : List Char) :
    Piece.day.read? date (padded 2 day ++ after) = some ({ date with day }, after) := by
  rw [Piece.read?, skipBlanks_padded, bounded?_padded one last (by omega)]
  rfl

/-- A number of the time of day is read in front of any text. -/
theorem read?_clock {n largest : Nat} (le : n ≤ largest) (fits : n < 100) (date : Partial)
    (after : List Char) :
    (Piece.clock largest).read? date (padded 2 n ++ after) = some (date, after) := by
  rw [Piece.read?, skipBlanks_padded, bounded?_padded (Nat.zero_le n) le fits]
  rfl

/-- A mark is read where it stands. -/
theorem read?_mark (c : Char) (date : Partial) (after : List Char) :
    (Piece.mark c).read? date (c :: after) = some (date, after) :=
  if_pos rfl

/-- Where a piece is read, the others are read from the rest. -/
theorem readPieces_cons {piece : Piece} {date next : Partial} {text rest : List Char}
    (read : piece.read? date text = some (next, rest)) (more : List Piece) :
    readPieces (piece :: more) date text = readPieces more next rest := by
  rw [readPieces, read]
  rfl

/-! ## Days and times of day -/

/-- No month has more than 31 days. -/
theorem daysInMonth_le (year : Int) (month : Nat) : daysInMonth year month ≤ 31 := by
  unfold daysInMonth
  split
  case h_12 => split <;> decide
  all_goals decide

/-- The pieces of a day take a written date off the front of a text. -/
theorem readPieces_dayPieces (date : Date) (more : List Piece) (after : List Char) :
    readPieces (dayPieces ++ more) {} (date.chars ++ after) =
      readPieces more ⟨date.year, date.month, date.day⟩ after := by
  obtain ⟨one, twelve⟩ := date.isDay.month_bounds
  obtain ⟨-, -, first, last⟩ := date.isDay
  have short : date.day ≤ 31 := Nat.le_trans last (daysInMonth_le _ _)
  simp only [dayPieces, Date.chars, List.cons_append, List.nil_append, List.append_assoc]
  rw [readPieces_cons (read?_year _ _ _), readPieces_cons (read?_mark _ _ _),
    readPieces_cons (read?_month one twelve _ _), readPieces_cons (read?_mark _ _ _),
    readPieces_cons (read?_day first short _ _)]

/-- A time of day, to the second. -/
structure Clock where
  hour : Fin 24
  minute : Fin 60
  second : Fin 60

namespace Clock

/-- The written form of a time of day: two digits for each number, with colons between. -/
def chars (clock : Clock) : List Char :=
  padded 2 clock.hour ++ ':' :: padded 2 clock.minute ++ ':' :: padded 2 clock.second

/-- The written form of a time of day. -/
def text (clock : Clock) : String :=
  String.ofList clock.chars

/-- The seconds since the start of the day. -/
def seconds (clock : Clock) : Int :=
  3600 * clock.hour + 60 * clock.minute + clock.second

end Clock

/-- The pieces of a time of day read a written one and keep the day. -/
theorem readPieces_clockPieces (clock : Clock) (date : Partial) :
    readPieces clockPieces date clock.chars = some date := by
  obtain ⟨⟨hour, hour_lt⟩, ⟨minute, minute_lt⟩, ⟨second, second_lt⟩⟩ := clock
  rw [Clock.chars, ← List.append_nil (_ ++ ':' :: padded 2 second)]
  simp only [clockPieces, List.cons_append, List.append_assoc]
  rw [readPieces_cons (read?_clock (by omega) (by omega) _ _), readPieces_cons (read?_mark _ _ _),
    readPieces_cons (read?_clock (by omega) (by omega) _ _), readPieces_cons (read?_mark _ _ _),
    readPieces_cons (read?_clock (by omega) (by omega) _ _)]
  rfl

/-- No blanks are skipped in front of a time of day. -/
theorem skipBlanks_chars (clock : Clock) : skipBlanks clock.chars = clock.chars := by
  rw [Clock.chars, List.append_assoc]
  exact skipBlanks_padded _ _ _

/-! ## Formats -/

/-- What is read of a date in full is the date. -/
theorem readAs?_eq_some {format : List Piece} {text : List Char} {date : Date}
    (read : readPieces format {} text = some ⟨date.year, date.month, date.day⟩) :
    readAs? format text = some date := by
  rw [readAs?, read]
  exact date.ofYmd?_self

/-- A format does not read what its pieces do not read. -/
theorem readAs?_eq_none {format : List Piece} {text : List Char}
    (unread : readPieces format {} text = none) : readAs? format text = none := by
  rw [readAs?, unread]
  rfl

/-- The format of a day alone reads no text that goes on behind the day. -/
theorem readAs?_dayPieces_of_ne_nil (date : Date) {after : List Char} (ne : after ≠ []) :
    readAs? dayPieces (date.chars ++ after) = none := by
  apply readAs?_eq_none
  have read := readPieces_dayPieces date [] after
  rw [List.append_nil] at read
  rw [read, readPieces]
  exact if_neg (by simpa using ne)

end Calendar

open Calendar

namespace Date

/-- A written date is read as the day. -/
theorem ofString?_text (date : Date) : ofString? date.text = some date := by
  have read : readPieces dayPieces {} date.chars = some ⟨date.year, date.month, date.day⟩ := by
    have day := readPieces_dayPieces date [] []
    rwa [List.append_nil, List.append_nil] at day
  rw [ofString?, formats, text, String.toList_ofList, List.findSome?_cons,
    readAs?_eq_some read]

/-- A written date with a time of day behind a blank is read as the day. -/
theorem ofString?_blank (date : Date) (clock : Clock) :
    ofString? (date.text ++ " " ++ clock.text) = some date := by
  have whole : (date.text ++ " " ++ clock.text).toList = date.chars ++ ' ' :: clock.chars := by
    simp [text, Clock.text]
  have blanks (partly : Partial) :
      Piece.blanks.read? partly (' ' :: clock.chars) = some (partly, clock.chars) := by
    rw [Piece.read?, skipBlanks, List.dropWhile_cons_of_pos (by decide)]
    exact congrArg (fun rest => some (partly, rest)) (skipBlanks_chars clock)
  have read : readPieces (dayPieces ++ .blanks :: clockPieces) {}
      (date.chars ++ ' ' :: clock.chars) = some ⟨date.year, date.month, date.day⟩ := by
    rw [readPieces_dayPieces, readPieces_cons (blanks _), readPieces_clockPieces]
  rw [ofString?, formats, whole, List.findSome?_cons,
    readAs?_dayPieces_of_ne_nil date (List.cons_ne_nil _ _)]
  simp only [List.findSome?_cons, readAs?_eq_some read]

/-- A written date with a time of day behind the letter T is read as the day. -/
theorem ofString?_letter (date : Date) (clock : Clock) :
    ofString? (date.text ++ "T" ++ clock.text) = some date := by
  have whole : (date.text ++ "T" ++ clock.text).toList = date.chars ++ 'T' :: clock.chars := by
    simp [text, Clock.text]
  -- Behind a blank, and there may be none, the second format wants the hour.
  have unread : readPieces (dayPieces ++ .blanks :: clockPieces) {}
      (date.chars ++ 'T' :: clock.chars) = none := by
    have blanks (partly : Partial) : Piece.blanks.read? partly ('T' :: clock.chars) =
        some (partly, 'T' :: clock.chars) := by
      rw [Piece.read?, skipBlanks_cons (by decide)]
    have hour (partly : Partial) : (Piece.clock 23).read? partly ('T' :: clock.chars) = none := by
      rw [Piece.read?, skipBlanks_cons (by decide)]
      rfl
    rw [readPieces_dayPieces, readPieces_cons (blanks _), clockPieces, readPieces, hour]
    rfl
  have read : readPieces (dayPieces ++ .mark 'T' :: clockPieces) {}
      (date.chars ++ 'T' :: clock.chars) = some ⟨date.year, date.month, date.day⟩ := by
    rw [readPieces_dayPieces, readPieces_cons (read?_mark _ _ _), readPieces_clockPieces]
  rw [ofString?, formats, whole, List.findSome?_cons,
    readAs?_dayPieces_of_ne_nil date (List.cons_ne_nil _ _)]
  simp only [List.findSome?_cons, readAs?_eq_none unread, readAs?_eq_some read]

end Date

end TypedQuery
