import TypedQuery.Calendar.Date
import TypedQuery.Decimal.Reading
import TypedQuery.Settings.Tree
import TypedQuery.Text.Hexadecimal

/-!
# Words of TOML

Values without quotes or brackets: truth values, numbers, and dates with times. Digits of numbers
may be grouped by single underscores. Integers have 64 bits, and decimal ones no needless zeros in
front. A real number needs a fraction or an exponent, and may not be too large. Dates and times are
kept as the text of their usual form.
-/

namespace TypedQuery.Toml

open Settings (Tree)

/-- The digits of a group of digits with single underscores between them. -/
def grouped? (isDigit : Char → Bool) : List Char → Option (List Char)
  | [] => none
  | [c] => if isDigit c then some [c] else none
  | c :: '_' :: rest => if isDigit c then (grouped? isDigit rest).map (c :: ·) else none
  | c :: rest => if isDigit c then (grouped? isDigit rest).map (c :: ·) else none

/-- Whether a word has a minus sign, and the word without its sign. -/
def signed : List Char → Bool × List Char
  | '-' :: rest => (true, rest)
  | '+' :: rest => (false, rest)
  | word => (false, word)

/-- The digits of a whole number that has no needless zero in front. -/
def whole? (word : List Char) : Option (List Char) :=
  match word with
  | '0' :: _ :: _ => none
  | _ => grouped? Char.isDigit word

/-- An integer, if it has 64 bits. -/
def integerOf? (i : Int) : Option Tree :=
  if (Int64.ofInt i).toInt = i then some (.integer (Int64.ofInt i)) else none

/-- The integer that digits to a base spell. -/
def based? (base : Nat) (isDigit : Char → Bool) (word : List Char) : Option Tree := do
  integerOf? (Text.valueOfDigits base (← grouped? isDigit word))

/-- The integer that a word spells. -/
def integer? (word : List Char) : Option Tree :=
  match word with
  | '0' :: 'x' :: digits => based? 16 Text.isHexDigit digits
  | '0' :: 'o' :: digits => based? 8 (fun c => '0' ≤ c && c ≤ '7') digits
  | '0' :: 'b' :: digits => based? 2 (fun c => c = '0' || c = '1') digits
  | _ => do
    let (minus, unsigned) := signed word
    let n : Int := Text.valueOfDigits 10 (← whole? unsigned)
    integerOf? (if minus then -n else n)

/-- The exponent that a word spells after its letter. -/
def exponent? (word : List Char) : Option Int := do
  let (minus, unsigned) := signed word
  let n : Int := Text.valueOfDigits 10 (← grouped? Char.isDigit unsigned)
  return if minus then -n else n

/-- Whether a character is the letter in front of an exponent. -/
def isExponentMark (c : Char) : Bool := c = 'e' || c = 'E'

/-- The real number that a word without a sign spells. -/
def unsignedReal? (word : List Char) : Option Float := do
  let mantissa := word.takeWhile (!isExponentMark ·)
  let exponent ← match word.drop mantissa.length with
    | [] => some 0
    | _ :: rest => exponent? rest
  let whole ← whole? (mantissa.takeWhile (· ≠ '.'))
  match mantissa.dropWhile (· ≠ '.') with
  | [] =>
    if mantissa.length = word.length then none
    else return Decimal.nearest (Text.valueOfDigits 10 whole) exponent
  | _ :: rest =>
    let places ← grouped? Char.isDigit rest
    return Decimal.nearest (Text.valueOfDigits 10 (whole ++ places)) (exponent - places.length)

/-- The real number that a word spells. A word in digits may not spell an infinite one, unless it is
below zero. -/
def real? (word : List Char) : Option Tree := do
  let (minus, unsigned) := signed word
  match unsigned with
  | ['i', 'n', 'f'] => return .real (if minus then -(1 / 0) else 1 / 0)
  | ['n', 'a', 'n'] => return .real (0 / 0)
  | _ =>
    let x ← unsignedReal? unsigned
    if minus then return .real (-x)
    else if x.isInf then none
    else return .real x

/-! ## Dates and times -/

/-- The number that two digits in front of a text spell, up to a largest one, and the text after. -/
def twoDigits? (largest : Nat) : List Char → Option (Nat × List Char)
  | a :: b :: rest =>
    let n := Text.valueOfDigits 10 [a, b]
    if a.isDigit ∧ b.isDigit ∧ n ≤ largest then some (n, rest) else none
  | _ => none

/-- The text after a mark. -/
def after? (mark : Char) : List Char → Option (List Char)
  | c :: rest => if c = mark then some rest else none
  | [] => none

/-- The date in front of a text, in its usual form, and the text after it. -/
def day? (text : List Char) : Option (List Char × List Char) := do
  let year := text.take 4
  if year.length < 4 ∨ !year.all Char.isDigit then none
  else
    let (month, rest) ← twoDigits? 12 (← after? '-' (text.drop 4))
    let (day, rest) ← twoDigits? 31 (← after? '-' rest)
    let date ← Date.ofYmd? (Text.valueOfDigits 10 year) month day
    return (date.chars, rest)

/-- Digits after the point of a second, without the zeros at their end; nine count. -/
def fractionText (digits : List Char) : List Char :=
  match ((digits.take 9).reverse.dropWhile (· = '0')).reverse with
  | [] => []
  | kept => '.' :: kept

/-- The time of day in front of a text, in its usual form, with an hour up to a largest one, and the
text after it. -/
def clockUpTo? (largestHour : Nat) (text : List Char) : Option (List Char × List Char) := do
  let (hour, rest) ← twoDigits? largestHour text
  let (minute, rest) ← twoDigits? 59 (← after? ':' rest)
  let (second, rest) ← twoDigits? 60 (← after? ':' rest)
  let shown := Date.padded 2 hour ++ ':' :: Date.padded 2 minute ++ ':' :: Date.padded 2 second
  match rest with
  | '.' :: after =>
    let digits := after.takeWhile Char.isDigit
    if digits.isEmpty then none
    else return (shown ++ fractionText digits, after.dropWhile Char.isDigit)
  | _ => return (shown, rest)

/-- The time of day in front of a text, in its usual form, and the text after it. -/
def clock? (text : List Char) : Option (List Char × List Char) := clockUpTo? 23 text

/-- A distance from universal time in its usual form. None at all goes forwards. -/
def offsetText (back : Bool) (minutes : Nat) : List Char :=
  (if back ∧ minutes ≠ 0 then '-' else '+') ::
    (Date.padded 2 (minutes / 60) ++ ':' :: Date.padded 2 (minutes % 60))

/-- What a text says of the distance from universal time, in its usual form; it may say nothing. -/
def offset? (text : List Char) : Option (List Char) :=
  match text with
  | [] => some []
  | ['Z'] | ['z'] => some ['Z']
  | sign :: rest => do
    let (hour, rest) ← twoDigits? 23 rest
    let (minute, rest) ← twoDigits? 59 (← after? ':' rest)
    if rest.isEmpty ∧ (sign = '+' ∨ sign = '-') then
      return offsetText (sign = '-') (60 * hour + minute)
    else none

/-- The usual form of a time of day with what may follow it. -/
def zonedClock? (text : List Char) : Option (List Char) := do
  let (clock, rest) ← clock? text
  return clock ++ (← offset? rest)

/-- The usual form of a date, a time of day, or both with a letter between them. -/
def moment? (word : List Char) : Option (List Char) :=
  match day? word with
  | some (day, []) => some day
  | some (day, mark :: rest) =>
    if mark = 'T' ∨ mark = 't' then (zonedClock? rest).map fun clock => day ++ 'T' :: clock
    else none
  | none =>
    match clock? word with
    | some (clock, []) => some clock
    | _ => none

/-- The value that a word spells, dates and times aside. -/
def ofWord? (word : List Char) : Option Tree :=
  if word = ['t', 'r', 'u', 'e'] then some (.bool true)
  else if word = ['f', 'a', 'l', 's', 'e'] then some (.bool false)
  else (real? word).or (integer? word)

/-! ## Dates and times in quotes -/

/-- What a text in quotes says of the distance from universal time, in its usual form. It goes up to
a day, and its minutes need not be less than an hour. -/
def quotedOffset? (text : List Char) : Option (List Char) :=
  match text with
  | [] => some []
  | ['Z'] | ['z'] => some ['Z']
  | sign :: rest => do
    let (hours, rest) ← twoDigits? 99 rest
    let (minutes, rest) ← twoDigits? 99 (← after? ':' rest)
    let all := 60 * hours + minutes
    if rest.isEmpty ∧ (sign = '+' ∨ sign = '-') ∧ all ≤ 24 * 60 then
      return offsetText (sign = '-') all
    else none

/-- The usual form of a date, a time of day, or both that a text in quotes spells. The day may have
an hour more than it has outside of quotes. -/
def quotedMoment? (text : List Char) : Option (List Char) :=
  if text[2]? = some ':' then
    match clockUpTo? 24 text with
    | some (clock, []) => some clock
    | _ => none
  else
    match day? text with
    | some (day, []) => some day
    | some (day, mark :: rest) => do
      let (clock, rest) ← clockUpTo? 24 rest
      let offset ← quotedOffset? rest
      if mark = 'T' ∨ mark = 't' ∨ mark = ' ' then return day ++ 'T' :: clock ++ offset else none
    | none => none

end TypedQuery.Toml
