import TypedQuery.Calendar.Date
import TypedQuery.Text.Blank

/-!
# Reading dates

A store without dates keeps them as text, with or without a time of day. A format is a list of
pieces, and a text is read piece by piece from its first to its last character. Before every number
blanks are skipped. A year has up to four digits, or any number of them after a sign; the other
numbers have one or two and must lie in their range. Where the format has a blank the text may have
any number of them, none included.

The time of day is checked and then dropped: only the day counts.
-/

namespace TypedQuery.Calendar

/-- One piece of a format. -/
inductive Piece where
  | year
  | month
  | day
  /-- A number of the time of day, up to a largest one that may be written. -/
  | clock (largest : Nat)
  /-- A point and digits, both of which may be missing. -/
  | fraction
  | mark (c : Char)
  | blanks
  deriving DecidableEq

/-- The date in the usual order, with hyphens. -/
def dayPieces : List Piece :=
  [.year, .mark '-', .month, .mark '-', .day]

/-- Hours, minutes and seconds with colons. A sixtieth second is a leap second. -/
def clockPieces : List Piece :=
  [.clock 23, .mark ':', .clock 59, .mark ':', .clock 60]

/-- The formats that a date is read in, tried in this order. -/
def formats : List (List Piece) :=
  [dayPieces,
   dayPieces ++ .blanks :: clockPieces,
   dayPieces ++ .mark 'T' :: clockPieces,
   dayPieces ++ .blanks :: clockPieces ++ [.fraction]]

/-- The value of decimal digits. -/
def digitsValue (digits : List Char) : Nat :=
  digits.foldl (fun value c => 10 * value + (c.toNat - 48)) 0

/-- At most `width` digits in front of a text and at least one: their value and the text after. -/
def number? (width : Nat) (text : List Char) : Option (Nat × List Char) :=
  let digits := (text.take width).takeWhile Char.isDigit
  if digits.isEmpty then none else some (digitsValue digits, text.drop digits.length)

/-- A year in front of a text, blanks already skipped. -/
def year? (text : List Char) : Option (Int × List Char) :=
  match text with
  | '-' :: rest => (number? rest.length rest).map fun (n, after) => (-(n : Int), after)
  | '+' :: rest => (number? rest.length rest).map fun (n, after) => ((n : Int), after)
  | _ => (number? 4 text).map fun (n, after) => ((n : Int), after)

/-- A number of up to two digits from a range in front of a text, blanks already skipped. -/
def bounded? (least largest : Nat) (text : List Char) : Option (Nat × List Char) :=
  match number? 2 text with
  | some (n, after) => if least ≤ n ∧ n ≤ largest then some (n, after) else none
  | none => none

/-- A text without the blanks in front. -/
def skipBlanks (text : List Char) : List Char :=
  text.dropWhile Text.isBlank

/-- What has been read of a date. -/
structure Partial where
  year : Int := 0
  month : Nat := 0
  day : Nat := 0

/-- Reads one piece in front of a text. -/
def Piece.read? (piece : Piece) (date : Partial) (text : List Char) :
    Option (Partial × List Char) :=
  match piece with
  | .year => (year? (skipBlanks text)).map fun (n, rest) => ({ date with year := n }, rest)
  | .month =>
    (bounded? 1 12 (skipBlanks text)).map fun (n, rest) => ({ date with month := n }, rest)
  | .day => (bounded? 1 31 (skipBlanks text)).map fun (n, rest) => ({ date with day := n }, rest)
  | .clock largest => (bounded? 0 largest (skipBlanks text)).map fun (_, rest) => (date, rest)
  | .fraction =>
    match text with
    | '.' :: c :: rest =>
      if c.isDigit then some (date, rest.dropWhile Char.isDigit) else none
    | '.' :: [] => none
    | _ => some (date, text)
  | .mark c =>
    match text with
    | [] => none
    | first :: rest => if first = c then some (date, rest) else none
  | .blanks => some (date, skipBlanks text)

/-- Reads the pieces of a format one after another, up to the end of the text. -/
def readPieces (pieces : List Piece) (date : Partial) (text : List Char) : Option Partial :=
  match pieces with
  | [] => if text.isEmpty then some date else none
  | piece :: rest => do
    let (date, text) ← piece.read? date text
    readPieces rest date text

/-- The date that a text is in one format. -/
def readAs? (format : List Piece) (text : List Char) : Option Date := do
  let date ← readPieces format {} text
  Date.ofYmd? date.year date.month date.day

end TypedQuery.Calendar

/-- The date that a text is in one of the formats. -/
def TypedQuery.Date.ofString? (text : String) : Option TypedQuery.Date :=
  TypedQuery.Calendar.formats.findSome? fun format =>
    TypedQuery.Calendar.readAs? format text.toList
