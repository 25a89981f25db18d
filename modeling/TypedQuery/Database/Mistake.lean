import TypedQuery.Database.Failure

/-!
# Mistakes in statements

What is wrong with a statement that can be read, in the light of the tables that there are. Some
mistakes are mistakes only as long as the tables are what they were thought to be.
-/

namespace TypedQuery.Database

/-- How a statement is wrong before it runs. -/
inductive Mistake where
  | unknownTable (name : String)
  /-- A column that is named at an offset in the statement. -/
  | unknownColumn (table : Option String) (name : String) (offset : Nat)
  /-- A column to which a value is to be assigned. -/
  | unknownTarget (name : String)
  /-- A column for which a new row is to have a value. -/
  | notAColumn (table column : String)
  /-- A column refers to a table that is not there. -/
  | unknownReference (table : String)
  /-- The name of a new table, as it is written at an offset, is taken. -/
  | tableExists (shown : String) (offset : Nat)
  | noTables
  /-- The columns are wanted of a table that the query is not about. -/
  | otherTable (name : String)
  | unevenRows
  | wrongWidth (table : String) (columns values : Nat)
  | wrongCount (columns values : Nat)
  /-- A hexadecimal number does not fit 64 bits. -/
  | numberTooBig (negative : Bool) (spelling : List Char) (offset : Nat)
  /-- A term of an order, counted from one, numbers a result that there is not. -/
  | noSuchResult (position results : Nat) (offset : Option Nat)
  | duplicateColumn (name : String)
  | severalKeys (table : String)
  /-- The columns of a new table cannot be read. -/
  | misread (failure : Failure)

/-- A position in words. -/
def ordinalText (n : Nat) : String :=
  let ending :=
    if n / 10 % 10 = 1 then "th"
    else match n % 10 with
      | 1 => "st"
      | 2 => "nd"
      | 3 => "rd"
      | _ => "th"
  toString n ++ ending

namespace Mistake

/-- Whether a mistake may be none if the tables have changed. -/
def mayBeOutdated : Mistake → Bool
  | .unknownTable _ | .unknownColumn .. | .unknownTarget _ | .notAColumn ..
  | .unknownReference _ | .tableExists .. => true
  | _ => false

/-- A failure that is about the statement as a whole. -/
def refused (message : String) : Failure := .code 1 (some message)

/-- The failure of a statement, given by its text, in which there is a mistake. -/
def toFailure (text : String) : Mistake → Failure
  | .unknownTable name | .otherTable name => refused s!"no such table: {name}"
  | .unknownColumn table name offset =>
    let shown := match table with
      | some table => table ++ "." ++ name
      | none => name
    .input s!"no such column: {shown}" text offset
  | .unknownTarget name => refused s!"no such column: {name}"
  | .notAColumn table column => refused s!"table {table} has no column named {column}"
  | .unknownReference table => refused s!"no such table: main.{table}"
  | .tableExists shown offset => .input s!"table {shown} already exists" text offset
  | .noTables => refused "no tables specified"
  | .unevenRows => refused "all VALUES must have the same number of terms"
  | .wrongWidth table columns values =>
    refused s!"table {table} has {columns} columns but {values} values were supplied"
  | .wrongCount columns values => refused s!"{values} values for {columns} columns"
  | .numberTooBig negative spelling offset =>
    let shown := (if negative then "-" else "") ++ String.ofList spelling
    .input s!"hex literal too big: {shown}" text offset
  | .noSuchResult position results offset =>
    let shown := ordinalText position
    let message := s!"{shown} ORDER BY term out of range - should be between 1 and {results}"
    match offset with
    | some offset => .input message text offset
    | none => refused message
  | .duplicateColumn name => refused s!"duplicate column name: {name}"
  | .severalKeys table => refused s!"table \"{table}\" has more than one primary key"
  | .misread failure => failure

end Mistake

end TypedQuery.Database
