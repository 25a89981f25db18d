import TypedQuery.Error

/-!
# Failures of the database

The database ends a failed call with a result code, of which the low eight bits name the kind of
failure, and mostly with a message. The binding to it has failures of its own, which come without a
code. What a caller is told depends on the kind alone: a violated constraint is the statement's
fault, a database that is locked or cannot be opened may be tried again, and all else is final.
-/

namespace TypedQuery.Database

/-- How a call to the database fails. -/
inductive Failure where
  /-- The database gave up with a result code. -/
  | code (number : Int) (message : Option String)
  /-- A statement is wrong at a place in it, counted in bytes. -/
  | input (message statement : String) (offset : Nat)
  /-- One row was wanted and there is none. -/
  | noRows
  /-- A statement that should only change rows gave some. -/
  | returnedRows
  | severalStatements
  /-- A query would change the database. -/
  | notReadOnly
  | parameterCount (given needed : Nat)
  | columnIndex (index : Nat)
  | columnName (name : String)
  | parameterName (name : String)
  /-- A query changed rows. -/
  | changedRows (rows : Nat)
  deriving DecidableEq

namespace Failure

/-- The meaning of a result code, for failures without a message. -/
def codeText (code : Int) : String :=
  match code with
  | 1 => "SQL error or missing database"
  | 2 => "Internal logic error in SQLite"
  | 3 => "Access permission denied"
  | 4 => "Callback routine requested an abort"
  | 5 => "The database file is locked"
  | 6 => "A table in the database is locked"
  | 7 => "A malloc() failed"
  | 8 => "Attempt to write a readonly database"
  | 9 => "Operation terminated by sqlite3_interrupt()"
  | 10 => "Some kind of disk I/O error occurred"
  | 11 => "The database disk image is malformed"
  | 12 => "Unknown opcode in sqlite3_file_control()"
  | 13 => "Insertion failed because database is full"
  | 14 => "Unable to open the database file"
  | 15 => "Database lock protocol error"
  | 17 => "The database schema changed"
  | 18 => "String or BLOB exceeds size limit"
  | 19 => "Abort due to constraint violation"
  | 20 => "Data type mismatch"
  | 21 => "Library used incorrectly"
  | 23 => "Authorization denied"
  | 25 => "2nd parameter to sqlite3_bind out of range"
  | 26 => "File opened that is not a database file"
  | 262 => "Locking conflict due to another connection with a shared cache"
  | 787 => "Foreign key constraint failed"
  | 1299 => "A NOT NULL constraint failed"
  | 1555 => "A PRIMARY KEY constraint failed"
  | 2067 => "A UNIQUE constraint failed"
  | _ => "Unknown error code"

/-- The wording of a failure. -/
def message : Failure → String
  | .code _ (some message) => message
  | .code number none => s!"Error code {number}: {codeText number}"
  | .input message statement offset => s!"{message} in {statement} at offset {offset}"
  | .noRows => "Query returned no rows"
  | .returnedRows => "Execute returned results - did you mean to call query?"
  | .severalStatements => "Multiple statements provided"
  | .notReadOnly => "Query is not read-only"
  | .parameterCount given needed => (StoreFault.parameterCount given needed).message
  | .columnIndex index => s!"Invalid column index: {index}"
  | .columnName name => s!"Invalid column name: {name}"
  | .parameterName name => s!"Invalid parameter name: {name}"
  | .changedRows rows => s!"Query changed {rows} rows"

/-- What a failure means for a caller. -/
inductive Severity where
  /-- The statement would have left the rows inconsistent. -/
  | constraint
  /-- The database is locked, cannot be opened or cannot be read at the moment. -/
  | unavailable
  | final
  deriving DecidableEq

/-- What a result code means, by its low eight bits. -/
def severityOfCode (code : Int) : Severity :=
  match code % 256 with
  | 19 => .constraint
  | 5 | 6 | 10 | 14 | 26 => .unavailable
  | _ => .final

/-- The error that a failure of the database is to a caller. -/
def toError (failure : Failure) : QueryError :=
  match failure with
  | .code number _ =>
    match severityOfCode number with
    | .constraint => .constraintViolation failure.message
    | .unavailable => .storeUnavailable (.stated failure.message)
    | .final => .store (.stated failure.message)
  | .parameterCount given needed => .store (.parameterCount given needed)
  | _ => .store (.stated failure.message)

end Failure

end TypedQuery.Database
