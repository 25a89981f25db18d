import TypedQuery.Value.Basic

/-!
# Values as the database stores them

The database has five kinds of values: null, integers, real numbers, texts and bytes. A truth value
is bound to a placeholder as one or zero, and a date as its text. What is no number is bound as it
is, but stored as null.
-/

namespace TypedQuery

namespace Database

/-- A value of the database. -/
inductive Datum where
  | null
  | integer (i : Int64)
  | real (x : Float)
  | text (s : String)
  | blob (bytes : List UInt8)

/-- What is bound to a placeholder for a value. -/
def Datum.ofValue : Value → Datum
  | .null => .null
  | .integer i => .integer i
  | .real x => .real x
  | .text s => .text s
  | .boolean b => .integer (if b then 1 else 0)
  | .date d => .text d.text
  | .blob bytes => .blob bytes

/-- The value that is read for one of the database, whose meaning is not known yet. -/
def Datum.value : Datum → Value
  | .null => .null
  | .integer i => .integer i
  | .real x => .real x
  | .text s => .text s
  | .blob bytes => .blob bytes

end Database

namespace Value

/-- The value that comes back for one that is bound to a placeholder. -/
def bound (v : Value) : Value :=
  (Database.Datum.ofValue v).value

/-- The value that the database keeps for a value that is bound to a placeholder. -/
def stored (v : Value) : Value :=
  match v.bound with
  | .real x => if x.isNaN then .null else .real x
  | kept => kept

@[simp] theorem bound_boolean (b : Bool) :
    (Value.boolean b).bound = .integer (if b then 1 else 0) := rfl

@[simp] theorem bound_date (d : Date) : (Value.date d).bound = .text d.text := rfl

theorem stored_real (x : Float) :
    (Value.real x).stored = if x.isNaN then .null else .real x := rfl

/-- Storing a value once more changes nothing. -/
theorem stored_stored (v : Value) : v.stored.stored = v.stored := by
  cases v with
  | real x =>
    rw [stored_real]
    split
    · rfl
    · next h => rw [stored_real, if_neg h]
  | _ => rfl

end Value

end TypedQuery
