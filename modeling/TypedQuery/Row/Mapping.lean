import TypedQuery.Calendar.Reading
import TypedQuery.Plan.Basic
import TypedQuery.Row.Basic

/-!
# From stored values to rows

The store knows numbers, texts and bytes only. What a value of its result means is known from the
position that it stands in: a number may be a truth value, and a text or a number of seconds a date.
A value that cannot be what it should be is kept as it was stored.
-/

namespace TypedQuery

/-- A row as the store gives it: values in the order of the result's positions. -/
abbrev RawRow := List Value

/-- The value that a stored one means at a position of some type. -/
def Value.convert (dataType : DataType) (value : Value) : Value :=
  match dataType, value with
  | .boolean, .integer i => .boolean (i ≠ 0)
  | .real, .integer i => .real i.toFloat
  | .date, .text s =>
    match Date.ofString? s with
    | some day => .date day
    | none => .text s
  | .date, .integer i =>
    match Date.ofSeconds? i.toInt with
    | some day => .date day
    | none => .integer i
  | _, value => value

/-- The row of a stored one. Positions without a value and values without a position are left
out. -/
def Row.ofRaw (columns : List OutputColumn) (raw : RawRow) : Row :=
  (columns.zip raw).foldl
    (fun row (column, value) => row.insert column.name (value.convert column.dataType)) .empty

end TypedQuery
