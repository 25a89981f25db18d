import TypedQuery.Json.Record
import TypedQuery.Json.Writing
import TypedQuery.Schema.Table

/-!
# Tables in JSON

A table definition is written as an object with its name, its columns, its primary key, which may be
null, and its foreign keys, in this order. A type is written as a word; on reading it may also be
the only name of an object, with null under it.
-/

namespace TypedQuery

/-- The word for a type in JSON. -/
def DataType.word : DataType → String
  | .text => "Text"
  | .integer => "Integer"
  | .real => "Real"
  | .date => "Date"
  | .boolean => "Boolean"

/-- The type of a word. -/
def DataType.ofWord? (word : String) : Option DataType :=
  [.text, .integer, .real, .date, .boolean].find? (·.word = word)

/-- Reads a type. -/
def DataType.readJson : Json → Except Json.Fault DataType
  | .text (.ok s) => named (String.ofList s)
  | .text (.error fault) => .error fault
  | .object (.entry (.ok key) value rest) => do
    let dataType ← named (String.ofList key)
    match value, rest with
    | .null, .done => return dataType
    | .null, .cut stop => throw stop.choosing
    | .null, .entry _ _ _ => throw .spelling
    | _, _ => throw value.wrongKind
  | .object (.entry (.error fault) _ _) => .error fault
  | .object (.cut stop) | .broken stop => .error stop.choosing
  | .object .done | .null | .bool _ | .number _ | .array _ => .error .spelling
where
  /-- The type of a word, whose absence is a fault. -/
  named (word : String) : Except Json.Fault DataType :=
    match DataType.ofWord? word with
    | some dataType => .ok dataType
    | none => .error .shape

/-- The fields of a column. -/
def Column.fields : List (Json.Field Column) :=
  [{ name := "name", read := fun json column => do
      return { column with name := ← json.readText } },
   { name := "data_type", read := fun json column => do
      return { column with dataType := ← DataType.readJson json } },
   { name := "nullable", read := fun json column => do
      return { column with nullable := ← json.readBool } }]

/-- The fields of a foreign key. -/
def ForeignKey.fields : List (Json.Field ForeignKey) :=
  [{ name := "column", read := fun json key => do
      return { key with column := ← json.readText } },
   { name := "referenced_table", read := fun json key => do
      return { key with table := ← json.readText } },
   { name := "referenced_column", read := fun json key => do
      return { key with referenced := ← json.readText } }]

namespace Table

/-- The fields of a table. -/
def fields : List (Json.Field Table) :=
  [{ name := "name", read := fun json table => do
      return { table with name := ← json.readText } },
   { name := "columns", read := fun json table => do
      return { table with columns := ← json.readList (Json.readRecord Column.fields default) } },
   { name := "primary_key", optional := true, read := fun json table => do
      return { table with primaryKey := ← json.readOption Json.readText } },
   { name := "foreign_keys", read := fun json table => do
      return { table with
        foreignKeys := ← json.readList (Json.readRecord ForeignKey.fields default) } }]

/-- Reads a table definition from a JSON text. -/
def ofJson (text : String) : Except Json.Fault Table :=
  Json.readWhole (Json.readRecord fields default) text

/-- A table definition in JSON. -/
def toJson (table : Table) : String :=
  String.ofList <| Json.writeObject
    [("name", Json.writeText table.name.toList),
     ("columns", Json.writeArray (table.columns.map fun column => Json.writeObject
       [("name", Json.writeText column.name.toList),
        ("data_type", Json.writeText column.dataType.word.toList),
        ("nullable", Json.writeBool column.nullable)])),
     ("primary_key", match table.primaryKey with
       | some key => Json.writeText key.toList
       | none => Json.writeNull),
     ("foreign_keys", Json.writeArray (table.foreignKeys.map fun key => Json.writeObject
       [("column", Json.writeText key.column.toList),
        ("referenced_table", Json.writeText key.table.toList),
        ("referenced_column", Json.writeText key.referenced.toList)]))]

end Table

end TypedQuery
