import TypedQuery.Json.Tree

/-!
# Records in JSON

A record may be given as an object, with its fields under their names in any order, or as an array,
with its fields in their own order. In an object, fields of other names are skipped, and a field
that occurs twice or is missing is a fault. In an array, every field has to be there and nothing
else. Fields are read in the order of the text, so the first fault of the text is the one reported.
-/

namespace TypedQuery.Json

/-- The fault of a value that is not of the kind that is wanted. -/
def wrongKind : Json → Fault
  | .null | .bool _ | .array _ | .object _ | .number (.ok _) | .text (.ok _) => .shape
  | .number (.error fault) | .text (.error fault) => fault
  | .broken stop => stop.reading

/-- Reads a string. -/
def readText : Json → Except Fault String
  | .text (.ok s) => .ok (String.ofList s)
  | json => .error json.wrongKind

/-- Reads a truth value. -/
def readBool : Json → Except Fault Bool
  | .bool b => .ok b
  | json => .error json.wrongKind

/-- Reads a value that may be null. -/
def readOption {α : Type} (read : Json → Except Fault α) : Json → Except Fault (Option α)
  | .null => .ok none
  | json => (read json).map some

/-- Reads the items of an array one after another. -/
def readItems {α : Type} (read : Json → Except Fault α) : Items → Except Fault (List α)
  | .done => .ok []
  | .cut stop => .error stop.reading
  | .item value rest => do
    let first ← read value
    let others ← readItems read rest
    return first :: others

/-- Reads an array. -/
def readList {α : Type} (read : Json → Except Fault α) : Json → Except Fault (List α)
  | .array items => readItems read items
  | json => .error json.wrongKind

/-- A field of a record: how its value is put into the record that is being read. -/
structure Field (α : Type) where
  name : String
  /-- Whether the field may be missing from an object. -/
  optional : Bool := false
  read : Json → α → Except Fault α

/-- Reads the fields of a record from the items of an array. -/
def readFieldItems {α : Type} (record : α) : List (Field α) → Items → Except Fault α
  | [], .done => .ok record
  | [], .cut stop => .error stop.reading
  | [], .item _ _ => .error .spelling
  | _ :: _, .done => .error .shape
  | _ :: _, .cut stop => .error stop.reading
  | field :: fields, .item value rest => do
    let record ← field.read value record
    readFieldItems record fields rest

/-- Reads the fields of a record from the entries of an object; `seen` are the names read so far. -/
def readFieldEntries {α : Type} (fields : List (Field α)) (seen : List String) (record : α) :
    Entries → Except Fault α
  | .done =>
    if fields.all fun field => field.optional || seen.contains field.name then .ok record
    else .error .shape
  | .cut stop => .error stop.reading
  | .entry (.error fault) _ _ => .error fault
  | .entry (.ok key) value rest =>
    let name := String.ofList key
    match fields.find? (·.name = name) with
    | some field =>
      if seen.contains name then .error .shape
      else do
        let record ← field.read value record
        readFieldEntries fields (name :: seen) record rest
    | none =>
      match value.skipFault? with
      | some fault => .error fault
      | none => readFieldEntries fields seen record rest

/-- Reads a record, whose fields are put one by one into a first one. -/
def readRecord {α : Type} (fields : List (Field α)) (first : α) : Json → Except Fault α
  | .array items => readFieldItems first fields items
  | .object entries => readFieldEntries fields [] first entries
  | json => .error json.wrongKind

end TypedQuery.Json
