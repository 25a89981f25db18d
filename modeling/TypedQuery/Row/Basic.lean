import TypedQuery.Value.Json

/-!
# Rows

A row of a result: values under output names, in order. A name occurs once. Putting in a value under
a name that the row has already replaces the value and leaves the name where it is, so two selected
columns of one name end up as one entry with the later value.
-/

namespace TypedQuery

/-- A row of a result. -/
structure Row where
  entries : List (String × Value)
  deriving Inhabited

namespace Row

/-- The row without entries. -/
def empty : Row := ⟨[]⟩

/-- The entries with a value under a name: in place of the old value, or else at the end. -/
def put (name : String) (value : Value) : List (String × Value) → List (String × Value)
  | [] => [(name, value)]
  | (key, old) :: rest =>
    if key = name then (key, value) :: rest else (key, old) :: put name value rest

/-- The row with a value under a name. -/
def insert (row : Row) (name : String) (value : Value) : Row :=
  ⟨put name value row.entries⟩

/-- The value under a name. -/
def get? (row : Row) (name : String) : Option Value :=
  (row.entries.find? (·.1 = name)).map (·.2)

/-- Whether a row has no value under a name, or null. -/
def isAbsent (row : Row) (name : String) : Bool :=
  match row.get? name with
  | some value => value.isNull
  | none => true

/-- Whether a row has a name. -/
def contains (row : Row) (name : String) : Bool :=
  (row.get? name).isSome

/-- The number of entries. -/
def size (row : Row) : Nat :=
  row.entries.length

/-- Whether a row has no entries. -/
def isEmpty (row : Row) : Bool :=
  row.entries.isEmpty

/-- The names of a row in order. -/
def names (row : Row) : List String :=
  row.entries.map (·.1)

/-- A row in JSON: an object with its entries in order. -/
def toJson (row : Row) : String :=
  String.ofList (Json.writeObject (row.entries.map fun (name, value) => (name, value.jsonChars)))

/-- Putting in a value keeps the names if the name is among them, and else adds it at the end. -/
theorem map_fst_put (name : String) (value : Value) (entries : List (String × Value)) :
    (put name value entries).map (·.1) =
      if name ∈ entries.map (·.1) then entries.map (·.1) else entries.map (·.1) ++ [name] := by
  induction entries with
  | nil => simp [put]
  | cons entry rest ih =>
    obtain ⟨key, old⟩ := entry
    by_cases same : key = name
    · simp [put, same]
    · have other : name ≠ key := fun h => same h.symm
      simp only [put, same, if_false, List.map_cons, ih, List.mem_cons, other, false_or]
      split <;> simp

end Row

end TypedQuery
