import TypedQuery.Schema.Registry

/-!
# The registry with its index

A program fills its registry once, table by table, and looks names up ever after. So the tables are
kept in a list, and beside it an index has the position of each name. A table that is refused leaves
both as they were; one that is accepted goes to the end of the list and into the index.

Plans read the list alone, which is a `Registry`.
-/

namespace TypedQuery

/-- A registry with the position of each of its names. -/
structure IndexedRegistry extends Registry where
  /-- The names with the positions of their tables, the last name in front. -/
  index : List (String × Nat)

namespace IndexedRegistry

/-- The registry without tables. -/
def empty : IndexedRegistry := ⟨.empty, []⟩

/-- The table of a name, at the position that the index has for it. -/
def table? (registry : IndexedRegistry) (name : String) : Option Table :=
  (registry.index.lookup name).bind fun position => registry.tables[position]?

/-- The table of a name, whose absence is an error. -/
def lookup (registry : IndexedRegistry) (name : String) : Except QueryError Table :=
  match registry.table? name with
  | some table => .ok table
  | none => .error (.unknownTable name)

/-- The registry with one more table, whatever its name and its keys are. -/
def push (registry : IndexedRegistry) (table : Table) : IndexedRegistry where
  tables := registry.tables ++ [table]
  index := (table.name, registry.tables.length) :: registry.index

/-- Takes a table up if its name is new and its keys all exist. -/
def register (registry : IndexedRegistry) (table : Table) :
    Except QueryError Unit × IndexedRegistry :=
  if (registry.index.lookup table.name).isSome then
    (.error (.duplicateTable table.name), registry)
  else
    match table.fault? registry.table? with
    | some fault => (.error (.invalidTable fault), registry)
    | none => (.ok (), registry.push table)

/-- The registry after each of some tables has been registered or refused. -/
def registerEach (registry : IndexedRegistry) (tables : List Table) : IndexedRegistry :=
  tables.foldl (fun registry table => (registry.register table).2) registry

/-- A successful lookup is a table found under its name. -/
theorem lookup_eq_ok {registry : IndexedRegistry} {name : String} {table : Table} :
    registry.lookup name = .ok table ↔ registry.table? name = some table := by
  unfold lookup
  split <;> simp_all

end IndexedRegistry

end TypedQuery
