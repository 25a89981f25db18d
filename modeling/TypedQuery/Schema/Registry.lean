import TypedQuery.Error
import TypedQuery.Schema.Table

/-!
# The registry of tables

Tables are registered one after another and never change again. A table may only point at tables
that are registered already, or at itself, so the order of registration is an order in which the
tables could be created, and every foreign key has a target.

The registry is the list of its tables in order. No two tables of a registry share a name, hence
looking up a name means finding the first table that is called so.
-/

namespace TypedQuery

namespace Table

/-- The first fault of a foreign key of a table that is about to be registered, where `find` finds
the tables that are registered already. -/
def foreignKeyFault? (table : Table) (find : String → Option Table) (key : ForeignKey) :
    Option TableFault :=
  if !table.hasColumn key.column then
    some (.foreignKeyNotColumn key.column table.name)
  else
    match if key.table = table.name then some table else find key.table with
    | some target =>
      if target.hasColumn key.referenced then none
      else some (.unknownTarget table.name key.column key.table key.referenced)
    | none => some (.unknownTargetTable table.name key.column key.table)

/-- The first fault of a table definition: its primary key comes before its foreign keys. -/
def fault? (table : Table) (find : String → Option Table) : Option TableFault :=
  match table.primaryKey with
  | some key =>
    if table.hasColumn key then table.foreignKeys.findSome? (table.foreignKeyFault? find)
    else some (.keyNotColumn key table.name)
  | none => table.foreignKeys.findSome? (table.foreignKeyFault? find)

end Table

/-- The tables that plans can be made over, in the order in which they were registered. -/
structure Registry where
  tables : List Table
  deriving DecidableEq, Inhabited

namespace Registry

/-- The registry without tables. -/
def empty : Registry := ⟨[]⟩

/-- The table of a name. -/
def table? (registry : Registry) (name : String) : Option Table :=
  registry.tables.find? (·.name = name)

/-- The table of a name, whose absence is an error. -/
def lookup (registry : Registry) (name : String) : Except QueryError Table :=
  match registry.table? name with
  | some table => .ok table
  | none => .error (.unknownTable name)

/-- Adds a table whose name is new and whose keys all exist. -/
def register (registry : Registry) (table : Table) : Except QueryError Registry :=
  if (registry.table? table.name).isSome then .error (.duplicateTable table.name)
  else
    match table.fault? registry.table? with
    | some fault => .error (.invalidTable fault)
    | none => .ok ⟨registry.tables ++ [table]⟩

/-- Registers tables in order, starting from a registry; the first refused one ends it. -/
def registerAll (registry : Registry) (tables : List Table) : Except QueryError Registry :=
  tables.foldlM register registry

/-- The table found under a name has that name and is registered. -/
theorem table?_eq_some {registry : Registry} {name : String} {table : Table}
    (found : registry.table? name = some table) :
    table ∈ registry.tables ∧ table.name = name := by
  refine ⟨List.mem_of_find?_eq_some found, ?_⟩
  simpa using List.find?_some found

/-- A successful lookup is a table found under its name. -/
theorem lookup_eq_ok {registry : Registry} {name : String} {table : Table} :
    registry.lookup name = .ok table ↔ registry.table? name = some table := by
  unfold lookup
  split <;> simp_all

/-- A registration that succeeds puts the new table last and keeps the others. -/
theorem tables_register {registry bigger : Registry} {table : Table}
    (done : registry.register table = .ok bigger) :
    bigger.tables = registry.tables ++ [table] := by
  unfold register at done
  split at done
  · simp at done
  · split at done
    · simp at done
    · rw [Except.ok.injEq] at done
      rw [← done]

end Registry

end TypedQuery
