import Mathlib.Data.List.Nodup
import TypedQuery.Schema.IndexedRegistry
import TypedQuery.Schema.TradingCompany

/-!
# What registration keeps

However many tables a program has tried to register, and whichever of them were refused, the index
and the list of the registry are in step, and the keys of each table lead to columns that are there.

The invariant is `IndexedRegistry.InStep`: the index has a name at a position exactly if the table
at that position is called so. Everything that is said of names follows from it, in particular that
no two tables share one. `IndexedRegistry.coherent_registerEach` puts all together.
-/

namespace TypedQuery

/-- The elements of a list with one more at the end. -/
theorem getElem?_concat_eq_some {α : Type} {l : List α} {a b : α} {k : Nat} :
    (l ++ [a])[k]? = some b ↔ l[k]? = some b ∨ k = l.length ∧ b = a := by
  rw [List.getElem?_append]
  split
  · next inside =>
    have other : k ≠ l.length := by omega
    simp [other]
  · next outside =>
    have none : l[k]? = none := List.getElem?_eq_none (by omega)
    rw [none, List.getElem?_singleton]
    split
    · next last =>
      have here : k = l.length := by omega
      simp [here, eq_comm]
    · next beyond =>
      have other : k ≠ l.length := by omega
      simp [other]

/-! ## Keys -/

namespace Table

/-- The keys of a table lead to columns that are there: the primary key is a column of the table,
and a foreign key leads from one of its columns to a column of an earlier table or of itself. -/
structure KeysExist (earlier : List Table) (table : Table) : Prop where
  primary : ∀ key, table.primaryKey = some key → ∃ column ∈ table.columns, column.name = key
  foreign : ∀ key ∈ table.foreignKeys, (∃ column ∈ table.columns, column.name = key.column) ∧
    ∃ target ∈ earlier ++ [table], target.name = key.table ∧
      ∃ column ∈ target.columns, column.name = key.referenced

variable {table : Table} {earlier : List Table} {find : String → Option Table}

/-- A foreign key has no fault exactly if its column and its target are there. -/
theorem foreignKeyFault?_eq_none_iff {key : ForeignKey}
    (finds : ∀ name other, find name = some other ↔ other ∈ earlier ∧ other.name = name)
    (fresh : ∀ other ∈ earlier, other.name ≠ table.name) :
    table.foreignKeyFault? find key = none ↔
      (∃ column ∈ table.columns, column.name = key.column) ∧
        ∃ target ∈ earlier ++ [table], target.name = key.table ∧
          ∃ column ∈ target.columns, column.name = key.referenced := by
  -- The table itself comes before an earlier one of its name, of which there is none.
  have targets (target : Table) :
      (if key.table = table.name then some table else find key.table) = some target ↔
        target ∈ earlier ++ [table] ∧ target.name = key.table := by
    rw [List.mem_append, List.mem_singleton]
    by_cases self : key.table = table.name
    · rw [if_pos self, self, Option.some.injEq]
      constructor
      · rintro rfl
        exact ⟨.inr rfl, rfl⟩
      · rintro ⟨mem | rfl, named⟩
        · exact absurd named (fresh target mem)
        · rfl
    · rw [if_neg self, finds]
      constructor
      · rintro ⟨mem, named⟩
        exact ⟨.inl mem, named⟩
      · rintro ⟨mem | rfl, named⟩
        · exact ⟨mem, named⟩
        · exact absurd named.symm self
  unfold foreignKeyFault?
  rw [← hasColumn_iff]
  cases starts : table.hasColumn key.column with
  | false => simp
  | true =>
    simp only [Bool.not_true, Bool.false_eq_true, if_false, true_and]
    constructor
    · intro faultless
      split at faultless
      · next target found =>
        obtain ⟨mem, named⟩ := (targets target).1 found
        refine ⟨target, mem, named, hasColumn_iff.1 ?_⟩
        by_contra missing
        simp [missing] at faultless
      · simp at faultless
    · rintro ⟨target, mem, named, referenced⟩
      rw [(targets target).2 ⟨mem, named⟩]
      simp [hasColumn_iff.2 referenced]

/-- A table definition has no fault exactly if its keys exist. -/
theorem fault?_eq_none_iff
    (finds : ∀ name other, find name = some other ↔ other ∈ earlier ∧ other.name = name)
    (fresh : ∀ other ∈ earlier, other.name ≠ table.name) :
    table.fault? find = none ↔ table.KeysExist earlier := by
  have foreign : table.foreignKeys.findSome? (table.foreignKeyFault? find) = none ↔
      ∀ key ∈ table.foreignKeys, (∃ column ∈ table.columns, column.name = key.column) ∧
        ∃ target ∈ earlier ++ [table], target.name = key.table ∧
          ∃ column ∈ target.columns, column.name = key.referenced := by
    rw [List.findSome?_eq_none_iff]
    exact forall₂_congr fun key _ => foreignKeyFault?_eq_none_iff finds fresh
  unfold fault?
  split
  · next key primary =>
    have only (other : String) (same : table.primaryKey = some other) : other = key :=
      Option.some.inj (same.symm.trans primary)
    split
    · next has =>
      rw [foreign]
      constructor
      · intro all
        exact ⟨fun other same => only other same ▸ hasColumn_iff.1 has, all⟩
      · exact fun keys => keys.foreign
    · next missing =>
      constructor
      · intro faultless
        cases faultless
      · exact fun keys => absurd (hasColumn_iff.2 (keys.primary key primary)) missing
  · next primary =>
    rw [foreign]
    constructor
    · intro all
      exact ⟨fun key same => by simp [primary] at same, all⟩
    · exact fun keys => keys.foreign

end Table

/-! ## The index and the list -/

namespace IndexedRegistry

/-- The index and the list are in step, and the keys of each table lead to columns of the table
itself or of one before it. -/
structure InStep (registry : IndexedRegistry) : Prop where
  /-- The index has a name at a position exactly if the table there is called so. -/
  positions : ∀ name position, registry.index.lookup name = some position ↔
    ∃ table, registry.tables[position]? = some table ∧ table.name = name
  keys : ∀ position (table : Table), registry.tables[position]? = some table →
    table.KeysExist (registry.tables.take position)

variable {registry : IndexedRegistry}

/-- The registry without tables is in step. -/
theorem inStep_empty : empty.InStep where
  positions := by simp [empty, Registry.empty]
  keys := by simp [empty, Registry.empty]

/-- A name is looked up by its position and found in the list. -/
theorem InStep.table?_eq_some_iff (inStep : registry.InStep) {name : String} {table : Table} :
    registry.table? name = some table ↔ table ∈ registry.tables ∧ table.name = name := by
  rw [table?, Option.bind_eq_some_iff, List.mem_iff_getElem?]
  constructor
  · rintro ⟨position, indexed, found⟩
    obtain ⟨other, listed, named⟩ := (inStep.positions name position).1 indexed
    obtain rfl : table = other := Option.some.inj (found.symm.trans listed)
    exact ⟨⟨position, listed⟩, named⟩
  · rintro ⟨⟨position, found⟩, named⟩
    exact ⟨position, (inStep.positions name position).2 ⟨table, found, named⟩, found⟩

/-- A name is not in the index exactly if no table is called so. -/
theorem InStep.lookup_eq_none_iff (inStep : registry.InStep) {name : String} :
    registry.index.lookup name = none ↔ ∀ table ∈ registry.tables, table.name ≠ name := by
  constructor
  · intro missing table mem named
    obtain ⟨position, found⟩ := List.mem_iff_getElem?.1 mem
    have indexed := (inStep.positions name position).2 ⟨table, found, named⟩
    rw [missing] at indexed
    cases indexed
  · intro fresh
    by_contra there
    obtain ⟨position, indexed⟩ := Option.ne_none_iff_exists'.1 there
    obtain ⟨table, found, named⟩ := (inStep.positions name position).1 indexed
    exact fresh table (List.mem_of_getElem? found) named

/-- No two tables of a registry in step share a name, as the index has one position for it. -/
theorem InStep.nodup_names (inStep : registry.InStep) :
    (registry.tables.map (·.name)).Nodup := by
  rw [List.nodup_iff_getElem?_ne_getElem?]
  intro i j before inside same
  rw [List.length_map] at inside
  have first := (inStep.positions registry.tables[j].name i).2
    ⟨registry.tables[i], List.getElem?_eq_getElem _, by
      rw [List.getElem?_map, List.getElem?_map, List.getElem?_eq_getElem (by omega),
        List.getElem?_eq_getElem inside] at same
      exact Option.some.inj same⟩
  have second := (inStep.positions registry.tables[j].name j).2
    ⟨registry.tables[j], List.getElem?_eq_getElem inside, rfl⟩
  have equal : i = j := Option.some.inj (first.symm.trans second)
  omega

/-! ## One registration -/

/-- Whether a table is refused, and what becomes of the registry: nothing if it is, and else the
table is added to it. -/
theorem register_cases (registry : IndexedRegistry) (table : Table) :
    (∃ e, registry.register table = (.error e, registry)) ∨
      registry.register table = (.ok (), registry.push table) ∧
        registry.index.lookup table.name = none ∧ table.fault? registry.table? = none := by
  unfold register
  split
  · exact .inl ⟨_, rfl⟩
  · next fresh =>
    split
    · exact .inl ⟨_, rfl⟩
    · next faultless => exact .inr ⟨rfl, Option.not_isSome_iff_eq_none.1 fresh, faultless⟩

/-- A table is registered exactly if its name is new and its keys exist. -/
theorem InStep.register_eq_ok_iff (inStep : registry.InStep) (table : Table) :
    (registry.register table).1 = .ok () ↔
      (∀ other ∈ registry.tables, other.name ≠ table.name) ∧ table.KeysExist registry.tables := by
  have finds (name : String) (other : Table) : registry.table? name = some other ↔
      other ∈ registry.tables ∧ other.name = name := inStep.table?_eq_some_iff
  rw [← inStep.lookup_eq_none_iff]
  constructor
  · intro done
    obtain ⟨e, refused⟩ | ⟨-, fresh, faultless⟩ := register_cases registry table
    · rw [refused] at done
      cases done
    · have absent := inStep.lookup_eq_none_iff.1 fresh
      exact ⟨fresh, (Table.fault?_eq_none_iff finds absent).1 faultless⟩
  · rintro ⟨fresh, keys⟩
    have absent := inStep.lookup_eq_none_iff.1 fresh
    have faultless := (Table.fault?_eq_none_iff finds absent).2 keys
    simp [register, fresh, faultless]

/-- A new name and a table with existing keys keep a registry in step. -/
theorem InStep.push (inStep : registry.InStep) {table : Table}
    (fresh : registry.index.lookup table.name = none) (keys : table.KeysExist registry.tables) :
    (registry.push table).InStep where
  positions := by
    intro name position
    simp only [IndexedRegistry.push, List.lookup_cons, getElem?_concat_eq_some]
    by_cases own : name = table.name
    · -- The name of the table stands at its position and at no other.
      subst own
      simp only [beq_self_eq_true, Option.some.injEq]
      constructor
      · rintro rfl
        exact ⟨table, .inr ⟨rfl, rfl⟩, rfl⟩
      · rintro ⟨other, before | ⟨rfl, -⟩, named⟩
        · have indexed := (inStep.positions table.name position).2 ⟨other, before, named⟩
          rw [fresh] at indexed
          cases indexed
        · rfl
    · rw [show (name == table.name) = false by simpa using own, inStep.positions]
      constructor
      · rintro ⟨other, before, named⟩
        exact ⟨other, .inl before, named⟩
      · rintro ⟨other, before | ⟨-, rfl⟩, named⟩
        · exact ⟨other, before, named⟩
        · exact absurd named.symm own
  keys := by
    intro position other found
    rcases getElem?_concat_eq_some.1 found with before | ⟨rfl, rfl⟩
    · have inside : position ≤ registry.tables.length := by
        obtain ⟨less, -⟩ := List.getElem?_eq_some_iff.1 before
        omega
      simpa only [IndexedRegistry.push, List.take_append_of_le_length inside] using
        inStep.keys position other before
    · simpa only [IndexedRegistry.push, List.take_left] using keys

/-- A registry stays in step whether a table is registered or refused. -/
theorem InStep.register (inStep : registry.InStep) (table : Table) :
    (registry.register table).2.InStep := by
  obtain ⟨e, refused⟩ | ⟨done, fresh, -⟩ := register_cases registry table
  · rw [refused]
    exact inStep
  · have keys := ((inStep.register_eq_ok_iff table).1 (by rw [done])).2
    rw [done]
    exact inStep.push fresh keys

/-- The list only grows. -/
theorem prefix_tables_register (registry : IndexedRegistry) (table : Table) :
    registry.tables <+: (registry.register table).2.tables := by
  obtain ⟨e, refused⟩ | ⟨done, -⟩ := register_cases registry table
  · exact ⟨[], by rw [refused, List.append_nil]⟩
  · rw [done]
    exact List.prefix_append ..

/-! ## Any number of registrations -/

/-- A registry stays in step whatever is registered. -/
theorem InStep.registerEach (inStep : registry.InStep) (tables : List Table) :
    (registry.registerEach tables).InStep := by
  induction tables generalizing registry with
  | nil => exact inStep
  | cons table rest ih => exact ih (inStep.register table)

/-- The tables of a registry stay at the front of the list, each as it was. -/
theorem prefix_tables_registerEach (registry : IndexedRegistry) (tables : List Table) :
    registry.tables <+: (registry.registerEach tables).tables := by
  induction tables generalizing registry with
  | nil => exact List.prefix_rfl
  | cons table rest ih => exact (prefix_tables_register registry table).trans (ih _)

/-- What is known of a registry that a program has filled. -/
structure Coherent (registry : IndexedRegistry) : Prop where
  /-- The index has a name at a position exactly if the table there is called so. -/
  indexed : ∀ name position, registry.index.lookup name = some position ↔
    ∃ table, registry.tables[position]? = some table ∧ table.name = name
  /-- A name finds the table of the list that is called so, if there is one. -/
  found : ∀ name table, registry.table? name = some table ↔
    table ∈ registry.tables ∧ table.name = name
  distinct : (registry.tables.map (·.name)).Nodup
  /-- The keys of each table lead to columns of the table itself or of one registered earlier. -/
  keys : ∀ position (table : Table), registry.tables[position]? = some table →
    table.KeysExist (registry.tables.take position)
  /-- A table is registered exactly if its name is new and its keys exist. -/
  accepted : ∀ table, (registry.register table).1 = .ok () ↔
    (∀ other ∈ registry.tables, other.name ≠ table.name) ∧ table.KeysExist registry.tables
  /-- A registration that fails changes nothing. -/
  refused : ∀ table e, (registry.register table).1 = .error e →
    (registry.register table).2 = registry
  /-- A registration that succeeds adds the table at the end, as it was given. -/
  appended : ∀ table, (registry.register table).1 = .ok () →
    (registry.register table).2.tables = registry.tables ++ [table]
  /-- Whatever is registered later, or refused, a name keeps its table. -/
  lasting : ∀ later name table, registry.lookup name = .ok table →
    (registry.registerEach later).lookup name = .ok table

/-- A registry in step is coherent. -/
theorem InStep.coherent (inStep : registry.InStep) : registry.Coherent where
  indexed := inStep.positions
  found := fun _ _ => inStep.table?_eq_some_iff
  distinct := inStep.nodup_names
  keys := inStep.keys
  accepted := inStep.register_eq_ok_iff
  refused := by
    intro table e failed
    obtain ⟨_, refused⟩ | ⟨done, -⟩ := register_cases registry table
    · rw [refused]
    · rw [done] at failed
      cases failed
  appended := by
    intro table succeeded
    obtain ⟨_, refused⟩ | ⟨done, -⟩ := register_cases registry table
    · rw [refused] at succeeded
      cases succeeded
    · rw [done]
      rfl
  lasting := by
    intro later name table found
    obtain ⟨mem, named⟩ := inStep.table?_eq_some_iff.1 (lookup_eq_ok.1 found)
    have kept := (prefix_tables_registerEach registry later).subset mem
    exact lookup_eq_ok.2 ((inStep.registerEach later).table?_eq_some_iff.2 ⟨kept, named⟩)

/-- Whatever tables a program has tried to register, in whatever order and with whatever success,
its registry is coherent. -/
theorem coherent_registerEach (tables : List Table) : (empty.registerEach tables).Coherent :=
  (inStep_empty.registerEach tables).coherent

/-- A table that comes before its target is refused, and so is a second one of its name. -/
example : (empty.registerEach [TradingCompany.product, TradingCompany.supplier,
    TradingCompany.product, TradingCompany.supplier]).tables =
      [TradingCompany.supplier, TradingCompany.product] := by
  rfl

/-! ## The list alone -/

/-- A registry in step finds what its list has under a name. -/
theorem InStep.table?_toRegistry (inStep : registry.InStep) (name : String) :
    registry.toRegistry.table? name = registry.table? name := by
  cases found : registry.toRegistry.table? name with
  | some table => exact (inStep.table?_eq_some_iff.2 (Registry.table?_eq_some found)).symm
  | none =>
    symm
    by_contra there
    obtain ⟨table, indexed⟩ := Option.ne_none_iff_exists'.1 there
    obtain ⟨mem, named⟩ := inStep.table?_eq_some_iff.1 indexed
    have absent := List.find?_eq_none.1 found table mem
    simp [named] at absent

/-- A registry in step registers a table as its list does. -/
theorem InStep.register_toRegistry (inStep : registry.InStep) (table : Table) :
    registry.toRegistry.register table =
      (registry.register table).1.map fun _ => (registry.register table).2.toRegistry := by
  have same : registry.toRegistry.table? = registry.table? := funext inStep.table?_toRegistry
  have known : (registry.table? table.name).isSome = (registry.index.lookup table.name).isSome := by
    rw [Bool.eq_iff_iff, Option.isSome_iff_ne_none, Option.isSome_iff_ne_none, not_iff_not,
      inStep.lookup_eq_none_iff, Option.eq_none_iff_forall_ne_some]
    constructor
    · intro missing other mem named
      exact missing other (inStep.table?_eq_some_iff.2 ⟨mem, named⟩)
    · intro fresh other found
      obtain ⟨mem, named⟩ := inStep.table?_eq_some_iff.1 found
      exact fresh other mem named
  unfold Registry.register IndexedRegistry.register
  rw [same, known]
  split
  · rfl
  · cases table.fault? registry.table? with
    | none => rfl
    | some fault => rfl

end IndexedRegistry

end TypedQuery
