import TypedQuery.Plan.Step
import TypedQuery.Proofs.Outcome

/-!
# How drafts grow

A step of a draft reads texts, but what it does in the end is one of a few things: it adds a column,
a join, a condition, a group, an aggregate or a term of the order, with every name in it resolved.
`Draft.Body.Grown` is the closure of these additions, each under the conditions that the step has
checked, and `Plan.grown_of_ofSteps` says that every plan is a grown body with a cut. An invariant
of plans is then one induction over `Grown`, in which no text is read any more.

Conditions in the store's language are the only texts that a plan takes over as they are. `Grown`
is indexed by a property `raw` that all of them have, so that an invariant may rest on it.
-/

namespace TypedQuery

/-- The reference to a column carries the first column of the name, under its own name. -/
theorem Table.columnRef_eq_ok {table : Table} {scope name : String} {ref : ColumnRef} :
    table.columnRef scope name = .ok ref ↔ ∃ column, table.column? name = some column ∧
      ref = ⟨scope, table.name, name, column.dataType, column.nullable⟩ := by
  unfold Table.columnRef
  cases found : table.column? name with
  | none => simp
  | some column =>
    obtain ⟨-, named⟩ := Table.column?_eq_some found
    simp [named, eq_comm]

/-- The condition that a column equals a value. -/
def Predicate.equality (ref : ColumnRef) (value : Value) : Predicate :=
  ⟨String.ofList (ref.chars ++ [' ', '=', ' ', '?']), [value]⟩

/-- The condition that a column contains a term, capitals or not. -/
def Predicate.search (ref : ColumnRef) (term : String) : Predicate :=
  ⟨String.ofList ("LOWER(".toList ++ ref.chars ++ ") LIKE ? ESCAPE '\\'".toList),
    [.text (Text.containsPattern (Text.lowerCase term))]⟩

/-- The text of an equality is the column and the placeholder of the value. -/
theorem Predicate.toList_text_equality (ref : ColumnRef) (value : Value) :
    (equality ref value).text.toList = ref.chars ++ [' ', '=', ' ', '?'] :=
  String.toList_ofList

/-- The text of a search is the column between two words, of which the second has the placeholder of
the pattern. -/
theorem Predicate.toList_text_search (ref : ColumnRef) (term : String) :
    (search ref term).text.toList =
      "LOWER(".toList ++ ref.chars ++ ") LIKE ? ESCAPE '\\'".toList :=
  String.toList_ofList

namespace Draft.Body

/-- A reference as a body resolves it: its scope is one of the body's, and it carries the first
column of its name in the table of that scope. -/
def Resolves (body : Body) (ref : ColumnRef) : Prop :=
  ∃ table, (ref.scope, table) ∈ body.scopes ∧ table.columnRef ref.scope ref.column = .ok ref

/-- The conditions that a body takes: one in the store's language that passes the three checks of
its text, or one on a column that the body resolves. -/
inductive Takes (raw : String → Prop) (body : Body) : Predicate → Prop
  | raw (fragment : String) (params : List Value) (given : raw fragment)
      (worded : Text.isBlankText fragment = false)
      (unnamed : Text.numberedOrNamed? fragment = none)
      (counted : Text.placeholderCount fragment = params.length) :
      Takes raw body ⟨fragment, params⟩
  | equality (ref : ColumnRef) (value : Value) (resolved : body.Resolves ref) :
      Takes raw body (.equality ref value)
  | search (ref : ColumnRef) (term : String) (resolved : body.Resolves ref) :
      Takes raw body (.search ref term)

/-- What the rows of a body may be ordered by: an alias in its result, or a column that it
resolves. -/
inductive Orders (body : Body) : OrderTarget → Prop
  | outputAlias (name : String)
      (selected : (∃ aggregate ∈ body.aggregates, aggregate.outputAlias = name) ∨
        ∃ selected ∈ body.columns, selected.outputAlias = some name) :
      Orders body (.outputAlias name)
  | column (ref : ColumnRef) (resolved : body.Resolves ref) : Orders body (.column ref)

/-- A body with one more join and the scope that the join brings. -/
def joining (body : Body) (join : Join) (table : Table) : Body :=
  { body with joined := body.joined ++ [(join.target.name, table)], joins := body.joins ++ [join] }

/-- The bodies that additions lead to from a registered primary table, where every condition in the
store's language has the property `raw`. -/
inductive Grown (registry : Registry) (raw : String → Prop) : Body → Prop
  | source (scope : TableScope) (table : Table)
      (registered : registry.table? scope.table = some table) :
      Grown registry raw { source := scope, sourceTable := table }
  | column {body : Body} (grown : Grown registry raw body) (selected : SelectedColumn)
      (resolved : body.Resolves selected.column)
      (free : ∀ aggregate ∈ body.aggregates, aggregate.outputAlias ≠ selected.outputName) :
      Grown registry raw { body with columns := body.columns ++ [selected] }
  | join {body : Body} (grown : Grown registry raw body) (join : Join) (table : Table)
      (registered : registry.table? join.target.table = some table)
      (fresh : ∀ entry ∈ body.scopes, entry.1 ≠ join.target.name)
      (left : (body.joining join table).Resolves join.left)
      (right : (body.joining join table).Resolves join.right)
      (related : ¬(join.left.scope = join.target.name ↔ join.right.scope = join.target.name)) :
      Grown registry raw (body.joining join table)
  | predicate {body : Body} (grown : Grown registry raw body) (predicate : Predicate)
      (taken : body.Takes raw predicate) : Grown registry raw (body.pushPredicate predicate)
  | group {body : Body} (grown : Grown registry raw body) (ref : ColumnRef)
      (resolved : body.Resolves ref) :
      Grown registry raw { body with groupBy := body.groupBy ++ [ref] }
  | aggregate {body : Body} (grown : Grown registry raw body) (aggregate : Aggregate)
      (arity : aggregate.sources.length = aggregate.kind.arity)
      (worded : Text.isBlankText aggregate.outputAlias = false)
      (resolved : ∀ ref ∈ aggregate.sources, body.Resolves ref)
      (unique : ∀ other ∈ body.aggregates, other.outputAlias ≠ aggregate.outputAlias)
      (free : ∀ selected ∈ body.columns, selected.outputName ≠ aggregate.outputAlias) :
      Grown registry raw { body with aggregates := body.aggregates ++ [aggregate] }
  | order {body : Body} (grown : Grown registry raw body) (term : OrderTerm)
      (ordered : body.Orders term.target) :
      Grown registry raw { body with orderBy := body.orderBy ++ [term] }

/-- A join brings its target as the last scope. -/
theorem scopes_joining (body : Body) (join : Join) (table : Table) :
    (body.joining join table).scopes = body.scopes ++ [(join.target.name, table)] :=
  rfl

/-- What a body resolves it resolves after a join as well. -/
theorem Resolves.joining {body : Body} {ref : ColumnRef} (resolved : body.Resolves ref)
    (join : Join) (table : Table) : (body.joining join table).Resolves ref := by
  obtain ⟨found, listed, described⟩ := resolved
  refine ⟨found, ?_, described⟩
  rw [scopes_joining]
  exact List.mem_append_left _ listed

/-- A condition that a body takes is taken by every body that resolves as much. -/
theorem Takes.mono {raw : String → Prop} {body next : Body} {predicate : Predicate}
    (taken : body.Takes raw predicate) (more : ∀ ref, body.Resolves ref → next.Resolves ref) :
    next.Takes raw predicate := by
  cases taken with
  | raw fragment params given worded unnamed counted =>
    exact .raw fragment params given worded unnamed counted
  | equality ref value resolved => exact .equality ref value (more ref resolved)
  | search ref term resolved => exact .search ref term (more ref resolved)

/-- Every condition of a grown body is one that the body takes. -/
theorem takes_of_mem_predicates {registry : Registry} {raw : String → Prop} {body : Body}
    (grown : body.Grown registry raw) :
    ∀ predicate ∈ body.predicates, body.Takes raw predicate := by
  induction grown with
  | source scope table registered => simp
  -- Only a join changes the scopes, and it keeps those that there are.
  | join _ join table _ _ _ _ _ ih =>
    exact fun predicate mem => (ih predicate mem).mono fun _ resolved => resolved.joining join table
  | predicate _ predicate taken ih =>
    intro other mem
    rcases List.mem_append.1 mem with before | last
    · exact (ih other before).mono fun _ resolved => resolved
    · rw [List.mem_singleton.1 last]
      exact taken.mono fun _ resolved => resolved
  | column _ _ _ _ ih => exact fun predicate mem => (ih predicate mem).mono fun _ h => h
  | group _ _ _ ih => exact fun predicate mem => (ih predicate mem).mono fun _ h => h
  | aggregate _ _ _ _ _ _ _ ih => exact fun predicate mem => (ih predicate mem).mono fun _ h => h
  | order _ _ _ ih => exact fun predicate mem => (ih predicate mem).mono fun _ h => h

/-! ## Resolving names -/

/-- The table found for a scope is listed with it. -/
theorem mem_scopes_of_scopeTable? {body : Body} {scope : String} {table : Table}
    (found : body.scopeTable? scope = some table) : (scope, table) ∈ body.scopes := by
  unfold scopeTable? at found
  obtain ⟨entry, first, rfl⟩ := Option.map_eq_some_iff.1 found
  have named : entry.1 = scope := by simpa using List.find?_some first
  exact named ▸ List.mem_of_find?_eq_some first

/-- No table is found for a scope only if no scope has the name. -/
theorem ne_of_scopeTable?_eq_none {body : Body} {scope : String}
    (missing : ¬(body.scopeTable? scope).isSome) : ∀ entry ∈ body.scopes, entry.1 ≠ scope := by
  intro entry listed same
  refine missing ?_
  simp only [scopeTable?, Option.isSome_map, List.find?_isSome, decide_eq_true_eq]
  exact ⟨entry, listed, same⟩

/-- A reference to a column of a listed scope is one that the body resolves. -/
theorem resolves_of_columnRef {body : Body} {scope name : String} {table : Table}
    {ref : ColumnRef} (listed : (scope, table) ∈ body.scopes)
    (done : table.columnRef scope name = .ok ref) : body.Resolves ref := by
  obtain ⟨column, found, rfl⟩ := Table.columnRef_eq_ok.1 done
  exact ⟨table, listed, done⟩

/-- What a name with or without a scope is resolved to is a reference of the body. -/
theorem resolves_of_resolve {body : Body} {qualifier : Option String} {name : String}
    {ref : ColumnRef} (done : body.resolve qualifier name = .ok ref) : body.Resolves ref := by
  unfold resolve at done
  split at done
  · split at done
    · next found => exact resolves_of_columnRef (mem_scopes_of_scopeTable? found) done
    · simp at done
  · split at done
    · simp at done
    · next scope table only =>
      -- Without a scope, the column is in the one scope that has the name.
      have listed : (scope, table) ∈ body.scopes := by
        refine List.mem_of_mem_filter (p := fun entry => entry.2.hasColumn name) ?_
        rw [only]
        exact List.mem_singleton_self _
      exact resolves_of_columnRef listed done
    · simp at done

/-- What a text is resolved to is a reference of the body. -/
theorem resolves_of_resolvePlain {body : Body} {spec : String} {ref : ColumnRef}
    (done : body.resolvePlain spec = .ok ref) : body.Resolves ref := by
  unfold resolvePlain at done
  rw [bind_eq_ok] at done
  obtain ⟨parts, -, done⟩ := done
  split at done
  · exact resolves_of_resolve done
  · simp at done

/-! ## One step -/

section Steps

variable {registry : Registry} {raw : String → Prop} {body next : Body}

/-- Adding a resolved column to the result is a growth. -/
theorem grown_pushColumn (grown : body.Grown registry raw) {selected : SelectedColumn}
    (resolved : body.Resolves selected.column) (done : body.pushColumn selected = .ok next) :
    next.Grown registry raw := by
  unfold pushColumn at done
  split at done
  · simp at done
  · next free =>
    rw [Except.ok.injEq] at done
    exact done ▸ grown.column selected resolved (by simpa using free)

/-- Adding the columns that one text names is a growth. -/
theorem grown_selectColumn (grown : body.Grown registry raw) {spec : String}
    (done : body.selectColumn spec = .ok next) : next.Grown registry raw := by
  simp only [selectColumn, bind_eq_ok] at done
  obtain ⟨parts, -, done⟩ := done
  split at done
  · obtain ⟨-, done⟩ := guard_eq_ok.1 done
    split at done
    · next table found =>
      -- The columns are pushed onto bodies that have the scopes of the first one.
      have kept := foldlM_induction
        (motive := fun middle => middle.scopes = body.scopes ∧ middle.Grown registry raw)
        (fun middle column _ after ⟨same, grown⟩ pushed => by
          obtain ⟨ref, named, pushed⟩ := bind_eq_ok.1 pushed
          have listed := same ▸ mem_scopes_of_scopeTable? found
          refine ⟨?_, grown_pushColumn grown (resolves_of_columnRef listed named) pushed⟩
          unfold pushColumn at pushed
          split at pushed
          · simp at pushed
          · rw [Except.ok.injEq] at pushed
            exact pushed ▸ same) ⟨rfl, grown⟩ done
      exact kept.2
    · simp at done
  · obtain ⟨ref, resolved, pushed⟩ := bind_eq_ok.1 done
    exact grown_pushColumn grown (resolves_of_resolve resolved) pushed

/-- Joining a table is a growth. -/
theorem grown_join (grown : body.Grown registry raw) {kind : JoinKind} {target : TableScope}
    {left right : String} (done : body.join registry kind target left right = .ok next) :
    next.Grown registry raw := by
  simp only [Body.join, bind_eq_ok, guard_eq_ok, pure_eq_ok] at done
  obtain ⟨table, found, fresh, left, leftDone, right, rightDone, related, rfl⟩ := done
  -- The sides were resolved after the target had come, so they may be in it.
  refine grown.join ⟨kind, target, left, right⟩ table (Registry.lookup_eq_ok.1 found)
    (ne_of_scopeTable?_eq_none fresh) ?_ ?_ ?_
  · exact resolves_of_resolvePlain leftDone
  · exact resolves_of_resolvePlain rightDone
  · simpa [decide_eq_decide] using related

/-- Adding a condition in the store's language is a growth, if the text has the property that is
asked of all of them. -/
theorem grown_whereRaw (grown : body.Grown registry raw) {fragment : String} {params : List Value}
    (given : raw fragment) (done : body.whereRaw fragment params = .ok next) :
    next.Grown registry raw := by
  unfold whereRaw at done
  obtain ⟨worded, done⟩ := guard_eq_ok.1 done
  split at done
  · simp at done
  · next unnamed =>
    simp only [guard_eq_ok, pure_eq_ok] at done
    obtain ⟨counted, rfl⟩ := done
    exact grown.predicate _
      (.raw _ _ given (by simpa using worded) unnamed (by simpa using counted))

/-- Adding an equality is a growth. -/
theorem grown_whereEq (grown : body.Grown registry raw) {column : String} {value : Value}
    (done : body.whereEq column value = .ok next) : next.Grown registry raw := by
  simp only [whereEq, bind_eq_ok, pure_eq_ok] at done
  obtain ⟨ref, resolved, rfl⟩ := done
  exact grown.predicate _ (.equality ref value (resolves_of_resolvePlain resolved))

/-- Adding a search is a growth. -/
theorem grown_whereContains (grown : body.Grown registry raw) {column term : String}
    (done : body.whereContains column term = .ok next) : next.Grown registry raw := by
  simp only [whereContains, bind_eq_ok, pure_eq_ok] at done
  obtain ⟨ref, resolved, rfl⟩ := done
  exact grown.predicate _ (.search ref term (resolves_of_resolvePlain resolved))

/-- Grouping by a column is a growth. -/
theorem grown_groupColumn (grown : body.Grown registry raw) {spec : String}
    (done : body.groupColumn spec = .ok next) : next.Grown registry raw := by
  simp only [groupColumn, bind_eq_ok, pure_eq_ok] at done
  obtain ⟨ref, resolved, rfl⟩ := done
  exact grown.group ref (resolves_of_resolvePlain resolved)

/-- Adding an aggregate is a growth. -/
theorem grown_aggregate (grown : body.Grown registry raw) {kind : AggregateKind}
    {sources : List String} {outputAlias : String}
    (done : body.aggregate kind sources outputAlias = .ok next) : next.Grown registry raw := by
  simp only [Body.aggregate, guard_eq_ok, bind_eq_ok, pure_eq_ok] at done
  obtain ⟨arity, worded, free, refs, resolved, rfl⟩ := done
  -- The one check of the alias is about aggregates and about selected columns.
  simp only [Bool.or_eq_true, List.any_eq_true, decide_eq_true_eq, not_or, not_exists,
    not_and] at free
  refine grown.aggregate ⟨kind, refs, outputAlias⟩ ?_ (by simpa using worded) ?_ free.1 free.2
  · rw [← (forall₂_of_mapM resolved).length_eq]
    simpa using arity
  · intro ref listed
    obtain ⟨spec, -, done⟩ := exists_of_forall₂_of_mem (forall₂_of_mapM resolved) listed
    exact resolves_of_resolvePlain done

/-- Ordering the rows is a growth. -/
theorem grown_orderRows (grown : body.Grown registry raw) {target : String} {direction : Direction}
    (done : body.orderRows target direction = .ok next) : next.Grown registry raw := by
  simp only [orderRows] at done
  split at done
  · next isAlias =>
    -- An alias of the result is taken as such, even if a column has the name.
    simp only [bind_eq_ok, pure_eq_ok, exists_eq_left'] at done
    rw [← done]
    refine grown.order ⟨.outputAlias target, direction⟩ (.outputAlias _ ?_)
    simpa [or_comm] using isAlias
  · simp only [bind_eq_ok, map_eq_ok, pure_eq_ok] at done
    obtain ⟨-, ⟨ref, resolved, rfl⟩, rfl⟩ := done
    exact grown.order ⟨.column ref, direction⟩ (.column ref (resolves_of_resolvePlain resolved))

end Steps

end Draft.Body

end TypedQuery
