import TypedQuery.Proofs.Draft.Run

/-!
# What a call adds

Calls that choose columns, aggregates, conditions, groups or the order of rows put something at the
end of one list of a body each. What they put there they read off the scopes of the body. So such a
call does to a body what it does to the bare body that has the scopes and nothing else, except where
a name in the result would be that of an aggregate (`Draft.Body.Local`): names of columns may
repeat, but the alias of an aggregate is nobody else's.

A name is in the way of an addition or not whichever of the two is there first
(`Draft.Body.Clash.symm`). This is why a clash is found in whatever order calls are made. Calls that
are made one after another are local if each of them is, so the lists that calls take are run
through by one induction (`Draft.Body.local_foldlM`).

The order of rows alone looks at more than the scopes, namely at the aliases of the result.
-/

namespace TypedQuery

/-- The clauses of a plan that a call can be about. -/
inductive Clause where
  | columns
  | aggregates
  | conditions
  | groups
  | order
  | limit
  | offset
  deriving DecidableEq

/-- The clause that a step is about, unless it brings a table. -/
def Step.clause? : Step → Option Clause
  | .selectColumns _ => some .columns
  | .aggregate .. | .aggregateSpec .. => some .aggregates
  | .whereRaw .. | .whereEq .. | .whereContains .. => some .conditions
  | .groupBy _ => some .groups
  | .orderBy .. => some .order
  | .limit _ => some .limit
  | .offset _ => some .offset
  | .selectFrom _ | .join .. | .joinSpec .. => none

namespace Draft.Body

/-- The body with the scopes of a body and nothing chosen. -/
def bare (body : Body) : Body where
  source := body.source
  sourceTable := body.sourceTable
  joined := body.joined

/-- The body with the choices of another one behind its own. -/
def add (body added : Body) : Body :=
  { body with
    columns := body.columns ++ added.columns
    predicates := body.predicates ++ added.predicates
    groupBy := body.groupBy ++ added.groupBy
    aggregates := body.aggregates ++ added.aggregates
    orderBy := body.orderBy ++ added.orderBy }

/-- The names of the selected columns in the result. -/
def outputNames (body : Body) : List String := body.columns.map (·.outputName)

/-- The names of the aggregates in the result. -/
def aliases (body : Body) : List String := body.aggregates.map (·.outputAlias)

/-- A name in the results of two bodies that is that of an aggregate of one of them. -/
def Clash (body added : Body) (name : String) : Prop :=
  (name ∈ body.aliases ∧ (name ∈ added.outputNames ∨ name ∈ added.aliases)) ∨
    (name ∈ body.outputNames ∧ name ∈ added.aliases)

/-- Two bodies whose results go together. -/
def Compatible (body added : Body) : Prop := ∀ name, ¬body.Clash added name

/-- A body with choices in one clause at most. -/
structure Within (clause : Clause) (body : Body) : Prop where
  columns : clause ≠ .columns → body.columns = []
  predicates : clause ≠ .conditions → body.predicates = []
  groupBy : clause ≠ .groups → body.groupBy = []
  aggregates : clause ≠ .aggregates → body.aggregates = []
  orderBy : clause ≠ .order → body.orderBy = []

variable {body a b : Body} {clause : Clause}

/-- Adding no choice leaves a body as it is. -/
@[simp]
theorem add_bare (body other : Body) : body.add other.bare = body := by
  simp [add, bare]

/-- Choices are added one after another or all at once. -/
theorem add_assoc (body a b : Body) : (body.add a).add b = body.add (a.add b) := by
  simp [add]

/-- Choices in two clauses are added in either order. -/
theorem add_right_comm {other : Clause} (different : clause ≠ other) (first : a.Within clause)
    (second : b.Within other) : (body.add a).add b = (body.add b).add a := by
  -- Of the two additions to a list one is empty.
  have swap {α : Type} {own : Clause} (l : List α) {x y : List α} (hx : clause ≠ own → x = [])
      (hy : other ≠ own → y = []) : l ++ x ++ y = l ++ y ++ x := by
    by_cases here : clause = own
    · rw [hy fun there => different (here.trans there.symm), List.append_nil, List.append_nil]
    · rw [hx here, List.append_nil, List.append_nil]
  simp only [add, mk.injEq, true_and]
  exact ⟨swap _ first.columns second.columns, swap _ first.predicates second.predicates,
    swap _ first.groupBy second.groupBy, swap _ first.aggregates second.aggregates,
    swap _ first.orderBy second.orderBy⟩

/-- Additions have their names behind those that there are. -/
@[simp]
theorem outputNames_add (body added : Body) :
    (body.add added).outputNames = body.outputNames ++ added.outputNames := by
  simp [outputNames, add]

/-- Additions have their aliases behind those that there are. -/
@[simp]
theorem aliases_add (body added : Body) :
    (body.add added).aliases = body.aliases ++ added.aliases := by
  simp [aliases, add]

/-- Whether a name is in the way does not depend on which of two bodies comes first. -/
theorem Clash.symm {name : String} (clash : a.Clash b name) : b.Clash a name := by
  rcases clash with ⟨mem, named | taken⟩ | ⟨named, mem⟩
  · exact .inr ⟨named, mem⟩
  · exact .inl ⟨taken, .inr mem⟩
  · exact .inl ⟨mem, .inl named⟩

/-- What is in the way of two additions is in the way of one of them. -/
theorem clash_add {name : String} :
    body.Clash (a.add b) name ↔ body.Clash a name ∨ body.Clash b name := by
  simp only [Clash, outputNames_add, aliases_add, List.mem_append]
  tauto

/-- What is in the way of a body with an addition is in the way of the body or of the addition. -/
theorem add_clash {name : String} :
    (body.add a).Clash b name ↔ body.Clash b name ∨ a.Clash b name := by
  simp only [Clash, outputNames_add, aliases_add, List.mem_append]
  tauto

/-- Whether two bodies go together does not depend on which of them comes first. -/
theorem Compatible.symm (compatible : a.Compatible b) : b.Compatible a :=
  fun name clash => compatible name clash.symm

/-- A body goes with two additions just if it goes with each of them. -/
theorem compatible_add : body.Compatible (a.add b) ↔ body.Compatible a ∧ body.Compatible b := by
  simp only [Compatible, clash_add, not_or, forall_and]

/-- A body with an addition goes with another one just if both of them do. -/
theorem add_compatible : (body.add a).Compatible b ↔ body.Compatible b ∧ a.Compatible b := by
  simp only [Compatible, add_clash, not_or, forall_and]

/-- A body goes with an addition that the result does not show. -/
theorem compatible_of_nil (body : Body) {added : Body} (columns : added.columns = [])
    (aggregates : added.aggregates = []) : body.Compatible added := by
  intro name clash
  simp [Clash, outputNames, aliases, columns, aggregates] at clash

/-- No choice is within every clause. -/
theorem within_bare (clause : Clause) (body : Body) : body.bare.Within clause :=
  ⟨fun _ => rfl, fun _ => rfl, fun _ => rfl, fun _ => rfl, fun _ => rfl⟩

/-- Two additions within a clause are one addition within it. -/
theorem Within.add (first : a.Within clause) (second : b.Within clause) :
    (a.add b).Within clause where
  columns other := by simp [Body.add, first.columns other, second.columns other]
  predicates other := by simp [Body.add, first.predicates other, second.predicates other]
  groupBy other := by simp [Body.add, first.groupBy other, second.groupBy other]
  aggregates other := by simp [Body.add, first.aggregates other, second.aggregates other]
  orderBy other := by simp [Body.add, first.orderBy other, second.orderBy other]

/-! ## Local calls -/

/-- A call adds what `read` finds to a clause: it succeeds just if there is something to find that
goes together with what is there, and refuses what does not for a name that is in the way. -/
structure Adds (clause : Clause) (call read : Body → Except QueryError Body) : Prop where
  eq_ok_iff : ∀ body next, call body = .ok next ↔
    ∃ added, read body = .ok added ∧ body.Compatible added ∧ next = body.add added
  refuses : ∀ body added, read body = .ok added → ¬body.Compatible added →
    ∃ name, body.Clash added name ∧ call body = .error (.duplicateAlias name)
  within : ∀ body added, read body = .ok added → added.Within clause

/-- A call on a clause that adds to a body what it adds to the bare body. -/
def Local (clause : Clause) (call : Body → Except QueryError Body) : Prop :=
  Adds clause call fun body => call body.bare

section Calls

variable {call next : Body → Except QueryError Body}

/-- A local call leaves the scopes as they are. -/
theorem Local.bare_eq (isLocal : Local clause call) (done : call a = .ok b) : b.bare = a.bare := by
  obtain ⟨added, -, -, rfl⟩ := (isLocal.eq_ok_iff a b).1 done
  rfl

/-- A call that adds one thing unless its name is taken is local. -/
theorem local_write (piece : Body → Body) (taken : Body → Prop) (name : String)
    (clash_iff : ∀ (body : Body) other,
      body.Clash (piece body.bare) other ↔ taken body ∧ other = name)
    (adds : ∀ body : Body, ¬taken body → call body = .ok (body.add (piece body.bare)))
    (refuses : ∀ body : Body, taken body → call body = .error (.duplicateAlias name))
    (alone : ∀ body : Body, call body.bare = .ok (piece body.bare))
    (within : ∀ body : Body, (piece body.bare).Within clause) : Local clause call where
  eq_ok_iff body next := by
    have compatible_iff : body.Compatible (piece body.bare) ↔ ¬taken body := by
      simp [Compatible, clash_iff]
    simp only [alone, Except.ok.injEq, exists_eq_left', compatible_iff]
    by_cases found : taken body
    · simp [refuses body found, found]
    · simp [adds body found, found, eq_comm]
  refuses body added done clash := by
    rw [alone, Except.ok.injEq] at done
    subst done
    simp only [Compatible, clash_iff, not_forall, not_not] at clash
    obtain ⟨other, found, rfl⟩ := clash
    exact ⟨other, (clash_iff body other).2 ⟨found, rfl⟩, refuses body found⟩
  within body added done := by
    rw [alone, Except.ok.injEq] at done
    exact done ▸ within body

/-- A call that adds one thing that the result does not show is local. -/
theorem local_append (piece : Body → Body)
    (unseen : ∀ body : Body, (piece body.bare).columns = [] ∧ (piece body.bare).aggregates = [])
    (adds : ∀ body : Body, call body = .ok (body.add (piece body.bare)))
    (alone : ∀ body : Body, call body.bare = .ok (piece body.bare))
    (within : ∀ body : Body, (piece body.bare).Within clause) : Local clause call := by
  -- There is no name that could be taken.
  refine local_write piece (fun _ => False) "" (fun body other => ?_) (fun body _ => adds body)
    (fun _ taken => taken.elim) alone within
  rw [false_and, iff_false]
  exact body.compatible_of_nil (unseen body).1 (unseen body).2 other

/-- To add nothing is local. -/
theorem local_ok (clause : Clause) : Local clause .ok :=
  local_append id (fun _ => ⟨rfl, rfl⟩) (fun body => congrArg _ (add_bare body body).symm)
    (fun _ => rfl) fun body => within_bare clause body

/-- To refuse is local. -/
theorem local_error (clause : Clause) (e : QueryError) : Local clause fun _ => .error e where
  eq_ok_iff body next := by simp
  refuses body added same := by cases same
  within body added same := by cases same

/-- Two local calls in a row are local. -/
theorem Local.bind (first : Local clause call) (second : Local clause next) :
    Local clause fun body => call body >>= next where
  eq_ok_iff body final := by
    simp only [bind_eq_ok]
    constructor
    · rintro ⟨middle, done, done'⟩
      obtain ⟨x, found, goes, rfl⟩ := (first.eq_ok_iff body middle).1 done
      obtain ⟨y, found', goes', rfl⟩ := (second.eq_ok_iff _ final).1 done'
      obtain ⟨before, both⟩ := add_compatible.1 goes'
      -- The second call finds on top of the first addition what it finds on the bare body.
      refine ⟨x.add y, ⟨x, found, (second.eq_ok_iff x _).2 ⟨y, ?_, both, rfl⟩⟩,
        compatible_add.2 ⟨goes, before⟩, add_assoc body x y⟩
      rw [first.bare_eq found]
      exact found'
    · rintro ⟨whole, ⟨x, found, done⟩, goes, rfl⟩
      obtain ⟨y, found', both, rfl⟩ := (second.eq_ok_iff x whole).1 done
      obtain ⟨goes, goes'⟩ := compatible_add.1 goes
      rw [first.bare_eq found] at found'
      exact ⟨body.add x, (first.eq_ok_iff body _).2 ⟨x, found, goes, rfl⟩,
        (second.eq_ok_iff _ _).2 ⟨y, found', add_compatible.2 ⟨goes', both⟩,
          (add_assoc body x y).symm⟩⟩
  refuses body whole done clash := by
    obtain ⟨x, found, done⟩ := bind_eq_ok.1 done
    obtain ⟨y, found', both, rfl⟩ := (second.eq_ok_iff x whole).1 done
    by_cases goes : body.Compatible x
    · rw [first.bare_eq found] at found'
      obtain ⟨name, taken, refused⟩ := second.refuses (body.add x) y found'
        fun whole => clash (compatible_add.2 ⟨goes, (add_compatible.1 whole).1⟩)
      -- The two additions go together, so the name was there before either of them.
      have before := (add_clash.1 taken).resolve_right (both name)
      refine ⟨name, clash_add.2 (.inr before), ?_⟩
      rw [(first.eq_ok_iff body _).2 ⟨x, found, goes, rfl⟩]
      exact refused
    · obtain ⟨name, taken, refused⟩ := first.refuses body x found goes
      exact ⟨name, clash_add.2 (.inl taken), by rw [refused]; rfl⟩
  within body whole done := by
    obtain ⟨x, found, done⟩ := bind_eq_ok.1 done
    obtain ⟨y, found', -, rfl⟩ := (second.eq_ok_iff x whole).1 done
    exact (first.within body x found).add (second.within x y found')

/-- A call that reads something off the scopes first is local if it is so whatever it has read. -/
theorem local_read {α : Type} (read : Body → Except QueryError α)
    {call : α → Body → Except QueryError Body} (blind : ∀ body, read body.bare = read body)
    (each : ∀ x, Local clause (call x)) : Local clause fun body => read body >>= (call · body) where
  eq_ok_iff body final := by
    simp only [bind_eq_ok, blind]
    constructor
    · rintro ⟨x, found, done⟩
      obtain ⟨added, made, goes, rfl⟩ := ((each x).eq_ok_iff body final).1 done
      exact ⟨added, ⟨x, found, made⟩, goes, rfl⟩
    · rintro ⟨added, ⟨x, found, made⟩, goes, rfl⟩
      exact ⟨x, found, ((each x).eq_ok_iff body _).2 ⟨added, made, goes, rfl⟩⟩
  refuses body added done clash := by
    obtain ⟨x, found, made⟩ := bind_eq_ok.1 done
    obtain ⟨name, taken, refused⟩ := (each x).refuses body added made clash
    rw [blind] at found
    exact ⟨name, taken, by rw [found]; exact refused⟩
  within body added done := by
    obtain ⟨x, -, made⟩ := bind_eq_ok.1 done
    exact (each x).within body added made

/-- A call behind a check that does not look at the body is local if it is so without the check. -/
theorem local_guard {c : Prop} [Decidable c] {e : QueryError}
    {call : Unit → Body → Except QueryError Body} (isLocal : Local clause (call ())) :
    Local clause fun body => if c then throw e >>= (call · body) else call () body := by
  by_cases check : c
  · simp only [check, if_true]
    exact local_error clause e
  · simpa only [check, if_false] using isLocal

/-- A call that does what a local one does, or fails where that one finds nothing, is local. -/
theorem Local.congr (isLocal : Local clause call)
    (same : ∀ body, next body = call body ∨
      (∃ e, next body = .error e) ∧ ∃ e, call body.bare = .error e) :
    Local clause next := by
  have found_iff (body added : Body) : next body.bare = .ok added ↔ call body.bare = .ok added := by
    rcases same body.bare with same | ⟨⟨e, failed⟩, e', lost⟩
    · rw [same]
    · change call body.bare = .error e' at lost
      simp [failed, lost]
  refine ⟨fun body after => ?_, fun body added done => ?_, fun body added done => ?_⟩
  · simp only [found_iff]
    rcases same body with same | ⟨⟨e, failed⟩, e', lost⟩
    · rw [same]
      exact isLocal.eq_ok_iff body after
    · simp [failed, lost]
  · rw [found_iff] at done
    rcases same body with same | ⟨-, e', lost⟩
    · rw [same]
      exact isLocal.refuses body added done
    · rw [lost] at done
      cases done
  · exact isLocal.within body added ((found_iff body added).1 done)

/-- A loop of local calls is local. -/
theorem local_foldlM {α : Type} {call : Body → α → Except QueryError Body}
    (each : ∀ x, Local clause (call · x)) (l : List α) : Local clause (l.foldlM call ·) := by
  induction l with
  | nil =>
    simp only [List.foldlM_nil]
    exact local_ok clause
  | cons x l ih =>
    simp only [List.foldlM_cons]
    exact (each x).bind ih

end Calls

/-! ## The calls -/

/-- A column is added unless it has the name of an aggregate. -/
theorem local_pushColumn (selected : SelectedColumn) : Local .columns (·.pushColumn selected) := by
  refine local_write (fun bare => { bare with columns := [selected] })
    (fun body => selected.outputName ∈ body.aliases) selected.outputName
    (fun body other => ?_) (fun body free => ?_) (fun body taken => ?_) (fun _ => rfl)
    (fun body => by constructor <;> simp [bare])
  · simp only [Clash, outputNames, aliases, bare, List.map_nil, List.map_cons, List.mem_singleton,
      List.not_mem_nil, or_false, and_false]
    exact ⟨fun ⟨mem, same⟩ => ⟨same ▸ mem, same⟩, fun ⟨mem, same⟩ => ⟨same ▸ mem, same⟩⟩
  · have unused : ¬body.aggregates.any (·.outputAlias = selected.outputName) := by
      simpa [aliases] using free
    rw [pushColumn, if_neg unused]
    simp [add, bare]
  · have used : body.aggregates.any (·.outputAlias = selected.outputName) := by
      simpa [aliases] using taken
    rw [pushColumn, if_pos used]

/-- The scope that a wildcard stands for, with its table. -/
def wildcardScope (body : Body) (qualifier : Option String) : Except QueryError (String × Table) :=
  let scope := qualifier.getD body.source.name
  match body.scopeTable? scope with
  | some table => .ok (scope, table)
  | none => .error (.unknownTable scope)

/-- What a text selects is read off the scopes. -/
theorem local_selectColumn (spec : String) : Local .columns (·.selectColumn spec) := by
  unfold selectColumn
  refine local_read _ (fun _ => rfl) fun parts => ?_
  obtain ⟨qualifier, column, outputAlias⟩ := parts
  cases column with
  | named name => exact local_read _ (fun _ => rfl) fun ref => local_pushColumn ⟨ref, outputAlias⟩
  | star =>
    have each (found : String × Table) : Local .columns fun body =>
        found.2.columns.foldlM (fun body column => do
          let ref ← found.2.columnRef found.1 column.name
          body.pushColumn ⟨ref, none⟩) body :=
      local_foldlM (fun column => local_read _ (fun _ => rfl) fun ref =>
        local_pushColumn ⟨ref, none⟩) found.2.columns
    have whole := local_read (wildcardScope · qualifier) (fun _ => rfl) each
    refine local_guard (Eq.mp (congrArg (Local .columns) (funext fun body => ?_)) whole)
    unfold wildcardScope
    dsimp only
    cases body.scopeTable? (qualifier.getD body.source.name) <;> rfl

/-- A condition is added whatever is there. -/
theorem local_pushPredicate (predicate : Predicate) :
    Local .conditions fun body => .ok (body.pushPredicate predicate) :=
  local_append (fun bare => { bare with predicates := [predicate] })
    (fun _ => ⟨rfl, rfl⟩) (fun body => by simp [add, bare, pushPredicate]) (fun _ => rfl)
    fun body => by constructor <;> simp [bare]

/-- What a condition in the store's language needs is not in the body. -/
theorem local_whereRaw (fragment : String) (params : List Value) :
    Local .conditions (·.whereRaw fragment params) := by
  unfold whereRaw
  refine local_guard ?_
  split
  · exact local_error _ _
  · exact local_guard (local_pushPredicate _)

/-- The column of an equality is read off the scopes. -/
theorem local_whereEq (column : String) (value : Value) :
    Local .conditions (·.whereEq column value) :=
  local_read _ (fun _ => rfl) fun _ => local_pushPredicate _

/-- The column of a search is read off the scopes. -/
theorem local_whereContains (column term : String) :
    Local .conditions (·.whereContains column term) :=
  local_read _ (fun _ => rfl) fun _ => local_pushPredicate _

/-- The column of a group is read off the scopes. -/
theorem local_groupColumn (spec : String) : Local .groups (·.groupColumn spec) :=
  local_read _ (fun _ => rfl) fun ref =>
    local_append (fun bare => { bare with groupBy := [ref] })
      (fun _ => ⟨rfl, rfl⟩) (fun body => by simp [add, bare, pure, Except.pure]) (fun _ => rfl)
      fun body => by constructor <;> simp [bare]

/-- Adds an aggregate of resolved columns unless its alias is taken. -/
def pushAggregate (body : Body) (aggregate : Aggregate) : Except QueryError Body :=
  if body.aggregates.any (·.outputAlias = aggregate.outputAlias) ||
      body.columns.any (·.outputName = aggregate.outputAlias) then
    .error (.duplicateAlias aggregate.outputAlias)
  else .ok { body with aggregates := body.aggregates ++ [aggregate] }

/-- An aggregate of resolved columns is added unless its alias is taken. -/
theorem local_pushAggregate (aggregate : Aggregate) :
    Local .aggregates (·.pushAggregate aggregate) := by
  refine local_write (fun bare => { bare with aggregates := [aggregate] })
    (fun body => aggregate.outputAlias ∈ body.aliases ∨ aggregate.outputAlias ∈ body.outputNames)
    aggregate.outputAlias
    (fun body other => ?_) (fun body free => ?_) (fun body taken => ?_) (fun _ => rfl)
    (fun body => by constructor <;> simp [bare])
  · simp only [Clash, outputNames, aliases, bare, List.map_nil, List.map_cons, List.mem_singleton,
      List.not_mem_nil, false_or]
    rw [← or_and_right]
    exact ⟨fun ⟨mem, same⟩ => ⟨same ▸ mem, same⟩, fun ⟨mem, same⟩ => ⟨same ▸ mem, same⟩⟩
  · have unused : ¬(body.aggregates.any (·.outputAlias = aggregate.outputAlias) ||
        body.columns.any (·.outputName = aggregate.outputAlias)) := by
      simpa [aliases, outputNames] using free
    rw [pushAggregate, if_neg unused]
    simp [add, bare]
  · have used : (body.aggregates.any (·.outputAlias = aggregate.outputAlias) ||
        body.columns.any (·.outputName = aggregate.outputAlias)) := by
      simpa [aliases, outputNames] using taken
    rw [pushAggregate, if_pos used]

/-- An aggregate is added unless its alias is taken. -/
theorem local_aggregate (kind : AggregateKind) (sources : List String) (outputAlias : String) :
    Local .aggregates (·.aggregate kind sources outputAlias) := by
  unfold Body.aggregate
  refine local_guard (local_guard ?_)
  -- The alias is checked before the columns are read, but both have to be in order.
  refine Local.congr (local_read (fun body => sources.mapM body.resolvePlain)
    (fun _ => rfl) fun refs => local_pushAggregate ⟨kind, refs, outputAlias⟩) fun body => ?_
  cases read : sources.mapM body.resolvePlain with
  | error e =>
    refine .inr ⟨?_, e, ?_⟩
    · split
      · exact ⟨_, rfl⟩
      · exact ⟨_, rfl⟩
    · change sources.mapM body.resolvePlain >>= _ = _
      rw [read]
      rfl
  | ok refs =>
    left
    simp only [pushAggregate]
    split <;> rfl

/-! ## The order of rows -/

/-- What rows would be ordered by: an alias of the result, or else a column. -/
def orderTarget (body : Body) (target : String) : Except QueryError OrderTarget :=
  if body.aggregates.any (·.outputAlias = target) ||
      body.columns.any (·.outputAlias = some target) then pure (.outputAlias target)
  else OrderTarget.column <$> body.resolvePlain target

/-- A term is put behind those of the order once it is known what it is. -/
theorem orderRows_eq (body : Body) (target : String) (direction : Direction) :
    body.orderRows target direction = body.orderTarget target >>= fun found =>
      .ok { body with orderBy := body.orderBy ++ [⟨found, direction⟩] } := by
  unfold orderRows orderTarget
  dsimp only
  split <;> rfl

/-- The term that rows would be ordered by, on its own. -/
def orderAsked (body : Body) (target : String) (direction : Direction) : Except QueryError Body :=
  (body.orderTarget target).map fun found =>
    { body.bare with orderBy := [⟨found, direction⟩] }

/-- A term of the order is added whatever is there. -/
theorem adds_orderRows (target : String) (direction : Direction) :
    Adds .order (·.orderRows target direction) (·.orderAsked target direction) where
  eq_ok_iff body next := by
    rw [orderRows_eq, orderAsked]
    cases body.orderTarget target with
    | error e => simp [bind_eq_ok, Except.map]
    | ok found =>
      simp only [bind_eq_ok, Except.map, Except.ok.injEq, exists_eq_left']
      rw [and_iff_right (body.compatible_of_nil rfl rfl)]
      simp [add, bare, eq_comm]
  refuses body added done clash := by
    obtain ⟨term, -, rfl⟩ := map_eq_ok.1 done
    exact absurd (body.compatible_of_nil rfl rfl) clash
  within body added done := by
    unfold orderAsked at done
    cases found : body.orderTarget target with
    | error e => simp [found, Except.map] at done
    | ok term =>
      simp only [found, Except.map, Except.ok.injEq] at done
      rw [← done]
      constructor <;> simp [bare]

/-- What rows would be ordered by depends on the scopes and on the aliases in the result. -/
theorem orderAsked_add {body added : Body} (columns : added.columns = [])
    (aggregates : added.aggregates = []) (target : String) (direction : Direction) :
    (body.add added).orderAsked target direction = body.orderAsked target direction := by
  simp only [orderAsked, orderTarget, add, columns, aggregates, List.append_nil]
  rfl

end Draft.Body

end TypedQuery
