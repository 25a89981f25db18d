import TypedQuery.Proofs.Draft.Growth

/-!
# Runs of steps

A list of steps leads to a plan through a list of drafts. Whatever one step keeps, the whole run
keeps (`Draft.exists_final_of_finish`). Every step keeps the body of a draft grown
(`Draft.isGrown_apply`), and the completion of a draft selects default columns by growing it
further. So a plan holds just what some grown body holds, and a cut: `Plan.grown_of_ofSteps`.
-/

namespace TypedQuery

/-- The conditions in the store's language that a list of steps adds. -/
def rawFragments (steps : List Step) (fragment : String) : Prop :=
  ∃ params, Step.whereRaw fragment params ∈ steps

namespace Draft

/-- A draft over a registry whose body, if it has one, is grown. -/
structure IsGrown (registry : Registry) (raw : String → Prop) (draft : Draft) : Prop where
  registry_eq : draft.registry = registry
  body : ∀ body, draft.body = some body → body.Grown registry raw

section Steps

variable {registry : Registry} {raw : String → Prop} {draft next : Draft}

/-- A step that needs the primary table is a step of the body. -/
theorem extend_eq_ok {step : Body → Except QueryError Body} (done : draft.extend step = .ok next) :
    ∃ body after, draft.body = some body ∧ step body = .ok after ∧
      next = { draft with body := some after } := by
  unfold extend at done
  split at done
  · next body found =>
    cases result : step body with
    | error e => simp [result, Except.map] at done
    | ok after =>
      simp only [result, Except.map, Except.ok.injEq] at done
      exact ⟨body, after, found, result, done.symm⟩
  · simp at done

/-- Where there is a primary table, a step of the body is taken on it. -/
theorem extend_of_body {step : Body → Except QueryError Body} {body : Body}
    (found : draft.body = some body) :
    draft.extend step = (step body).map fun after => { draft with body := some after } := by
  rw [extend, found]

/-- A step of the body that keeps bodies grown keeps drafts grown. -/
theorem isGrown_extend {step : Body → Except QueryError Body} (grown : draft.IsGrown registry raw)
    (keeps : ∀ body after, body.Grown registry raw → step body = .ok after →
      after.Grown registry raw)
    (done : draft.extend step = .ok next) : next.IsGrown registry raw := by
  obtain ⟨body, after, found, result, rfl⟩ := extend_eq_ok done
  refine ⟨grown.registry_eq, ?_⟩
  intro other same
  rw [← Option.some.inj same]
  exact keeps body after (grown.body body found) result

/-- The choice of a primary table starts a grown body. -/
theorem isGrown_selectFrom {spec : String} (grown : draft.IsGrown registry raw)
    (done : draft.selectFrom spec = .ok next) : next.IsGrown registry raw := by
  simp only [selectFrom, guard_eq_ok, bind_eq_ok, pure_eq_ok] at done
  obtain ⟨-, parts, -, table, found, rfl⟩ := done
  refine ⟨grown.registry_eq, ?_⟩
  intro body same
  rw [← Option.some.inj same]
  rw [grown.registry_eq, Registry.lookup_eq_ok] at found
  exact .source ⟨parts.table, parts.scopeAlias⟩ table found

/-- A join keeps a draft grown. -/
theorem isGrown_join {kind : JoinKind} {target : TableScope} {left right : String}
    (grown : draft.IsGrown registry raw) (done : draft.join kind target left right = .ok next) :
    next.IsGrown registry raw := by
  refine isGrown_extend grown (fun body after grownBody joined => ?_) done
  rw [grown.registry_eq] at joined
  exact Body.grown_join grownBody joined

/-- An aggregate keeps a draft grown. -/
theorem isGrown_aggregate {kind : AggregateKind} {sources : List String} {outputAlias : String}
    (grown : draft.IsGrown registry raw)
    (done : draft.aggregate kind sources outputAlias = .ok next) : next.IsGrown registry raw :=
  isGrown_extend grown (fun _ _ grown done => Body.grown_aggregate grown done) done

/-- An aggregate that a text names is one of some kind and sources under the alias in the text, or
is refused in every draft. -/
theorem aggregateSpec_cases (kind : AggregateKind) (spec : String) :
    (∃ parts kind' sources outputAlias, ColumnSpec.ofString spec = .ok parts ∧
      parts.outputAlias = some outputAlias ∧ ∀ draft : Draft,
        draft.aggregateSpec kind spec = draft.aggregate kind' sources outputAlias) ∨
      ∃ e, ∀ draft : Draft, draft.aggregateSpec kind spec = .error e := by
  unfold aggregateSpec
  cases parsed : ColumnSpec.ofString spec with
  | error e => exact .inr ⟨e, fun _ => rfl⟩
  | ok parts =>
    obtain ⟨qualifier, column, outputAlias⟩ := parts
    cases outputAlias with
    | none => exact .inr ⟨_, fun _ => rfl⟩
    | some outputAlias =>
      -- A star without a scope is counted; any other text names one column.
      cases column with
      | star =>
        cases qualifier with
        | some scope => exact .inr ⟨_, fun _ => rfl⟩
        | none =>
          by_cases counts : kind = .count
          · exact .inl ⟨_, .countAll, [], outputAlias, rfl, rfl, fun _ => if_pos counts⟩
          · exact .inr ⟨_, fun _ => if_neg counts⟩
      | named name =>
        cases qualifier with
        | some scope => exact .inl ⟨_, kind, _, outputAlias, rfl, rfl, fun _ => rfl⟩
        | none => exact .inl ⟨_, kind, _, outputAlias, rfl, rfl, fun _ => rfl⟩

/-- An aggregate that a text names is an aggregate of some kind, sources and alias. -/
theorem exists_aggregate_of_aggregateSpec {kind : AggregateKind} {spec : String}
    (done : draft.aggregateSpec kind spec = .ok next) :
    ∃ kind sources outputAlias, draft.aggregate kind sources outputAlias = .ok next := by
  rcases aggregateSpec_cases kind spec with ⟨-, _, _, _, -, -, same⟩ | ⟨e, refused⟩
  · exact ⟨_, _, _, (same draft).symm.trans done⟩
  · rw [refused] at done
    cases done

/-- Every step keeps a draft grown, if a condition that it adds in the store's language has the
property that is asked of all of them. -/
theorem isGrown_apply {step : Step} (grown : draft.IsGrown registry raw)
    (given : ∀ fragment params, step = .whereRaw fragment params → raw fragment)
    (done : draft.apply step = .ok next) : next.IsGrown registry raw := by
  cases step with
  | selectFrom spec => exact isGrown_selectFrom grown done
  | selectColumns specs =>
    refine isGrown_extend grown (fun body after grownBody selected => ?_) done
    exact foldlM_induction (motive := fun body => body.Grown registry raw)
      (fun _ _ _ _ grownBody selected => Body.grown_selectColumn grownBody selected)
      grownBody selected
  | join kind target left right => exact isGrown_join grown done
  -- Where a text is read first, what it says is a step of the same kind.
  | joinSpec kind spec left right =>
    simp only [apply, joinSpec, bind_eq_ok] at done
    obtain ⟨parts, -, joined⟩ := done
    exact isGrown_join grown joined
  | whereRaw fragment params =>
    exact isGrown_extend grown
      (fun _ _ grownBody added => Body.grown_whereRaw grownBody (given _ _ rfl) added) done
  | whereEq column value =>
    exact isGrown_extend grown (fun _ _ grownBody added => Body.grown_whereEq grownBody added) done
  | whereContains column term =>
    exact isGrown_extend grown
      (fun _ _ grownBody added => Body.grown_whereContains grownBody added) done
  | groupBy specs =>
    refine isGrown_extend grown (fun body after grownBody grouped => ?_) done
    exact foldlM_induction (motive := fun body => body.Grown registry raw)
      (fun _ _ _ _ grownBody grouped => Body.grown_groupColumn grownBody grouped)
      grownBody grouped
  | aggregate kind sources outputAlias => exact isGrown_aggregate grown done
  | aggregateSpec kind spec =>
    obtain ⟨_, _, _, added⟩ := exists_aggregate_of_aggregateSpec done
    exact isGrown_aggregate grown added
  | orderBy target direction =>
    exact isGrown_extend grown
      (fun _ _ grownBody ordered => Body.grown_orderRows grownBody ordered) done
  | limit limit =>
    cases done
    exact ⟨grown.registry_eq, grown.body⟩
  | offset offset =>
    cases done
    exact ⟨grown.registry_eq, grown.body⟩

end Steps

/-- Steps lead to a plan just if they lead to a draft that can be completed to it. -/
theorem finish_eq_ok {steps : List Step} {draft : Draft} {position : Nat} {plan : Plan} :
    draft.finish position steps = .ok plan ↔
      ∃ final, steps.foldlM Draft.apply draft = .ok final ∧ final.build = .ok plan := by
  induction steps generalizing draft position with
  | nil => simp [finish, mapError_eq_ok, pure_eq_ok]
  | cons step rest ih =>
    rw [finish, List.foldlM_cons]
    cases draft.apply step with
    | error e => simp [bind, Except.bind]
    | ok middle => exact ih

/-- Steps lead to a plan if they lead to a draft that can be completed to it. -/
theorem finish_of_foldlM {steps : List Step} {before draft : Draft} {plan : Plan}
    (led : steps.foldlM Draft.apply before = .ok draft) (built : draft.build = .ok plan)
    (position : Nat) : before.finish position steps = .ok plan :=
  finish_eq_ok.2 ⟨draft, led, built⟩

/-- What every step of a list keeps holds of the draft that the plan is built from. -/
theorem exists_final_of_finish {motive : Draft → Prop} {steps : List Step} {plan : Plan}
    (keeps : ∀ draft, ∀ step ∈ steps, ∀ next, motive draft → draft.apply step = .ok next →
      motive next) {draft : Draft} {position : Nat} (start : motive draft)
    (done : draft.finish position steps = .ok plan) :
    ∃ final, motive final ∧ final.build = .ok plan := by
  obtain ⟨final, led, built⟩ := finish_eq_ok.1 done
  exact ⟨final, foldlM_induction keeps start led, built⟩

/-- What steps lead to is a grown draft. -/
theorem isGrown_of_foldlM {registry : Registry} {steps : List Step} {draft : Draft}
    (led : steps.foldlM Draft.apply (Draft.new registry) = .ok draft) :
    draft.IsGrown registry (rawFragments steps) := by
  refine foldlM_induction (motive := Draft.IsGrown registry (rawFragments steps)) ?_ ?_ led
  · intro before step listed after grown applied
    exact isGrown_apply grown (fun fragment params same => ⟨params, same ▸ listed⟩) applied
  · exact ⟨rfl, fun body impossible => by simp [Draft.new] at impossible⟩

/-! ## Completion -/

namespace Body

/-- The plan that holds what a body holds, with a cut. -/
def toPlan (body : Body) (limit offset : Option UInt64) : Plan where
  source := body.source
  columns := body.columns
  joins := body.joins
  predicates := body.predicates
  groupBy := body.groupBy
  aggregates := body.aggregates
  orderBy := body.orderBy
  limit := limit
  offset := offset

/-- A body without aggregates grows by any list of resolved columns. -/
theorem grown_append_columns {registry : Registry} {raw : String → Prop}
    {columns : List SelectedColumn} {body : Body} (grown : body.Grown registry raw)
    (plain : body.aggregates = [])
    (resolved : ∀ selected ∈ columns, body.Resolves selected.column) :
    Grown registry raw { body with columns := body.columns ++ columns } := by
  induction columns generalizing body with
  | nil => simpa using grown
  | cons selected columns ih =>
    -- There is no aggregate whose alias the name of the column could be.
    have first := grown.column selected (resolved selected List.mem_cons_self) (by simp [plain])
    have rest := ih first plain fun other listed => resolved other (List.mem_cons_of_mem _ listed)
    simpa using rest

/-- The default selection is a growth of the body. -/
theorem grown_finalColumns {registry : Registry} {raw : String → Prop} {body : Body}
    {columns : List SelectedColumn} (grown : body.Grown registry raw)
    (done : body.finalColumns = .ok columns) :
    Grown registry raw { body with columns := columns } := by
  unfold finalColumns at done
  split at done
  · next empty =>
    -- Nothing was selected, so the columns come from the primary table, which is the first scope.
    simp only [Bool.and_eq_true, List.isEmpty_iff] at empty
    have resolved : ∀ selected ∈ columns, body.Resolves selected.column := by
      intro selected listed
      obtain ⟨column, -, made⟩ := exists_of_forall₂_of_mem (forall₂_of_mapM done) listed
      simp only [bind_eq_ok, pure_eq_ok] at made
      obtain ⟨ref, named, rfl⟩ := made
      exact resolves_of_columnRef (List.mem_cons_self ..) named
    simpa [empty.1] using grown_append_columns grown empty.2 resolved
  · rw [Except.ok.injEq] at done
    exact done ▸ grown

end Body

/-- A plan is built from a grown draft only if its aggregates, columns and groups go together, and
it holds what a grown body holds. -/
theorem grown_of_build {registry : Registry} {raw : String → Prop} {draft : Draft} {plan : Plan}
    (grown : draft.IsGrown registry raw) (done : draft.build = .ok plan) :
    (plan.aggregates ≠ [] → plan.columns ≠ [] → plan.groupBy ≠ []) ∧
      ∃ body : Body, body.Grown registry raw ∧ plan = body.toPlan draft.limit draft.offset := by
  unfold build at done
  split at done
  · simp at done
  · next body found =>
    simp only [bind_eq_ok, guard_eq_ok, pure_eq_ok] at done
    obtain ⟨columns, selected, grouped, rfl⟩ := done
    refine ⟨by simpa using grouped, { body with columns := columns }, ?_, rfl⟩
    exact Body.grown_finalColumns (grown.body body found) selected

end Draft

/-- A plan that a list of steps leads to holds what a grown body holds, where the conditions in the
store's language are those of the list. -/
theorem Plan.grown_of_ofSteps {registry : Registry} {steps : List Step} {plan : Plan}
    (built : Plan.ofSteps registry steps = .ok plan) :
    (plan.aggregates ≠ [] → plan.columns ≠ [] → plan.groupBy ≠ []) ∧
      ∃ (body : Draft.Body) (limit offset : Option UInt64),
        body.Grown registry (rawFragments steps) ∧ plan = body.toPlan limit offset := by
  obtain ⟨final, grown, done⟩ := Draft.exists_final_of_finish
    (motive := Draft.IsGrown registry (rawFragments steps))
    (fun draft step listed next grown applied =>
      Draft.isGrown_apply grown (fun fragment params same => ⟨params, same ▸ listed⟩) applied)
    ⟨rfl, fun body impossible => by simp [Draft.new] at impossible⟩ built
  obtain ⟨grouped, body, grownBody, same⟩ := Draft.grown_of_build grown done
  exact ⟨grouped, body, final.limit, final.offset, grownBody, same⟩

end TypedQuery
