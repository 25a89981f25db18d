import TypedQuery.Proofs.Draft.Locality

/-!
# The conditions of a plan

Steps add conditions at the end and never take one back, so the conditions of a plan are the ones
that its steps ask for, in their order (`Plan.forall₂_adds_predicates`). In particular each
condition in the store's language is there as it was given.
-/

namespace TypedQuery

/-- Whether a step asks for a condition. -/
def Step.isCondition : Step → Bool
  | .whereRaw .. | .whereEq .. | .whereContains .. => true
  | _ => false

/-- The conditions that a step may add: the text and values that it gives, or one on a column. -/
inductive Step.Adds : Step → Predicate → Prop
  | raw (fragment : String) (params : List Value) :
      Adds (.whereRaw fragment params) ⟨fragment, params⟩
  | equality (column : String) (value : Value) (ref : ColumnRef) :
      Adds (.whereEq column value) (.equality ref value)
  | search (column term : String) (ref : ColumnRef) :
      Adds (.whereContains column term) (.search ref term)

namespace Draft

namespace Body

variable {body next : Body}

/-- A call on another clause leaves the conditions as they are. -/
theorem Adds.predicates_eq {clause : Clause} {call read : Body → Except QueryError Body}
    (adds : Adds clause call read) (other : clause ≠ .conditions)
    (done : call body = .ok next) : next.predicates = body.predicates := by
  obtain ⟨added, found, -, rfl⟩ := (adds.eq_ok_iff body next).1 done
  rw [add, (adds.within body added found).predicates other, List.append_nil]

/-- A join leaves the conditions as they are. -/
theorem predicates_join {registry : Registry} {kind : JoinKind} {target : TableScope}
    {left right : String} (done : body.join registry kind target left right = .ok next) :
    next.predicates = body.predicates := by
  simp only [Body.join, bind_eq_ok, guard_eq_ok, pure_eq_ok] at done
  obtain ⟨-, -, -, -, -, -, -, -, rfl⟩ := done
  rfl

/-- A condition in the store's language is added as it is given. -/
theorem predicates_whereRaw {fragment : String} {params : List Value}
    (done : body.whereRaw fragment params = .ok next) :
    next.predicates = body.predicates ++ [⟨fragment, params⟩] := by
  unfold whereRaw at done
  obtain ⟨-, done⟩ := guard_eq_ok.1 done
  split at done
  · simp at done
  · simp only [guard_eq_ok, pure_eq_ok] at done
    rw [← done.2]
    rfl

end Body

/-- The conditions of a draft, of which there are none before the primary table. -/
def predicates (draft : Draft) : List Predicate :=
  match draft.body with
  | some body => body.predicates
  | none => []

variable {draft next : Draft}

/-- What a step of the body adds to the conditions it adds to those of the draft. -/
theorem exists_predicates_extend {step : Body → Except QueryError Body}
    {motive : List Predicate → Prop}
    (adds : ∀ body after, step body = .ok after →
      ∃ added, after.predicates = body.predicates ++ added ∧ motive added)
    (done : draft.extend step = .ok next) :
    ∃ added, next.predicates = draft.predicates ++ added ∧ motive added := by
  obtain ⟨body, after, found, result, rfl⟩ := extend_eq_ok done
  simpa only [predicates, found] using adds body after result

/-- A step of the body that leaves the conditions as they are leaves those of the draft. -/
theorem predicates_extend {step : Body → Except QueryError Body}
    (keeps : ∀ body after, step body = .ok after → after.predicates = body.predicates)
    (done : draft.extend step = .ok next) : next.predicates = draft.predicates := by
  obtain ⟨body, after, found, result, rfl⟩ := extend_eq_ok done
  simpa only [predicates, found] using keeps body after result

/-- A step that asks for a condition adds one that it may add, and any other step adds none. -/
theorem exists_predicates_apply {step : Step} (done : draft.apply step = .ok next) :
    ∃ added, next.predicates = draft.predicates ++ added ∧
      List.Forall₂ Step.Adds ([step].filter Step.isCondition) added := by
  -- Most steps add no condition.
  have keeps (same : next.predicates = draft.predicates) (none : step.isCondition = false) :
      ∃ added, next.predicates = draft.predicates ++ added ∧
        List.Forall₂ Step.Adds ([step].filter Step.isCondition) added :=
    ⟨[], by rw [same, List.append_nil], by simp [none]⟩
  cases step with
  | selectFrom spec =>
    simp only [apply, selectFrom, guard_eq_ok, bind_eq_ok, pure_eq_ok] at done
    obtain ⟨unset, parts, -, table, -, rfl⟩ := done
    -- The primary table is chosen once, so there was no condition to lose.
    have unset : draft.body = none := by simpa using unset
    exact keeps (by simp [predicates, unset]) rfl
  | selectColumns specs =>
    have frame := Body.local_foldlM Body.local_selectColumn specs
    exact keeps (predicates_extend
      (fun _ _ selected => frame.predicates_eq (by decide) selected) done) rfl
  | join kind target left right =>
    exact keeps (predicates_extend (fun _ _ joined => Body.predicates_join joined) done) rfl
  | joinSpec kind spec left right =>
    simp only [apply, joinSpec, bind_eq_ok] at done
    obtain ⟨parts, -, joined⟩ := done
    exact keeps (predicates_extend (fun _ _ joined => Body.predicates_join joined) joined) rfl
  | whereRaw fragment params =>
    refine exists_predicates_extend (fun body after added => ?_) done
    exact ⟨_, Body.predicates_whereRaw added, .cons (.raw fragment params) .nil⟩
  | whereEq column value =>
    refine exists_predicates_extend (fun body after added => ?_) done
    simp only [Body.whereEq, bind_eq_ok, pure_eq_ok] at added
    obtain ⟨ref, -, rfl⟩ := added
    exact ⟨_, rfl, .cons (.equality column value ref) .nil⟩
  | whereContains column term =>
    refine exists_predicates_extend (fun body after added => ?_) done
    simp only [Body.whereContains, bind_eq_ok, pure_eq_ok] at added
    obtain ⟨ref, -, rfl⟩ := added
    exact ⟨_, rfl, .cons (.search column term ref) .nil⟩
  | groupBy specs =>
    exact keeps (predicates_extend (fun _ _ grouped =>
      (Body.local_foldlM Body.local_groupColumn specs).predicates_eq (by decide) grouped) done) rfl
  | aggregate kind sources outputAlias =>
    exact keeps (predicates_extend (fun _ _ added =>
      (Body.local_aggregate kind sources outputAlias).predicates_eq (by decide) added) done) rfl
  | aggregateSpec kind spec =>
    obtain ⟨kind, sources, outputAlias, added⟩ := exists_aggregate_of_aggregateSpec done
    exact keeps (predicates_extend (fun _ _ added =>
      (Body.local_aggregate kind sources outputAlias).predicates_eq (by decide) added) added) rfl
  | orderBy target direction =>
    exact keeps (predicates_extend (fun _ _ ordered =>
      (Body.adds_orderRows target direction).predicates_eq (by decide) ordered) done) rfl
  | limit limit =>
    cases done
    exact keeps rfl rfl
  | offset offset =>
    cases done
    exact keeps rfl rfl

/-- A list of steps adds the conditions that its steps ask for, in their order. -/
theorem exists_predicates_of_finish {steps : List Step} {plan : Plan} {draft : Draft}
    {position : Nat} (done : draft.finish position steps = .ok plan) :
    ∃ added, plan.predicates = draft.predicates ++ added ∧
      List.Forall₂ Step.Adds (steps.filter Step.isCondition) added := by
  induction steps generalizing draft position with
  | nil =>
    rw [finish, mapError_eq_ok, build] at done
    split at done
    · simp at done
    · next body found =>
      simp only [bind_eq_ok, guard_eq_ok, pure_eq_ok] at done
      obtain ⟨columns, -, -, rfl⟩ := done
      exact ⟨[], by simp [predicates, found], .nil⟩
  | cons step rest ih =>
    simp only [finish] at done
    split at done
    · next next applied =>
      obtain ⟨first, same, adds⟩ := exists_predicates_apply applied
      obtain ⟨others, same', adds'⟩ := ih done
      refine ⟨first ++ others, by rw [same', same, List.append_assoc], ?_⟩
      rw [← List.singleton_append, List.filter_append]
      exact List.rel_append adds adds'
    · simp at done

end Draft

/-- The conditions of a plan are those that its steps ask for, in their order. -/
theorem Plan.forall₂_adds_predicates {registry : Registry} {steps : List Step} {plan : Plan}
    (built : Plan.ofSteps registry steps = .ok plan) :
    List.Forall₂ Step.Adds (steps.filter Step.isCondition) plan.predicates := by
  obtain ⟨added, same, adds⟩ := Draft.exists_predicates_of_finish built
  rwa [same]

/-- A condition in the store's language is in the plan as it was given. -/
theorem Plan.mem_predicates_of_whereRaw {registry : Registry} {steps : List Step} {plan : Plan}
    (built : Plan.ofSteps registry steps = .ok plan) {fragment : String} {params : List Value}
    (listed : Step.whereRaw fragment params ∈ steps) : ⟨fragment, params⟩ ∈ plan.predicates := by
  have asked : Step.whereRaw fragment params ∈ steps.filter Step.isCondition :=
    List.mem_filter.2 ⟨listed, rfl⟩
  obtain ⟨predicate, mem, adds⟩ :=
    exists_of_forall₂_of_mem (Plan.forall₂_adds_predicates built).flip asked
  cases adds with
  | raw fragment params => exact mem

end TypedQuery
