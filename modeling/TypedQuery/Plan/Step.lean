import TypedQuery.Plan.Draft

/-!
# Steps of drafts

The steps that a draft can be taken through, as data. A list of steps either leads to a plan or
fails at one of them, whose position is part of the failure; the position after the last step stands
for the completion of the plan.
-/

namespace TypedQuery

/-- One step of a draft. -/
inductive Step where
  | selectFrom (spec : String)
  | selectColumns (specs : List String)
  | join (kind : JoinKind) (target : TableScope) (left right : String)
  | joinSpec (kind : JoinKind) (spec left right : String)
  | whereRaw (fragment : String) (params : List Value)
  | whereEq (column : String) (value : Value)
  | whereContains (column term : String)
  | groupBy (specs : List String)
  | aggregate (kind : AggregateKind) (sources : List String) (outputAlias : String)
  | aggregateSpec (kind : AggregateKind) (spec : String)
  | orderBy (target : String) (direction : Direction)
  | limit (limit : UInt64)
  | offset (offset : UInt64)

namespace Draft

/-- The draft after a step. -/
def apply (draft : Draft) : Step → Except QueryError Draft
  | .selectFrom spec => draft.selectFrom spec
  | .selectColumns specs => draft.selectColumns specs
  | .join kind target left right => draft.join kind target left right
  | .joinSpec kind spec left right => draft.joinSpec kind spec left right
  | .whereRaw fragment params => draft.whereRaw fragment params
  | .whereEq column value => draft.whereEq column value
  | .whereContains column term => draft.whereContains column term
  | .groupBy specs => draft.groupBy specs
  | .aggregate kind sources outputAlias => draft.aggregate kind sources outputAlias
  | .aggregateSpec kind spec => draft.aggregateSpec kind spec
  | .orderBy target direction => draft.orderBy target direction
  | .limit limit => .ok (draft.withLimit limit)
  | .offset offset => .ok (draft.withOffset offset)

/-- The plan at the end of a list of steps, or the position and the error of the step that fails. -/
def finish (draft : Draft) (position : Nat) : List Step → Except (Nat × QueryError) Plan
  | [] => draft.build.mapError (position, ·)
  | step :: rest =>
    match draft.apply step with
    | .ok draft => draft.finish (position + 1) rest
    | .error e => .error (position, e)

end Draft

/-- The plan that a list of steps leads to. -/
def Plan.ofSteps (registry : Registry) (steps : List Step) : Except (Nat × QueryError) Plan :=
  (Draft.new registry).finish 0 steps

end TypedQuery
