import TypedQuery.Proofs.Draft.Locality
import TypedQuery.Proofs.Draft.Resolution

/-!
# Calls in either order

Two calls on independent clauses may be made in either order: `Draft.commute_of_independent`. Each
of them adds what it finds and finds it whether or not the other one has been made
(`Draft.Body.CallOn`), and a name is in the way of one after the other just if it is in the way the
other way round. So both orders succeed or neither does, and they lead to the same draft.

Where an alias clashes with the name of a selected column, the later of the two calls is refused for
that name, whichever it is (`Draft.Body.refused_of_clash`).

The order of rows is independent of conditions, groups and the cut alone. Rows can be ordered by a
name of the result only once it is there.
-/

namespace TypedQuery

/-- Two clauses, calls on which do not look at each other. -/
def Clause.Independent (a b : Clause) : Prop :=
  a ≠ b ∧ (a = .order → b ≠ .columns ∧ b ≠ .aggregates) ∧
    (b = .order → a ≠ .columns ∧ a ≠ .aggregates)

instance (a b : Clause) : Decidable (a.Independent b) :=
  inferInstanceAs (Decidable (_ ∧ _))

/-- Independence of clauses goes both ways. -/
theorem Clause.Independent.symm {a b : Clause} (independent : a.Independent b) :
    b.Independent a :=
  ⟨independent.1.symm, independent.2.2, independent.2.1⟩

/-- The alias that a step asks for an aggregate. -/
def Step.outputAlias? : Step → Option String
  | .aggregate _ _ outputAlias => some outputAlias
  | .aggregateSpec _ spec => (ColumnSpec.ofString spec).toOption.bind (·.outputAlias)
  | _ => none

/-- Two steps that may be taken in either order: both orders lead to the same drafts and, within
longer lists of steps, to the same plans and so to the same queries. -/
structure Step.Commute (first second : Step) : Prop where
  drafts : ∀ draft final : Draft, (draft.apply first >>= (·.apply second)) = .ok final ↔
    (draft.apply second >>= (·.apply first)) = .ok final
  plans : ∀ registry before after plan,
    Plan.ofSteps registry (before ++ first :: second :: after) = .ok plan ↔
      Plan.ofSteps registry (before ++ second :: first :: after) = .ok plan

namespace Draft

namespace Body

/-- A call on a clause. It adds what it finds, and it finds the same where choices in clauses have
been added that its own one is independent of. -/
def CallOn (clause : Clause) (call : Body → Except QueryError Body) : Prop :=
  ∃ read, Adds clause call read ∧ ∀ other, clause.Independent other →
    ∀ body added : Body, added.Within other → read (body.add added) = read body

section Calls

variable {a b clause : Clause} {call next : Body → Except QueryError Body}

/-- A local call looks past all choices. -/
theorem Local.callOn (isLocal : Local clause call) : CallOn clause call :=
  ⟨fun body => call body.bare, isLocal, fun _ _ _ _ _ => rfl⟩

/-- The order of rows looks past all choices that the result does not show. -/
theorem callOn_orderRows (target : String) (direction : Direction) :
    CallOn .order (·.orderRows target direction) := by
  refine ⟨_, adds_orderRows target direction, fun other independent body added within => ?_⟩
  obtain ⟨columns, aggregates⟩ := independent.2.1 rfl
  exact orderAsked_add (within.columns columns) (within.aggregates aggregates) _ _

/-- Two calls on independent clauses lead to the same body the other way round. -/
theorem CallOn.exchange (first : CallOn a call) (second : CallOn b next)
    (independent : a.Independent b) {body final : Body} (done : call body >>= next = .ok final) :
    next body >>= call = .ok final := by
  obtain ⟨read, adds, blind⟩ := first
  obtain ⟨read', adds', blind'⟩ := second
  obtain ⟨middle, called, done⟩ := bind_eq_ok.1 done
  obtain ⟨x, found, goes, rfl⟩ := (adds.eq_ok_iff body middle).1 called
  obtain ⟨y, found', goes', rfl⟩ := (adds'.eq_ok_iff _ final).1 done
  have within := adds.within body x found
  have within' := adds'.within _ y found'
  rw [blind' a independent.symm body x within] at found'
  obtain ⟨before, both⟩ := add_compatible.1 goes'
  refine bind_eq_ok.2 ⟨body.add y, (adds'.eq_ok_iff body _).2 ⟨y, found', before, rfl⟩, ?_⟩
  refine (adds.eq_ok_iff _ _).2 ⟨x, ?_, add_compatible.2 ⟨goes, both.symm⟩, ?_⟩
  · rw [blind b independent body y within', found]
  · exact add_right_comm independent.1 within within'

/-- A name that a selected column has and an aggregate asks for is refused to the later one of the
two calls. -/
theorem refused_of_clash (first : Local .columns call) (second : Local .aggregates next)
    {body selected aggregated : Body} {name : String} (selects : call body = .ok selected)
    (aggregates : next body = .ok aggregated) (named : name ∈ selected.outputNames)
    (asked : aggregated.aliases = body.aliases ++ [name]) :
    next selected = .error (.duplicateAlias name) ∧
      call aggregated = .error (.duplicateAlias name) := by
  obtain ⟨x, found, goes, rfl⟩ := (first.eq_ok_iff body selected).1 selects
  obtain ⟨y, found', goes', rfl⟩ := (second.eq_ok_iff body aggregated).1 aggregates
  have unaliased : x.aliases = [] := by
    simp [aliases, (first.within body x found).aggregates (by decide)]
  have only : y.aliases = [name] := by
    rwa [aliases_add, List.append_cancel_left_eq] at asked
  -- The aggregate was taken, so it is one of the new columns that has the name.
  have free : name ∉ body.outputNames := fun mem => goes' name (.inr ⟨mem, by simp [only]⟩)
  have clash : x.Clash y name := by
    rw [outputNames_add, List.mem_append] at named
    exact .inr ⟨named.resolve_left free, by simp [only]⟩
  -- Columns bring no alias, so no other name is in the way.
  have unique {other : String} (taken : x.Clash y other) : other = name := by
    rcases taken with ⟨mem, -⟩ | ⟨-, mem⟩
    · rw [unaliased] at mem
      cases mem
    · rw [only] at mem
      exact List.mem_singleton.1 mem
  constructor
  · obtain ⟨other, taken, refused⟩ := second.refuses (body.add x) y found'
      fun whole => whole name (add_clash.2 (.inr clash))
    rw [unique ((add_clash.1 taken).resolve_left (goes' other))] at refused
    exact refused
  · obtain ⟨other, taken, refused⟩ := first.refuses (body.add y) x found
      fun whole => whole name (add_clash.2 (.inr clash.symm))
    rw [unique ((add_clash.1 taken).resolve_left (goes other)).symm] at refused
    exact refused

end Calls

end Body

/-! ## Steps -/

/-- The names of the selected columns of a draft in the result. -/
def outputNames (draft : Draft) : List String :=
  match draft.body with
  | some body => body.outputNames
  | none => []

/-- The changes of a draft that cut its result. -/
inductive Cut : Clause → (Draft → Draft) → Prop
  | limit (n : UInt64) : Cut .limit (·.withLimit n)
  | offset (n : UInt64) : Cut .offset (·.withOffset n)

section Steps

variable {a b clause : Clause} {draft : Draft} {first second step : Step}

/-- A cut leaves the body as it is. -/
theorem Cut.body_eq {change : Draft → Draft} (cut : Cut clause change) (draft : Draft) :
    (change draft).body = draft.body := by
  cases cut <;> rfl

/-- A cut is the same before and after a step of the body. -/
theorem Cut.extend {change : Draft → Draft} (cut : Cut clause change) (draft : Draft)
    (call : Body → Except QueryError Body) :
    (change draft).extend call = (draft.extend call).map change := by
  cases found : draft.body with
  | none =>
    unfold Draft.extend
    rw [cut.body_eq, found]
    rfl
  | some body =>
    rw [extend_of_body found, extend_of_body ((cut.body_eq draft).trans found)]
    cases call body with
    | error e => rfl
    | ok after => cases cut <;> rfl

/-- A step on a clause cuts the result or is a call on the clause. -/
theorem apply_cases (about : step.clause? = some clause) :
    (∃ change, Cut clause change ∧ ∀ draft : Draft, draft.apply step = .ok (change draft)) ∨
      ∃ call, Body.CallOn clause call ∧
        ∀ draft next : Draft, draft.apply step = .ok next ↔ draft.extend call = .ok next := by
  cases step with
  | selectFrom _ | join _ _ _ _ | joinSpec _ _ _ _ => cases about
  | limit n => cases about; exact .inl ⟨_, .limit n, fun _ => rfl⟩
  | offset n => cases about; exact .inl ⟨_, .offset n, fun _ => rfl⟩
  | selectColumns specs =>
    cases about
    exact .inr ⟨_, (Body.local_foldlM Body.local_selectColumn specs).callOn, fun _ _ => .rfl⟩
  | whereRaw fragment params =>
    cases about
    exact .inr ⟨_, (Body.local_whereRaw fragment params).callOn, fun _ _ => .rfl⟩
  | whereEq column value =>
    cases about
    exact .inr ⟨_, (Body.local_whereEq column value).callOn, fun _ _ => .rfl⟩
  | whereContains column term =>
    cases about
    exact .inr ⟨_, (Body.local_whereContains column term).callOn, fun _ _ => .rfl⟩
  | groupBy specs =>
    cases about
    exact .inr ⟨_, (Body.local_foldlM Body.local_groupColumn specs).callOn, fun _ _ => .rfl⟩
  | aggregate kind sources outputAlias =>
    cases about
    exact .inr ⟨_, (Body.local_aggregate kind sources outputAlias).callOn, fun _ _ => .rfl⟩
  | orderBy target direction =>
    cases about
    exact .inr ⟨_, Body.callOn_orderRows target direction, fun _ _ => .rfl⟩
  | aggregateSpec kind spec =>
    cases about
    rcases aggregateSpec_cases kind spec with ⟨-, kind, sources, name, -, -, same⟩ | ⟨e, refused⟩
    · refine .inr ⟨_, (Body.local_aggregate kind sources name).callOn, fun draft next => ?_⟩
      rw [apply, same]
      rfl
    · -- What is refused in every draft is a call that always fails.
      refine .inr ⟨_, (Body.local_error .aggregates e).callOn, fun draft next => ?_⟩
      rw [apply, refused]
      unfold Draft.extend
      cases draft.body <;> simp [Except.map]

/-- Two calls that lead to the same body the other way round lead to the same draft. -/
theorem extend_exchange {call next : Body → Except QueryError Body}
    (exchange : ∀ body final, call body >>= next = .ok final → next body >>= call = .ok final)
    {final : Draft} (done : (draft.extend call >>= (·.extend next)) = .ok final) :
    (draft.extend next >>= (·.extend call)) = .ok final := by
  obtain ⟨middle, extended, done⟩ := bind_eq_ok.1 done
  obtain ⟨body, after, found, called, rfl⟩ := extend_eq_ok extended
  obtain ⟨after', last, found', called', rfl⟩ := extend_eq_ok done
  rw [Option.some.injEq] at found'
  subst found'
  obtain ⟨other, swapped, swapped'⟩ :=
    bind_eq_ok.1 (exchange body last (bind_eq_ok.2 ⟨after, called, called'⟩))
  refine bind_eq_ok.2 ⟨{ draft with body := some other }, ?_, ?_⟩
  · rw [extend_of_body found, swapped]
    rfl
  · rw [extend_of_body rfl, swapped']
    rfl

/-- Two steps on independent clauses lead to the same draft the other way round. -/
theorem apply_exchange (about : first.clause? = some a) (about' : second.clause? = some b)
    (independent : a.Independent b) (draft final : Draft)
    (done : (draft.apply first >>= (·.apply second)) = .ok final) :
    (draft.apply second >>= (·.apply first)) = .ok final := by
  obtain ⟨middle, applied, done⟩ := bind_eq_ok.1 done
  rcases apply_cases about with ⟨change, cut, changes⟩ | ⟨call, callOn, calls⟩
  · rw [changes, Except.ok.injEq] at applied
    rcases apply_cases about' with ⟨change', cut', changes'⟩ | ⟨call', -, calls'⟩
    · -- Of two different cuts one is a limit and the other an offset.
      rw [changes', Except.ok.injEq] at done
      refine bind_eq_ok.2 ⟨_, changes' draft, ?_⟩
      rw [changes, ← done, ← applied]
      cases cut <;> cases cut' <;> first | rfl | exact absurd rfl independent.1
    · rw [calls', ← applied, cut.extend] at done
      obtain ⟨other, extended, same⟩ := map_eq_ok.1 done
      refine bind_eq_ok.2 ⟨other, (calls' _ _).2 extended, ?_⟩
      rw [changes, same]
  · rcases apply_cases about' with ⟨change, cut, changes⟩ | ⟨call', callOn', calls'⟩
    · rw [changes, Except.ok.injEq] at done
      refine bind_eq_ok.2 ⟨_, changes draft, (calls _ _).2 ?_⟩
      rw [cut.extend, (calls _ _).1 applied]
      exact congrArg Except.ok done
    · -- Only two calls on the body can be in each other's way.
      obtain ⟨other, extended, extended'⟩ := bind_eq_ok.1 (extend_exchange
        (fun _ _ => callOn.exchange callOn' independent)
        (bind_eq_ok.2 ⟨middle, (calls _ _).1 applied, (calls' _ _).1 done⟩))
      exact bind_eq_ok.2 ⟨other, (calls' _ _).2 extended, (calls _ _).2 extended'⟩

/-- Two steps that lead to the same drafts in either order may be exchanged in a list of steps. -/
theorem ofSteps_exchange
    (drafts : ∀ draft final : Draft, (draft.apply first >>= (·.apply second)) = .ok final →
      (draft.apply second >>= (·.apply first)) = .ok final)
    {registry : Registry} {before after : List Step} {plan : Plan}
    (built : Plan.ofSteps registry (before ++ first :: second :: after) = .ok plan) :
    Plan.ofSteps registry (before ++ second :: first :: after) = .ok plan := by
  obtain ⟨final, led, built⟩ := finish_eq_ok.1 built
  refine finish_eq_ok.2 ⟨final, ?_, built⟩
  simp only [List.foldlM_append, List.foldlM_cons, bind_eq_ok] at led ⊢
  obtain ⟨draft, led, middle, applied, next, applied', led'⟩ := led
  obtain ⟨other, swapped, swapped'⟩ := bind_eq_ok.1 (drafts draft next
    (bind_eq_ok.2 ⟨middle, applied, applied'⟩))
  exact ⟨draft, led, other, swapped, next, swapped', led'⟩

/-- A step that asks for an alias and is taken is an aggregate of that alias. -/
theorem exists_aggregate_of_outputAlias? {name : String} {next : Draft}
    (asked : step.outputAlias? = some name) (done : draft.apply step = .ok next) :
    ∃ kind sources, ∀ draft : Draft, draft.apply step = draft.aggregate kind sources name := by
  cases step with
  | aggregate kind sources outputAlias =>
    cases asked
    exact ⟨kind, sources, fun _ => rfl⟩
  | aggregateSpec kind spec =>
    rcases aggregateSpec_cases kind spec with
      ⟨parts, kind, sources, outputAlias, parsed, aliased, same⟩ | ⟨e, refused⟩
    · simp only [Step.outputAlias?, parsed, Except.toOption, Option.bind_some, aliased,
        Option.some.injEq] at asked
      exact ⟨kind, sources, fun draft => asked ▸ same draft⟩
    · rw [apply, refused] at done
      cases done
  | _ => cases asked

/-- An aggregate puts its alias behind those that there are. -/
theorem Body.aliases_aggregate {body next : Body} {kind : AggregateKind} {sources : List String}
    {outputAlias : String} (done : body.aggregate kind sources outputAlias = .ok next) :
    next.aliases = body.aliases ++ [outputAlias] := by
  simp only [Body.aggregate, guard_eq_ok, bind_eq_ok, pure_eq_ok] at done
  obtain ⟨-, -, -, refs, -, rfl⟩ := done
  simp [aliases]

/-- An alias that a selected column has for its name is refused to the later one of the two steps,
where each of them would be taken alone. -/
theorem refused_of_clash {draft selected aggregated : Draft} {name : String}
    (about : first.clause? = some .columns) (asked : second.outputAlias? = some name)
    (selects : draft.apply first = .ok selected) (aggregates : draft.apply second = .ok aggregated)
    (named : name ∈ selected.outputNames) :
    selected.apply second = .error (.duplicateAlias name) ∧
      aggregated.apply first = .error (.duplicateAlias name) := by
  obtain ⟨kind, sources, same⟩ := exists_aggregate_of_outputAlias? asked aggregates
  cases first with
  | selectColumns specs =>
    rw [same] at aggregates
    obtain ⟨body, after, found, called, rfl⟩ := extend_eq_ok selects
    obtain ⟨body', after', found', called', rfl⟩ := extend_eq_ok aggregates
    rw [found, Option.some.injEq] at found'
    subst found'
    obtain ⟨refused, refused'⟩ := Body.refused_of_clash
      (Body.local_foldlM Body.local_selectColumn specs) (Body.local_aggregate kind sources name)
      called called' named (Body.aliases_aggregate called')
    constructor
    · rw [same, aggregate, extend_of_body rfl, refused]
      rfl
    · rw [apply, selectColumns, extend_of_body rfl, refused']
      rfl
  | _ => cases about

/-- Steps on independent clauses may be taken in either order. In particular an alias that clashes
with the name of a selected column is refused as such in both orders. -/
theorem commute_of_independent (about : first.clause? = some a) (about' : second.clause? = some b)
    (independent : a.Independent b) :
    first.Commute second ∧
      (a = .columns → ∀ (draft selected aggregated : Draft) (name : String),
        second.outputAlias? = some name → draft.apply first = .ok selected →
          draft.apply second = .ok aggregated → name ∈ selected.outputNames →
            selected.apply second = .error (.duplicateAlias name) ∧
              aggregated.apply first = .error (.duplicateAlias name)) := by
  have forth := apply_exchange about about' independent
  have back := apply_exchange about' about independent.symm
  refine ⟨⟨fun draft final => ⟨forth draft final, back draft final⟩,
    fun registry before after plan => ⟨ofSteps_exchange forth, ofSteps_exchange back⟩⟩, ?_⟩
  rintro rfl draft selected aggregated name asked selects aggregates named
  exact refused_of_clash about asked selects aggregates named

end Steps

end Draft

namespace Office

/-- The draft of the staff. -/
def loneDraft : Draft := { registry := registry, body := some loneBody }

/-- The names of the staff and their number are selected in either order, unless both are called the
same. -/
theorem commute_loneDraft :
    (Step.selectColumns ["name AS n"]).Commute (.aggregateSpec .count "* AS heads") ∧
      (∃ final, (loneDraft.apply (.aggregateSpec .count "* AS heads") >>=
        (·.apply (.selectColumns ["name AS n"]))) = .ok final) ∧
      (Step.selectColumns ["name AS n"]).Commute (.aggregateSpec .count "* AS n") ∧
      ∃ selected aggregated, loneDraft.apply (.selectColumns ["name AS n"]) = .ok selected ∧
        loneDraft.apply (.aggregateSpec .count "* AS n") = .ok aggregated ∧
        selected.apply (.aggregateSpec .count "* AS n") = .error (.duplicateAlias "n") ∧
        aggregated.apply (.selectColumns ["name AS n"]) = .error (.duplicateAlias "n") := by
  have independent : Clause.columns.Independent .aggregates := by decide
  have selects : (Step.selectColumns ["name AS n"]).clause? = some .columns := rfl
  have counts : (Step.aggregateSpec .count "* AS heads").clause? = some .aggregates := rfl
  have countsAgain : (Step.aggregateSpec .count "* AS n").clause? = some .aggregates := rfl
  obtain ⟨commute, -⟩ := Draft.commute_of_independent selects counts independent
  obtain ⟨commute', refused⟩ := Draft.commute_of_independent selects countsAgain independent
  exact ⟨commute, ⟨_, (commute.drafts loneDraft _).1 rfl⟩, commute', _, _, rfl, rfl,
    refused rfl loneDraft _ _ "n" rfl rfl rfl (List.mem_singleton_self _)⟩

/-- Rows can be ordered by an alias only once it is there. -/
example :
    ((loneDraft.apply (.selectColumns ["name AS n"])).bind
        (·.apply (.orderBy "n" .ascending))).isOk = true ∧
      loneDraft.apply (.orderBy "n" .ascending) = .error (.unknownColumn "e" "n") :=
  ⟨rfl, rfl⟩

end Office

end TypedQuery
