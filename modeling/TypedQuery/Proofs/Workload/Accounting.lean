import TypedQuery.Proofs.Workload.Schedule

/-!
# What the workload accounts for

The workload asks its queries one after another and stops at the first one that fails. What it hands
out is the log of the queries that it has asked, grouped by name (`statistics_eq_grouped`).
-/

namespace TypedQuery.Workload

/-- The queries of the workload in order, if the keys of the tables are known. -/
def schedule (terms : Terms) (known : String → List Value) : List Query :=
  scannedTables.map .fullScan ++
  .keys "customer" ::
    ((known "customer").filterMap (·.text?)).map (fun id => .byId "customer" (.text id)) ++
  terms.customers.map .customerSearch ++
  .keys "employee" :: ((known "employee").filterMap (·.int?)).map .employeeWithManager ++
  .keys "supplier" ::
    ((known "supplier").filterMap (·.int?)).map (fun id => .byId "supplier" (.integer id)) ++
  .keys "product" :: ((known "product").filterMap (·.int?)).map .productWithSupplier ++
  terms.products.map .productSearch ++
  .orderSummary ::
  .keys "order" :: ((known "order").filterMap (·.int?)).map .orderDetails

/-- The queries of the stages. -/
theorem flatMap_stages (terms : Terms) (known : String → List Value) :
    (stages terms).flatMap (·.queries known) = schedule terms known := by
  simp [stages, schedule, Stage.queries]

/-- Each stage reads the keys of its own table. -/
theorem plain_stages (terms : Terms) : ∀ stage ∈ stages terms, stage.Plain := by
  have plain {β : Type} (list : List β) (query : β → Query)
      (other : ∀ b, (query b).keyTable? = none) : ∀ q ∈ list.map query, q.keyTable? = none :=
    List.forall_mem_map.2 fun b _ => other b
  simp only [stages, List.forall_mem_cons]
  exact ⟨plain _ _ fun _ => rfl, fun _ => plain _ _ fun _ => rfl, plain _ _ fun _ => rfl,
    fun _ => plain _ _ fun _ => rfl, fun _ => plain _ _ fun _ => rfl,
    fun _ => plain _ _ fun _ => rfl, plain _ _ fun _ => rfl, by simp [Stage.Plain, Query.keyTable?],
    fun _ => plain _ _ fun _ => rfl, by simp⟩

/-- No two stages read the keys of one table. -/
theorem nodup_tables (terms : Terms) : ((stages terms).filterMap (·.table?)).Nodup := by
  have tables : (stages terms).filterMap (·.table?) =
      ["customer", "employee", "supplier", "product", "order"] := rfl
  rw [tables]
  decide

/-- The workload goes through its schedule. -/
theorem exists_ends (registry : Registry) (terms : Terms) (engine : Engine) :
    ∃ log, Ends registry { engine } (schedule terms (keysIn log)) log
      ((run registry terms).run { engine }) := by
  simp only [run_eq, ← flatMap_stages]
  exact ends_forM_perform (plain_stages terms) (nodup_tables terms) { engine }

/-- The workload asks its queries one after another, each on the engine that the one before it has
left, and no query but these. It stops at the first one that fails, with the error of that query and
the engine right after it. If none fails then all queries of the schedule have been asked, and the
statistics are their log grouped by name. -/
theorem statistics_eq_grouped (registry : Registry) (terms : Terms) (engine : Engine) :
    ∃ (log : List Entry) (middle : Engine) (left : List Query) (calls : List (List Call)),
      Answered registry engine log middle ∧
      schedule terms (keysIn log) = log.map (·.query) ++ left ∧
      ((left = [] ∧ statistics registry terms engine = (.ok (grouped log), middle)) ∨
        ∃ failing rest e after, left = failing :: rest ∧
          failing.answer registry middle = (.error e, after) ∧
          statistics registry terms engine = (.error e, after)) ∧
      (List.Forall₂ (Query.Calls registry) (log.map (·.query) ++ left.head?.toList) calls ∧
        (statistics registry terms engine).2.store.log = engine.store.log ++ calls.flatten) ∧
      ((grouped log).map (·.name)).Nodup ∧ ∀ stats ∈ grouped log, 0 < stats.runs := by
  obtain ⟨log, ends⟩ := exists_ends registry terms engine
  have distinct := nodup_names_grouped log
  have run : ∀ stats ∈ grouped log, 0 < stats.runs := fun _ => runs_pos_of_mem_grouped
  unfold statistics
  generalize (Workload.run registry terms).run { engine } = outcome at ends ⊢
  cases ends with
  | @whole middle answered same =>
    obtain ⟨calls, called, logged⟩ := answered.exists_calls
    refine ⟨log, middle, [], calls, answered, by simpa using same, .inl ⟨rfl, ?_⟩, ⟨?_, logged⟩,
      distinct, run⟩
    · rw [recorded_eq_grouped]
    · simpa using called
  | @stopped middle after failing rest e answered same failed =>
    -- The calls of the query that failed are the last ones.
    obtain ⟨calls, called, logged⟩ := answered.exists_calls
    obtain ⟨last, calledLast, loggedLast⟩ := failing.exists_calls registry middle
    rw [failed, logged] at loggedLast
    refine ⟨log, middle, failing :: rest, calls ++ [last], answered, same,
      .inr ⟨failing, rest, e, after, rfl, failed, rfl⟩, ⟨?_, ?_⟩, distinct, run⟩
    · exact List.rel_append called (.cons calledLast .nil)
    · rw [loggedLast, List.flatten_append, List.flatten_singleton, List.append_assoc]

end TypedQuery.Workload
