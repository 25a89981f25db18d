import TypedQuery.Proofs.Engine.Rest

/-!
# Answers depend on the store alone

What opening a stream comes to, what each call of `next` returns and what collecting all rows comes
to are read off the response of the store (`Response.opens`, `Response.result`, `Response.all`).
Neither the length of the queue nor the order of the steps has a part in it, and once nothing
happens by itself any more the answers are there.
-/

namespace TypedQuery

/-- What opening a stream on a query that gives a response comes to. -/
def Response.opens (response : Response) : Except QueryError Unit :=
  if response.rows = [] then response.ending.result else .ok ()

/-- What collecting all rows of a query that gives a response comes to. -/
def Response.all (response : Response) (columns : List OutputColumn) :
    Except QueryError (List Row) :=
  response.ending.result.map fun _ => response.rows.map (Row.ofRaw columns)

namespace Response

variable {response : Response} {columns : List OutputColumn} {k : Nat}

/-- The first result is an error when the stream cannot be opened, and that error. -/
theorem result_zero_eq_error {e : QueryError} :
    response.result columns 0 = .error e ↔ response.opens = .error e := by
  unfold result opens
  cases rows : response.rows with
  | nil => cases response.ending <;> simp [Ending.result, Except.map]
  | cons row rest => simp

/-- A stream cannot be opened when there is no row and the query does not succeed. -/
theorem opens_eq_ok :
    response.opens = .ok () ↔ ¬(response.rows = [] ∧ response.ending ≠ .success) := by
  unfold opens
  cases response.ending <;> simp [Ending.result]

/-- If the stream cannot be opened, collecting all rows comes to the same error. -/
theorem all_of_opens {e : QueryError} (failed : response.opens = .error e) :
    response.all columns = .error e := by
  unfold opens at failed
  split at failed
  · rw [all, failed]
    rfl
  · simp at failed

/-- A row is the result of a call exactly when the query gave that row. -/
theorem result_eq_row {row : Row} :
    response.result columns k = .ok (some row) ↔
      (response.rows.map (Row.ofRaw columns))[k]? = some row := by
  unfold result
  rw [List.getElem?_map]
  cases response.rows[k]? with
  | some raw => simp
  | none =>
    by_cases last : k = response.rows.length
    · cases response.ending <;> simp [last, Ending.result, Except.map]
    · simp [last]

/-- There are as many results with a row as there are rows. -/
theorem exists_result_eq_row :
    (∃ row, response.result columns k = .ok (some row)) ↔ k < response.rows.length := by
  simp only [result_eq_row, List.getElem?_map]
  rw [← Option.isSome_iff_exists, Option.isSome_map, ← Option.ne_none_iff_isSome, ne_eq,
    List.getElem?_eq_none_iff, Nat.not_le]

/-- After the rows come the end of the query and then nothing. -/
theorem result_of_length_le (beyond : response.rows.length ≤ k) :
    response.result columns k =
      if k = response.rows.length then response.ending.result.map fun _ => none else .ok none := by
  simp [result, List.getElem?_eq_none beyond]

/-- Rows one by one, and then something else, are all that a query gave. -/
theorem all_of_results {rows : List Row} {last : Except QueryError (Option Row)}
    {given : List (Except QueryError (Option Row))}
    (ends : ∀ row, last ≠ .ok (some row))
    (form : given = (rows.map fun row => .ok (some row)) ++ [last])
    (results : ∀ k (h : k < given.length), given[k] = response.result columns k) :
    rows = response.rows.map (Row.ofRaw columns) ∧
      last = response.ending.result.map fun _ => none := by
  subst form
  have row (k : Nat) (h : k < rows.length) :
      (response.rows.map (Row.ofRaw columns))[k]? = some rows[k] := by
    rw [← result_eq_row, ← results k (by simp; omega),
      List.getElem_append_left (by simpa using h)]
    simp
  have end_eq : last = response.result columns rows.length := by
    rw [← results rows.length (by simp), List.getElem_append_right (by simp)]
    simp
  -- the last result is no row, so the query has no row with its number
  have beyond : response.rows.length ≤ rows.length := by
    by_contra more
    have within : rows.length < response.rows.length := Nat.lt_of_not_le more
    have here : (response.rows.map (Row.ofRaw columns))[rows.length]? =
        some (Row.ofRaw columns response.rows[rows.length]) := by
      simp [within]
    exact ends _ (end_eq.trans (result_eq_row.2 here))
  have length_eq : rows.length = response.rows.length := by
    refine Nat.le_antisymm (Nat.le_of_not_lt fun longer => ?_) beyond
    have := row response.rows.length longer
    simp at this
  constructor
  · refine List.ext_getElem? fun k => ?_
    rcases Nat.lt_or_ge k rows.length with within | after
    · rw [row k within, List.getElem?_eq_getElem within]
    · rw [List.getElem?_eq_none after, List.getElem?_eq_none (by simpa [← length_eq] using after)]
  · rw [end_eq, result_of_length_le beyond, if_pos length_eq]

end Response

namespace Reading

/-- What opening the stream came to, once that is known to the caller. -/
def opening? (reading : Reading) : Option (Except QueryError Unit) :=
  match reading.reader with
  | .opening => none
  | .refused e => some (.error e)
  | .idle | .collecting _ | .looking | .closing _ | .done _ => some (.ok ())

/-- What a caller that wants all rows was answered, once it was. -/
def collected? (reading : Reading) : Option (Except QueryError (List Row)) :=
  match reading.reader with
  | .refused e | .done (.error e) => some (.error e)
  | .done (.ok (.rows rows)) => some (.ok rows)
  | .done (.ok (.row _)) | .done (.ok .closed) | .done (.ok .dropped) | .opening | .idle
  | .collecting _ | .looking | .closing _ => none

variable {reading : Reading}

/-- What opening the stream came to is what the response says. -/
theorem Sound.opening_eq (sound : reading.Sound) {result : Except QueryError Unit}
    (known : reading.opening? = some result) : result = reading.response.opens := by
  have opens := sound.opens
  have opened (fine : ∀ e, reading.result 0 ≠ .error e) : reading.response.opens = .ok () := by
    cases same : reading.response.opens with
    | ok _ => rfl
    | error e => exact absurd (Response.result_zero_eq_error.2 same) (fine e)
  unfold opening? at known
  unfold Opens at opens
  cases reader : reading.reader <;>
    simp only [reader, Option.some.injEq, reduceCtorEq] at known opens
  · exact known ▸ (Response.result_zero_eq_error.1 opens).symm
  all_goals exact known ▸ (opened opens).symm

/-- A caller that wanted all rows was answered what the response says. -/
theorem Sound.collected_eq (sound : reading.Sound) (purpose : reading.purpose = .allRows)
    {answer : Except QueryError (List Row)} (known : reading.collected? = some answer) :
    answer = reading.response.all reading.stream.columns := by
  have accords := sound.accords
  unfold collected? at known
  cases reader : reading.reader with
  | refused e =>
    simp only [reader, Option.some.injEq] at known
    have failed : reading.response.opens = .error e :=
      (sound.opening_eq (by simp [opening?, reader])).symm
    rw [← known, Response.all_of_opens failed]
  | done last =>
    rw [reader] at known accords
    rcases last with e | outcome
    · simp only [Option.some.injEq] at known
      obtain ⟨rows, all⟩ := accords purpose
      obtain ⟨-, failed⟩ := Response.all_of_results (by simp) all sound.given
      rw [← known, Response.all]
      cases ending : reading.response.ending.result <;> simp_all [Except.map]
    · cases outcome with
      | rows rows =>
        simp only [Option.some.injEq] at known
        obtain ⟨all, succeeded⟩ := Response.all_of_results (by simp) (accords purpose) sound.given
        rw [← known, Response.all, all]
        cases ending : reading.response.ending.result <;> simp_all [Except.map]
      | row _ | closed | dropped => simp at known
  | _ => simp [reader] at known

/-- A caller that rests has been told what opening the stream came to, it has been answered if it
wanted all rows, and if it holds an open stream the next call returns. -/
theorem Rests.answered (rests : reading.Rests) (sound : reading.Sound) :
    reading.opening?.isSome = true ∧
      (reading.purpose = .allRows → reading.collected?.isSome = true) ∧
      (reading.reader = .idle → reading.stream.next?.isSome = true) := by
  obtain ⟨-, reader⟩ := rests
  have accords := sound.accords
  unfold opening? collected?
  cases at_ : reading.reader with
  | opening | collecting _ | looking | closing _ => simp [at_] at reader
  | refused e => simp
  | idle => simp_all [Reader.Accords]
  | done answer =>
    rw [at_] at accords
    rcases answer with e | _ | _ | _ | _ <;> simp_all [Reader.Accords]

end Reading

/-- Whether a query is that of a plan that was compiled. -/
def Party.IsCompiled : Party → Prop
  | .queued purpose query _ | .supplied purpose query _ =>
    ∃ plan, (purpose.plan plan).compile = .ok query
  | .running reading =>
    ∃ plan query, (reading.purpose.plan plan).compile = .ok query ∧
      reading.stream.columns = query.columns
  | .doing _ | .keeping _ => True

/-- A reading that keeps what stays the same keeps the plan. -/
theorem Reading.Keeps.isCompiled {reading after : Reading} (kept : reading.Keeps after)
    (compiled : (Party.running reading).IsCompiled) : (Party.running after).IsCompiled := by
  obtain ⟨plan, query, compiled, columns⟩ := compiled
  exact ⟨plan, query, kept.purpose ▸ compiled, kept.columns.trans columns⟩

namespace System

/-- Only plans that were compiled are run. -/
theorem Reachable.isCompiled {system : System} (reached : system.Reachable) :
    ∀ party ∈ system.parties, party.IsCompiled := by
  refine reached.forall_party (motive := fun _ party => party.IsCompiled) ?_ ?_ ?_ ?_
  · exact fun _ _ plan _ compiled => ⟨plan, compiled⟩
  · exact fun _ _ => trivial
  · exact fun _ _ _ plan _ _ compiled _ => ⟨⟨plan, compiled⟩, trivial⟩
  · intro buffer free actor store party after next _ moved compiled
    cases moved with
    | @acquire _ _ purpose query result _ =>
      cases result with
      | ok connection => exact compiled
      | error ending => exact ⟨_, query, compiled.choose_spec, rfl⟩
    | @queryOwn _ _ _ query | @queryLent _ _ _ query =>
      exact ⟨_, query, compiled.choose_spec, rfl⟩
    | task advanced => exact (Reading.keeps_withFlow advanced).isCompiled compiled
    | read done => exact (Reading.leaves_read done).toKeeps.isCompiled compiled
    | serve done => exact (Reading.leaves_serve done).toKeeps.isCompiled compiled
    | @hire _ _ _ result _ => cases result <;> trivial
    | @complete _ job connection ending => cases job <;> cases ending <;> trivial
    | _ => trivial

/-- Whatever goes on in an engine, and in whatever order, a caller gets from a query of a compiled
plan what the store gave: the stream cannot be opened if no connection was handed out, or if the
query ended before its first row without success, and is open otherwise; the calls of `next` return
the rows one by one, then the end of the query, then nothing; and a caller that wanted all rows gets
them all if the query succeeded, and its end if not. What happens by itself comes to an end, and
then each of these answers is there. -/
theorem Reachable.delivers {system : System} (reached : system.Reachable) {reading : Reading}
    (mem : .running reading ∈ system.parties) :
    (∃ plan query, (reading.purpose.plan plan).compile = .ok query ∧
        reading.stream.columns = query.columns) ∧
      (∀ result, reading.opening? = some result →
        result = reading.response.opens ∧
          (result ≠ .ok () ↔ (∃ ending, reading.supply = .refused ending) ∨
            (reading.response.rows = [] ∧ reading.response.ending ≠ .success))) ∧
      (∀ k (h : k < reading.given.length),
        reading.given[k] = reading.response.result reading.stream.columns k) ∧
      (reading.purpose = .allRows → ∀ answer, reading.collected? = some answer →
        answer = reading.response.all reading.stream.columns) ∧
      (system.Quiet →
        reading.opening?.isSome = true ∧
          (reading.purpose = .allRows → reading.collected?.isSome = true) ∧
          (reading.reader = .idle → reading.stream.next?.isSome = true)) ∧
      WellFounded fun after before : System => before.Reachable ∧ Step .engine before after := by
  have sound := reached.sound mem
  refine ⟨reached.isCompiled _ mem, ?_, sound.given, ?_, ?_, wellFounded_step⟩
  · intro result known
    obtain rfl := sound.opening_eq known
    refine ⟨rfl, ?_⟩
    rw [ne_eq, Response.opens_eq_ok, not_not]
    constructor
    · exact .inr
    · rintro (⟨ending, refused⟩ | failed)
      · obtain ⟨failed, rows, same⟩ := sound.refused ending refused
        exact ⟨rows, same ▸ failed⟩
      · exact failed
  · exact fun purpose answer known => sound.collected_eq purpose known
  · exact fun quiet => Reading.Rests.answered (quiet.rests reached mem) sound

end System

namespace Journal

/-- The numbers of all entries. -/
def plan : Plan where
  source := ⟨"entries", none⟩
  columns := [⟨⟨"entries", "entries", "id", .integer, false⟩, none⟩]
  joins := []
  predicates := []
  groupBy := []
  aggregates := []
  orderBy := []
  limit := none
  offset := none

/-- The query of the plan. -/
def query : CompiledQuery where
  sql := String.ofList (plan.pieces.flatMap Sql.Piece.chars)
  params := []
  columns := [⟨"id", .integer⟩]

/-- The plan is compiled to the query. -/
theorem compile_plan : plan.compile = .ok query := rfl

/-- Two entries, and then the query brings down its task. -/
def broken : Response where
  rows := [[.integer 1], [.integer 2]]
  ending := .crash

/-- A script by which every query gets one response, and every other call succeeds. -/
def rules (response : Response) : List Rule := [⟨.query, "", none, response⟩]

/-- All rows of the broken query as its caller has them in the end. -/
def failed : Reading where
  purpose := .allRows
  supply := .own 1
  response := broken
  stream :=
    { columns := query.columns
      first := none
      flow := ⟨1, [], .crash, .crashed, [], false⟩
      joined := true
      received := 2 }
  reader := .done (.error (.store .taskFailed))
  given := [.ok (some ⟨[("id", .integer 1)]⟩), .ok (some ⟨[("id", .integer 2)]⟩),
    .error (.store .taskFailed)]

/-- In an engine with room for one row ahead, the reading of the broken query comes to its end. -/
theorem reachable_failed :
    ∃ store, System.Reachable ⟨store, 1, .running failed ::ₘ 0⟩ := by
  have started := System.Reachable.start 1 (rules broken) 1
  have compiled : (Purpose.allRows.plan plan).compile = .ok query := compile_plan
  have asked := started.step (.run compiled)
  have supplied := asked.step (.move (.acquire (.granted rfl)))
  have running := supplied.step (.move (.queryOwn rfl))
  have first := (running.step (.move (.task rfl))).step (.move (.task rfl))
  have opened := first.step (.move (.read rfl))
  have second := (opened.step (.move (.task rfl))).step (.move (.task rfl))
  have crashed := second.step (.move (.task rfl))
  have read := (crashed.step (.move (.read rfl))).step (.move (.read rfl))
  have atEnd := read.step (.move (.read rfl))
  exact ⟨_, atEnd⟩

/-- The caller that wanted all entries is told of the crash and not given the two that came. -/
theorem collected_failed :
    ∃ store, System.Reachable ⟨store, 1, .running failed ::ₘ 0⟩ ∧
      failed.purpose = .allRows ∧ failed.collected? = some (broken.all query.columns) ∧
      broken.all query.columns = .error (.store .taskFailed) := by
  obtain ⟨store, reached⟩ := reachable_failed
  have mem : .running failed ∈ Party.running failed ::ₘ 0 := Multiset.mem_cons_self _ _
  obtain ⟨-, -, -, all, -⟩ := reached.delivers mem
  have answered := all rfl (.error (.store .taskFailed)) rfl
  exact ⟨store, reached, rfl, congrArg some answered, answered.symm⟩

end Journal

end TypedQuery
