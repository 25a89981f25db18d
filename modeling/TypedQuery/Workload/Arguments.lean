import TypedQuery.Workload.Run

/-!
# Arguments of the command line

What the command line says of a run of the workload: the search terms, separated by commas, and
whether the statistics are wanted instead of the queries.
-/

namespace TypedQuery.Workload

/-- A run as it is asked for. -/
structure Request where
  terms : Terms := ⟨["ha", "ar", "mo", "zz"], ["ch", "co", "ra"]⟩
  /-- Whether the statistics are to be shown in place of the queries. -/
  statistics : Bool := false

/-- The request that arguments make, or the argument that is not understood. -/
def Request.ofArguments (request : Request) : List String → Except String Request
  | [] => .ok request
  | "--customer-search" :: terms :: rest =>
    ofArguments { request with terms.customers := terms.splitOn "," } rest
  | "--product-search" :: terms :: rest =>
    ofArguments { request with terms.products := terms.splitOn "," } rest
  | "--statistics" :: rest => ofArguments { request with statistics := true } rest
  | other :: _ => .error other

/-- A logged query for the eye: its text, and under it the values bound to it. -/
def Call.describe? : Call → Option String
  | .query _ sql params =>
    some (String.intercalate "\n" (sql :: params.map fun value => s!"  {value.display}"))
  | _ => none

/-- Statistics for the eye. -/
def Stats.describe (stats : Stats) : String :=
  s!"{stats.name}: {stats.runs} run(s), {stats.rows} row(s)"

/-- The lines that a request is answered with: what the workload does over a store without rows. -/
def Request.answer (registry : Registry) (request : Request) : Except QueryError (List String) :=
  let store : Store := { limit := 8, rules := [] }
  let (outcome, engine) := Workload.statistics registry request.terms (.new store 64)
  outcome.map fun all =>
    if request.statistics then all.map Stats.describe
    else engine.store.log.filterMap Call.describe?

end TypedQuery.Workload
