import TypedQuery.Schema.TradingCompany
import TypedQuery.Workload.Arguments

/-!
# Command line

Shows the queries of the workload, or its statistics, for the search terms that are given.
-/

open TypedQuery

/-- Answers a request, and says so if the arguments make none. -/
def main (arguments : List String) : IO UInt32 := do
  match Workload.Request.ofArguments {} arguments with
  | .error argument =>
    IO.eprintln s!"unexpected argument: {argument}"
    return 2
  | .ok request =>
    match request.answer TradingCompany.registry with
    | .error e =>
      IO.eprintln e.message
      return 1
    | .ok lines =>
      lines.forM fun line => IO.println line
      return 0
