import TypedQuery.Error
import TypedQuery.Row.Mapping
import TypedQuery.Text.Occurrence

/-!
# Scripted stores

What a store answers is not for the engine to know, so a store is given by a script: a list of rules
that say how calls end. Of the rules for a kind of call, the first whose text occurs in the call's
statement and that has not been used up decides. Any finite course of answers can be scripted, and a
call without a rule gives nothing and succeeds.
-/

namespace TypedQuery

/-- The calls that a store serves. -/
inductive CallKind where
  | acquire
  | query
  | execute
  | batch
  | begin
  | commit
  | rollback
  deriving DecidableEq, Inhabited

/-- How a call ends. -/
inductive Ending where
  | success
  | failure (e : QueryError)
  /-- The call brings down the task that made it. -/
  | crash
  deriving DecidableEq, Inhabited

/-- The outcome of a call whose end is all that counts. -/
def Ending.result : Ending → Except QueryError Unit
  | .success => .ok ()
  | .failure e => .error e
  | .crash => .error (.store .taskFailed)

/-- What a call gives before it ends: the rows of a query, and the number of rows that a statement
changed. -/
structure Response where
  rows : List RawRow := []
  affected : Nat := 0
  ending : Ending := .success

/-- A rule: which calls it is for, how often it may be used if that is limited, and the answer. -/
structure Rule where
  kind : CallKind
  fragment : String
  times : Option Nat
  response : Response

/-- Whether a rule is for a call and has not been used up. -/
def Rule.applies (rule : Rule) (kind : CallKind) (sql : String) : Bool :=
  rule.kind = kind && rule.times ≠ some 0 && Text.occursIn rule.fragment.toList sql.toList

/-- A rule after one more use. -/
def Rule.used (rule : Rule) : Rule :=
  { rule with times := rule.times.map (· - 1) }

/-- The answer to a call and the rules after it. -/
def answer (kind : CallKind) (sql : String) : List Rule → Response × List Rule
  | [] => ({}, [])
  | rule :: rest =>
    if rule.applies kind sql then (rule.response, rule.used :: rest)
    else
      let (response, rest) := answer kind sql rest
      (response, rule :: rest)

end TypedQuery
