import TypedQuery.Database.Prepared

/-!
# Windows

A query ends with its window: how many rows it gives at most, and how many it leaves out at the
start. Both are expressions outside of any table, and must have integers for values; a number that
does not fit 64 bits is none. With a limit of zero no row is looked for, and the offset is not
looked at either.
-/

namespace TypedQuery.Database

/-- A window as it is written. -/
structure Window where
  limit : Option Expr
  offset : Option Expr

namespace Window

/-- The window that a text is, read as the end of a query is. -/
def ofText? (text : String) : Option Window :=
  match Reader.window.run { text, tokens := tokensFrom 0 (Sql.lexemes text.toList) } with
  | .ok ((limit, offset), state) => if state.tokens.isEmpty then some ⟨limit, offset⟩ else none
  | .error _ => none

/-- The integer that a part of a window is, if it is one. -/
def part? (params : List Value) (expr : Expr) : Option Int :=
  match expr.eval Scope.empty params with
  | .ok (.integer i) => some i.toInt
  | .ok _ | .error _ => none

/-- The rows that a window selects, if its parts are integers. -/
def select? {α : Type} (window : Window) (params : List Value) (rows : List α) :
    Option (List α) := do
  let limit ← window.limit.mapM (part? params)
  if limit = some 0 then return []
  let offset ← window.offset.mapM (part? params)
  return Query.inWindow limit offset rows

end Window

end TypedQuery.Database
