import TypedQuery.Plan.AggregateKind
import TypedQuery.Text.Listing

/-!
# What can go wrong

Every failure is a value that names its cause, from a table definition that does not hold together
to a store that cannot be reached. The wording of a cause is given here once, by `message` in the
namespace of each type, and never looked at again by the library: it decides on causes only.

Callers may raise errors of their own. The constructor `stated` of each family holds such a cause in
the caller's words.
-/

namespace TypedQuery

/-- Why a table definition is refused. -/
inductive TableFault where
  /-- The primary key is not a column of the table. -/
  | keyNotColumn (key table : String)
  /-- A foreign key starts at a column that the table does not have. -/
  | foreignKeyNotColumn (column table : String)
  /-- A foreign key points at a column that its target does not have. -/
  | unknownTarget (table column target referenced : String)
  /-- A foreign key points at a table that is not registered. -/
  | unknownTargetTable (table column target : String)
  | stated (text : String)
  deriving DecidableEq

/-- The wording of a refused table definition. -/
def TableFault.message : TableFault → String
  | .keyNotColumn key table => s!"primary key '{key}' is not a column of '{table}'"
  | .foreignKeyNotColumn column table =>
    s!"foreign key column '{column}' is not a column of '{table}'"
  | .unknownTarget table column target referenced =>
    s!"{table}.{column} references unknown column {target}.{referenced}"
  | .unknownTargetTable table column target =>
    s!"{table}.{column} references unknown table '{target}'"
  | .stated text => text

/-- Why a step of a plan is refused, or the plan as a whole. -/
inductive PlanFault where
  | malformedColumn (spec : String)
  | malformedTable (spec : String)
  /-- A predicate holds a numbered or named placeholder. -/
  | placeholderStyle (placeholder fragment : String)
  | primaryTableSet
  /-- A step other than the first was taken before the primary table was chosen. -/
  | primaryTableFirst
  | noPrimaryTable
  | aliasedWildcard (spec : String)
  /-- A join condition has both sides in the joined table, or none. -/
  | unrelatedJoin (left right name : String)
  | emptyPredicate
  | wrongArity (kind : AggregateKind) (given : Nat)
  /-- An aggregate was given a blank alias. -/
  | blankAlias (kind : AggregateKind)
  /-- The text of an aggregate does not end in an alias. -/
  | aliasMissing (spec : String)
  | wildcardNotCounted (spec : String)
  /-- A text that should name one column has a wildcard or an alias. -/
  | notOneColumn (spec : String)
  | groupingNeeded
  | stated (text : String)
  deriving DecidableEq

/-- The wording of a refused step. -/
def PlanFault.message : PlanFault → String
  | .malformedColumn spec => s!"malformed column reference '{spec}'"
  | .malformedTable spec => s!"malformed table reference '{spec}'"
  | .placeholderStyle placeholder fragment =>
    s!"placeholder '{placeholder}' in '{fragment}' is not supported; use '?'"
  | .primaryTableSet => "primary table is already set"
  | .primaryTableFirst => "select_from must be called first"
  | .noPrimaryTable => "no primary table"
  | .aliasedWildcard spec => s!"'{spec}': a wildcard cannot be aliased"
  | .unrelatedJoin left right name =>
    s!"join condition {left} = {right} must relate '{name}' to a table already in the query"
  | .emptyPredicate => "empty predicate"
  | .wrongArity kind given => s!"{kind.label} takes {kind.arity} column(s), got {given}"
  | .blankAlias kind => s!"{kind.label} needs an output alias"
  | .aliasMissing spec => s!"'{spec}': aggregate needs 'as <alias>'"
  | .wildcardNotCounted spec => s!"'{spec}': wildcard is only valid in count(*)"
  | .notOneColumn spec => s!"'{spec}' must be a single column reference"
  | .groupingNeeded => "aggregates combined with plain columns require GROUP BY"
  | .stated text => text

/-- Why a plan has no text in the store's language. -/
inductive CompileFault where
  /-- A predicate has more or fewer placeholders than values. -/
  | unbalanced (fragment : String) (placeholders params : Nat)
  | nothingSelected
  | stated (text : String)
  deriving DecidableEq

/-- The wording of a failed compilation. -/
def CompileFault.message : CompileFault → String
  | .unbalanced fragment placeholders params =>
    s!"fragment '{fragment}' has {placeholders} placeholder(s) but {params} parameter(s)"
  | .nothingSelected => "plan selects nothing"
  | .stated text => text

/-- Why the store cannot serve a call at the moment. -/
inductive Outage where
  /-- Every connection that the store may open is handed out. -/
  | exhausted (limit : Nat)
  /-- A stream of the transaction still holds its connection. -/
  | heldByStream
  | stated (text : String)
  deriving DecidableEq

/-- The wording of an outage. -/
def Outage.message : Outage → String
  | .exhausted limit => s!"all {limit} connections are in use"
  | .heldByStream => "transaction connection is held by an open stream"
  | .stated text => text

/-- How a store call went wrong for good. -/
inductive StoreFault where
  /-- The task that made the call was brought down by it. -/
  | taskFailed
  /-- The call came with more or fewer values than the statement has placeholders. -/
  | parameterCount (given needed : Nat)
  | stated (text : String)
  deriving DecidableEq

/-- The wording of a failed store call. -/
def StoreFault.message : StoreFault → String
  | .taskFailed => "store task failed"
  | .parameterCount given needed =>
    s!"Wrong number of parameters passed to query. Got {given}, needed {needed}"
  | .stated text => text

/-- Why settings cannot be used. -/
inductive SettingsFault where
  | fileMissing
  /-- The file's extension names no format that settings are written in. -/
  | unknownFormat
  | malformedFile
  /-- A setting has a value of a kind that does not fit it. -/
  | unfitValue (setting : String)
  | noStreamBuffer
  | noConnections
  | stated (text : String)
  deriving DecidableEq

/-- The wording of unusable settings. -/
def SettingsFault.message : SettingsFault → String
  | .fileMissing => "configuration file not found"
  | .unknownFormat => "configuration file is not of a registered file format"
  | .malformedFile => "configuration file is malformed"
  | .unfitValue setting => s!"invalid value for {setting}"
  | .noStreamBuffer => "query.stream_buffer must be at least 1"
  | .noConnections => "database.max_connections must be at least 1"
  | .stated text => text

/-- Everything that can go wrong between a caller's request and the store's answer. -/
inductive QueryError where
  | unknownTable (name : String)
  | unknownColumn (scope column : String)
  | duplicateTable (name : String)
  | duplicateAlias (name : String)
  | invalidTable (fault : TableFault)
  /-- An unqualified column that several tables of the query have. -/
  | ambiguousColumn (column : String) (scopes : List String)
  | parameterCountMismatch (fragment : String) (placeholders params : Nat)
  | invalidPlan (fault : PlanFault)
  | compile (fault : CompileFault)
  | storeUnavailable (outage : Outage)
  | constraintViolation (text : String)
  | store (fault : StoreFault)
  | io (text : String)
  | settings (fault : SettingsFault)
  deriving DecidableEq

namespace QueryError

/-- The wording of an error. -/
def message : QueryError → String
  | .unknownTable name => s!"Table '{name}' not found"
  | .unknownColumn scope column => s!"Column '{column}' not found in '{scope}'"
  | .duplicateTable name => s!"Table '{name}' already exists"
  | .duplicateAlias name => s!"Alias '{name}' is already in use"
  | .invalidTable fault => s!"Invalid column definition: {fault.message}"
  | .ambiguousColumn column scopes =>
    s!"Column '{column}' is ambiguous between {Text.quotedList scopes}"
  | .parameterCountMismatch fragment placeholders params =>
    s!"Fragment '{fragment}' has {placeholders} placeholder(s) but {params} parameter(s)"
  | .invalidPlan fault => s!"Invalid plan: {fault.message}"
  | .compile fault => s!"Compile error: {fault.message}"
  | .storeUnavailable outage => s!"Store unavailable: {outage.message}"
  | .constraintViolation text => s!"Constraint violation: {text}"
  | .store fault => s!"Store error: {fault.message}"
  | .io text => s!"IO error: {text}"
  | .settings fault => s!"Configuration error: {fault.message}"

/-- Whether the request contradicts the tables as they are registered. Trying again cannot help. -/
def isSchemaError : QueryError → Bool
  | .unknownTable _ | .unknownColumn .. | .duplicateTable _ | .duplicateAlias _ | .invalidTable _
  | .ambiguousColumn .. => true
  | _ => false

/-- Whether the error arises while a plan is made or compiled, before the store is called. -/
def isPlanError : QueryError → Bool
  | .parameterCountMismatch .. | .invalidPlan _ | .compile _ => true
  | _ => false

/-- No error belongs to both classes. -/
theorem not_isPlanError_of_isSchemaError {e : QueryError} (h : e.isSchemaError = true) :
    e.isPlanError = false := by
  cases e <;> simp_all [isSchemaError, isPlanError]

end QueryError

end TypedQuery
