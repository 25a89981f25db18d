/-!
# Kinds of aggregates

The seven aggregates that a plan can ask for. Two of them count and two of them add up, so the
function that the store runs says less than the kind.
-/

namespace TypedQuery

/-- What an aggregate computes over the rows of a group. -/
inductive AggregateKind where
  /-- The number of rows in which a column is not null. -/
  | count
  /-- The number of rows. -/
  | countAll
  | sum
  /-- The sum of the products of two columns. -/
  | sumOfProduct
  | avg
  | min
  | max
  deriving DecidableEq, Inhabited

namespace AggregateKind

/-- The number of columns that the aggregate is computed from. -/
def arity : AggregateKind → Nat
  | .countAll => 0
  | .sumOfProduct => 2
  | .count | .sum | .avg | .min | .max => 1

/-- The function that the store runs. -/
def function : AggregateKind → String
  | .count | .countAll => "COUNT"
  | .sum | .sumOfProduct => "SUM"
  | .avg => "AVG"
  | .min => "MIN"
  | .max => "MAX"

/-- The name of the kind in messages; unlike the function it tells all seven apart. -/
def label : AggregateKind → String
  | .count => "Count"
  | .countAll => "CountAll"
  | .sum => "Sum"
  | .sumOfProduct => "SumOfProduct"
  | .avg => "Avg"
  | .min => "Min"
  | .max => "Max"

/-- Two kinds of one label are the same kind. -/
theorem label_injective {a b : AggregateKind} (h : a.label = b.label) : a = b := by
  cases a <;> cases b <;> first | rfl | exact absurd h (by decide)

end AggregateKind

end TypedQuery
