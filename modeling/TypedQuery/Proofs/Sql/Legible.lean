import TypedQuery.Proofs.Sql.Pieces
import TypedQuery.Proofs.Text.Legible

/-!
# Clauses can be read again

What stands in a query can be told from its text, part by part. Every name is in quotes, so no name
reaches into what is behind it, and the words between the names tell the forms apart: a column has a
point between its names and an alias has none, an aggregate starts with a letter, a sum of products
has a star between its columns.

Of a column only its scope and its name can be read (`ColumnRef.place`); what the registry says of
it is not in the text.
-/

namespace TypedQuery

/-- What of a column stands in a query: its scope and its name. -/
def ColumnRef.place (ref : ColumnRef) : String × String :=
  (ref.scope, ref.column)

namespace Sql

open Text (Legible EndsName quotedName legible_quotedName)

/-! ## Columns and tables -/

/-- A column is its two names in quotes with a point between. -/
theorem chars_column_append (ref : ColumnRef) (rest : List Char) :
    (column ref).flatMap Piece.chars ++ rest =
      quotedName ref.scope ++ '.' :: (quotedName ref.column ++ rest) := by
  simp [column, Piece.chars]

/-- A column is legible. -/
theorem legible_column :
    Legible (fun _ => True) (fun ref => (column ref).flatMap Piece.chars) ColumnRef.place
      EndsName := by
  intro a b r s _ _ hr hs same
  simp only [chars_column_append] at same
  -- The point ends the first name, and what is behind the column ends the second.
  have point (rest : List Char) : EndsName ('.' :: rest) := by simp [EndsName]
  obtain ⟨scopes, same⟩ := legible_quotedName trivial trivial (point _) (point _) same
  obtain ⟨names, rest⟩ := legible_quotedName trivial trivial hr hs (List.cons.inj same).2
  exact ⟨Prod.ext scopes names, rest⟩

/-- An alias behind its word, if there is one. -/
def aliasChars : Option String → List Char
  | some name => " AS ".toList ++ quotedName name
  | none => []

/-- A text that starts with neither a double quote nor an alias. -/
def EndsAlias (rest : List Char) : Prop :=
  EndsName rest ∧ ¬" AS ".toList <+: rest

/-- What is behind an alias, or behind the name that might have one, does not start with a double
quote. -/
theorem endsName_aliasChars {rest : List Char} (ends : EndsName rest) (scopeAlias : Option String) :
    EndsName (aliasChars scopeAlias ++ rest) := by
  cases scopeAlias with
  | none => exact ends
  | some name => simp [EndsName, aliasChars]

/-- An optional alias is legible. -/
theorem legible_aliasChars : Legible (fun _ => True) aliasChars id EndsAlias := by
  intro a b r s _ _ hr hs same
  cases a with
  | none =>
    cases b with
    | none => exact ⟨rfl, same⟩
    | some b =>
      -- What is behind the name would be an alias.
      refine absurd ⟨quotedName b ++ s, ?_⟩ hr.2
      rw [← List.append_assoc]
      exact same.symm
  | some a =>
    cases b with
    | none =>
      refine absurd ⟨quotedName a ++ r, ?_⟩ hs.2
      rw [← List.append_assoc]
      exact same
    | some b =>
      simp only [aliasChars, List.append_assoc] at same
      obtain ⟨rfl, rest⟩ :=
        legible_quotedName trivial trivial hr.1 hs.1 (List.append_cancel_left same)
      exact ⟨rfl, rest⟩

/-- A table is its name in quotes with its alias. -/
theorem chars_table_append (scope : TableScope) (rest : List Char) :
    (table scope).flatMap Piece.chars ++ rest =
      quotedName scope.table ++ (aliasChars scope.scopeAlias ++ rest) := by
  unfold table
  split
  · next named => simp [named, aliasChars, Piece.chars]
  · next plain => simp [plain, aliasChars, Piece.chars]

/-- A table is legible. -/
theorem legible_table :
    Legible (fun _ => True) (fun scope => (table scope).flatMap Piece.chars) id EndsAlias := by
  intro a b r s _ _ hr hs same
  simp only [chars_table_append] at same
  obtain ⟨tables, same⟩ := legible_quotedName trivial trivial (endsName_aliasChars hr.1 _)
    (endsName_aliasChars hs.1 _) same
  obtain ⟨aliases, rest⟩ := legible_aliasChars trivial trivial hr hs same
  cases a
  cases b
  exact ⟨by rw [id_eq, id_eq, TableScope.mk.injEq]; exact ⟨tables, aliases⟩, rest⟩

/-- A selected column is a column with its alias. -/
theorem chars_selected_append (item : SelectedColumn) (rest : List Char) :
    (selected item).flatMap Piece.chars ++ rest =
      (column item.column).flatMap Piece.chars ++ (aliasChars item.outputAlias ++ rest) := by
  unfold selected
  split
  · next named => simp [named, aliasChars, Piece.chars]
  · next plain => simp [plain, aliasChars]

/-- What of a selected column stands in a query. -/
def selectedKey (item : SelectedColumn) : (String × String) × Option String :=
  (item.column.place, item.outputAlias)

/-- A selected column is legible. -/
theorem legible_selected :
    Legible (fun _ => True) (fun item => (selected item).flatMap Piece.chars) selectedKey
      EndsAlias := by
  intro a b r s _ _ hr hs same
  simp only [chars_selected_append] at same
  obtain ⟨columns, same⟩ := legible_column trivial trivial (endsName_aliasChars hr.1 _)
    (endsName_aliasChars hs.1 _) same
  obtain ⟨aliases, rest⟩ := legible_aliasChars trivial trivial hr hs same
  exact ⟨Prod.ext columns aliases, rest⟩

/-! ## Aggregates -/

/-- The function of an aggregate ends at the first bracket. -/
theorem function_append_inj {a b : AggregateKind} {r s : List Char}
    (same : a.function.toList ++ '(' :: r = b.function.toList ++ '(' :: s) :
    a.function = b.function ∧ r = s := by
  cases a <;> cases b <;> simp_all [AggregateKind.function]

/-- The function and the number of columns determine the kind of an aggregate. -/
theorem kind_eq_of_function_eq {a b : AggregateKind} (functions : a.function = b.function)
    (arities : a.arity = b.arity) : a = b := by
  cases a <;> cases b <;> first | rfl | exact absurd functions (by decide) |
    exact absurd arities (by decide)

/-- What an aggregate is computed from: a star, a column, or two columns with a star between. -/
theorem argument_cases {expr : Aggregate} (arity : expr.sources.length = expr.kind.arity) :
    (expr.sources = [] ∧ (argument expr).flatMap Piece.chars = ['*']) ∨
      (∃ ref, expr.sources = [ref] ∧ argument expr = column ref) ∨
      ∃ left right, expr.sources = [left, right] ∧
        (argument expr).flatMap Piece.chars =
          (column left).flatMap Piece.chars ++ " * ".toList ++
            (column right).flatMap Piece.chars := by
  obtain ⟨kind, sources, outputAlias⟩ := expr
  have one (single : kind.arity = 1) (plain : argument ⟨kind, sources, outputAlias⟩ =
      separated ", " (sources.map column)) :
      ∃ ref, sources = [ref] ∧ argument ⟨kind, sources, outputAlias⟩ = column ref := by
    obtain ⟨ref, rfl⟩ := List.length_eq_one_iff.1 (arity.trans single)
    exact ⟨ref, rfl, plain⟩
  cases kind with
  | countAll => exact .inl ⟨List.length_eq_zero_iff.1 arity, rfl⟩
  | sumOfProduct =>
    obtain ⟨left, right, rfl⟩ := List.length_eq_two.1 arity
    exact .inr (.inr ⟨left, right, rfl, by simp [argument, separated, Piece.chars]⟩)
  | count => exact .inr (.inl (one rfl rfl))
  | sum => exact .inr (.inl (one rfl rfl))
  | avg => exact .inr (.inl (one rfl rfl))
  | min => exact .inr (.inl (one rfl rfl))
  | max => exact .inr (.inl (one rfl rfl))

/-- A column is not read where there is a star. -/
theorem chars_column_ne_star (ref : ColumnRef) (r s : List Char) :
    (column ref).flatMap Piece.chars ++ r ≠ ['*'] ++ s := by
  simp [chars_column_append, quotedName]

/-- What an aggregate is computed from is legible in front of the bracket behind it. -/
theorem argument_append_inj {a b : Aggregate} (arityA : a.sources.length = a.kind.arity)
    (arityB : b.sources.length = b.kind.arity) {r s : List Char}
    (same : (argument a).flatMap Piece.chars ++ ')' :: r =
      (argument b).flatMap Piece.chars ++ ')' :: s) :
    a.sources.map ColumnRef.place = b.sources.map ColumnRef.place ∧ r = s := by
  have bracket (rest : List Char) : EndsName (')' :: rest) := by simp [EndsName]
  have star (rest : List Char) : EndsName (" * ".toList ++ rest) := by simp [EndsName]
  -- A star, one column and two columns differ in their first character or behind the first column.
  rcases argument_cases arityA with ⟨hA, textA⟩ | ⟨refA, hA, textA⟩ | ⟨leftA, rightA, hA, textA⟩
  · rcases argument_cases arityB with ⟨hB, textB⟩ | ⟨refB, hB, textB⟩ | ⟨leftB, rightB, hB, textB⟩
    · rw [textA, textB] at same
      rw [hA, hB]
      exact ⟨rfl, by simpa using same⟩
    · rw [textA, textB] at same
      exact (chars_column_ne_star _ _ _ same.symm).elim
    · rw [textA, textB, List.append_assoc, List.append_assoc] at same
      exact (chars_column_ne_star _ _ _ same.symm).elim
  · rcases argument_cases arityB with ⟨hB, textB⟩ | ⟨refB, hB, textB⟩ | ⟨leftB, rightB, hB, textB⟩
    · rw [textA, textB] at same
      exact (chars_column_ne_star _ _ _ same).elim
    · rw [textA, textB] at same
      obtain ⟨columns, rest⟩ := legible_column trivial trivial (bracket r) (bracket s) same
      rw [hA, hB]
      exact ⟨congrArg (fun place => [place]) columns, (List.cons.inj rest).2⟩
    · rw [textA, textB, List.append_assoc, List.append_assoc] at same
      have rest := (legible_column trivial trivial (bracket r) (star _) same).2
      simp at rest
  · rcases argument_cases arityB with ⟨hB, textB⟩ | ⟨refB, hB, textB⟩ | ⟨leftB, rightB, hB, textB⟩
    · rw [textA, textB, List.append_assoc, List.append_assoc] at same
      exact (chars_column_ne_star _ _ _ same).elim
    · rw [textA, textB, List.append_assoc, List.append_assoc] at same
      have rest := (legible_column trivial trivial (star _) (bracket s) same).2
      simp at rest
    · rw [textA, textB, List.append_assoc, List.append_assoc, List.append_assoc,
        List.append_assoc] at same
      obtain ⟨lefts, same⟩ := legible_column trivial trivial (star _) (star _) same
      obtain ⟨rights, rest⟩ := legible_column trivial trivial (bracket r) (bracket s)
        (List.append_cancel_left same)
      rw [hA, hB]
      exact ⟨by simp [lefts, rights], (List.cons.inj rest).2⟩

/-- An aggregate is its function, what it is computed from in brackets, and its alias. -/
theorem chars_aggregate_append (expr : Aggregate) (rest : List Char) :
    (aggregate expr).flatMap Piece.chars ++ rest = expr.kind.function.toList ++ '(' ::
      ((argument expr).flatMap Piece.chars ++ ')' ::
        (" AS ".toList ++ (quotedName expr.outputAlias ++ rest))) := by
  simp [aggregate, Piece.chars]

/-- What of an aggregate stands in a query. -/
def aggregateKey (expr : Aggregate) : AggregateKind × List (String × String) × String :=
  (expr.kind, expr.sources.map ColumnRef.place, expr.outputAlias)

/-- An aggregate with the columns that its kind takes is legible. -/
theorem legible_aggregate :
    Legible (fun expr : Aggregate => expr.sources.length = expr.kind.arity)
      (fun expr => (aggregate expr).flatMap Piece.chars) aggregateKey EndsName := by
  intro a b r s arityA arityB hr hs same
  simp only [chars_aggregate_append] at same
  obtain ⟨functions, same⟩ := function_append_inj same
  obtain ⟨sources, same⟩ := argument_append_inj arityA arityB same
  obtain ⟨aliases, rest⟩ := legible_quotedName trivial trivial hr hs (List.append_cancel_left same)
  -- The text has the number of columns, which tells apart kinds of one function.
  have lengths : a.sources.length = b.sources.length := by
    simpa using congrArg List.length sources
  have kinds := kind_eq_of_function_eq functions (by rw [← arityA, ← arityB, lengths])
  exact ⟨Prod.ext kinds (Prod.ext sources aliases), rest⟩

end Sql

end TypedQuery
