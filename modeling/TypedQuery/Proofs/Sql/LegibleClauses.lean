import TypedQuery.Proofs.Sql.Legible

/-!
# Whole clauses can be read again

Columns, tables and aggregates are legible, and so are the clauses that are made of them. Between
two parts of a clause there is a word that no part starts with, and behind a clause there is nothing
or another clause, whose word is a different one. A limit is a number, or a minus where there is
none.
-/

namespace TypedQuery

namespace Sql

open Text (Legible EndsName quotedName legible_quotedName)

/-! ## Lists of parts -/

/-- Parts with a word between two are the first part, and each other part behind the word. -/
theorem chars_separated_cons {α : Type} (word : String) (write : α → List Piece) (a : α)
    (items : List α) :
    (separated word ((a :: items).map write)).flatMap Piece.chars =
      (write a).flatMap Piece.chars ++
        items.flatMap fun b => word.toList ++ (write b).flatMap Piece.chars := by
  induction items generalizing a with
  | nil => simp [separated]
  | cons b items ih =>
    have others := ih b
    simp only [List.map_cons] at others ⊢
    rw [separated, List.flatMap_append, List.flatMap_cons, others, List.flatMap_cons,
      List.append_assoc]
    · rfl
    · simp

/-- Parts with a word between two are legible, if each of them is in front of the word. -/
theorem legible_separated {α κ : Type} {valid : α → Prop} {write : α → List Piece} {key : α → κ}
    {ends : List Char → Prop} {word : String}
    (part : Legible valid (fun a => (write a).flatMap Piece.chars) key ends)
    (between : ∀ rest, ends (word.toList ++ rest)) :
    Legible (fun items : List α => items ≠ [] ∧ ∀ a ∈ items, valid a)
      (fun items => (separated word (items.map write)).flatMap Piece.chars) (List.map key)
      (fun rest => ends rest ∧ ¬word.toList <+: rest) := by
  -- Behind the first part there is a list of words that are followed by a part.
  have others : Legible valid (fun a => word.toList ++ (write a).flatMap Piece.chars) key ends := by
    intro a b r s validA validB hr hs same
    simp only [List.append_assoc] at same
    exact part validA validB hr hs (List.append_cancel_left same)
  have next (a : α) (rest : List Char) :
      ends (word.toList ++ (write a).flatMap Piece.chars ++ rest) := by
    rw [List.append_assoc]
    exact between _
  have behind {rest : List Char} (no : ¬word.toList <+: rest) (a : α) (t : List Char) :
      rest ≠ word.toList ++ (write a).flatMap Piece.chars ++ t := by
    rintro rfl
    rw [List.append_assoc] at no
    exact no (List.prefix_append ..)
  intro items items' r s validItems validItems' hr hs same
  obtain ⟨a, items, rfl⟩ := List.exists_cons_of_ne_nil validItems.1
  obtain ⟨b, items', rfl⟩ := List.exists_cons_of_ne_nil validItems'.1
  obtain ⟨validA, validRest⟩ := List.forall_mem_cons.1 validItems.2
  obtain ⟨validB, validRest'⟩ := List.forall_mem_cons.1 validItems'.2
  simp only [chars_separated_cons, List.append_assoc] at same
  obtain ⟨first, same⟩ := part validA validB (Text.ends_flatMap_append next items hr.1)
    (Text.ends_flatMap_append next items' hs.1) same
  obtain ⟨rest, tail⟩ := others.flatMap next validRest validRest' ⟨hr.1, behind hr.2⟩
    ⟨hs.1, behind hs.2⟩ same
  exact ⟨by rw [List.map_cons, List.map_cons, first, rest], tail⟩

/-- A clause is legible in front of what starts neither like a further part nor like the clause. -/
theorem legible_clause {α κ : Type} {valid : α → Prop} {write : α → List Piece} {key : α → κ}
    {ends : List Char → Prop} {word separator : String}
    (part : Legible valid (fun a => (write a).flatMap Piece.chars) key ends)
    (between : ∀ rest, ends (separator.toList ++ rest)) :
    Legible (fun items : List α => ∀ a ∈ items, valid a)
      (fun items => (clause word separator (items.map write)).flatMap Piece.chars) (List.map key)
      (fun rest => ends rest ∧ ¬separator.toList <+: rest ∧ ¬word.toList <+: rest) := by
  have given (a : α) (items : List α) :
      (clause word separator ((a :: items).map write)).flatMap Piece.chars =
        word.toList ++ (separated separator ((a :: items).map write)).flatMap Piece.chars := by
    rw [clause, if_neg (by simp), List.flatMap_cons]
    rfl
  intro items items' r s validItems validItems' hr hs same
  -- A clause that is left out is told from one that is not by the word of the clause.
  cases items with
  | nil =>
    cases items' with
    | nil => exact ⟨rfl, same⟩
    | cons b items' =>
      refine absurd ?_ hr.2.2
      simp only [given, List.append_assoc] at same
      exact ⟨_, same.symm⟩
  | cons a items =>
    cases items' with
    | nil =>
      refine absurd ?_ hs.2.2
      simp only [given, List.append_assoc] at same
      exact ⟨_, same⟩
    | cons b items' =>
      simp only [given, List.append_assoc] at same
      exact legible_separated part between ⟨List.cons_ne_nil a items, validItems⟩
        ⟨List.cons_ne_nil b items', validItems'⟩ ⟨hr.1, hr.2.1⟩ ⟨hs.1, hs.2.1⟩
        (List.append_cancel_left same)

/-! ## Results, joins, orders and cuts -/

/-- A position of the result. -/
def item : SelectedColumn ⊕ Aggregate → List Piece :=
  Sum.elim selected aggregate

/-- What of a position of the result stands in a query. -/
def itemKey : SelectedColumn ⊕ Aggregate →
    ((String × String) × Option String) ⊕ (AggregateKind × List (String × String) × String) :=
  Sum.map selectedKey aggregateKey

/-- A selected column is not read where there is an aggregate. -/
theorem chars_selected_ne_chars_aggregate (selection : SelectedColumn) (expr : Aggregate)
    (r s : List Char) :
    (selected selection).flatMap Piece.chars ++ r ≠ (aggregate expr).flatMap Piece.chars ++ s := by
  rw [chars_selected_append, chars_column_append, chars_aggregate_append]
  cases expr.kind <;> simp [quotedName, AggregateKind.function]

/-- A position of the result is legible, if it has the columns that it needs. -/
theorem legible_item :
    Legible (fun position => ∀ expr : Aggregate, position = .inr expr →
        expr.sources.length = expr.kind.arity)
      (fun position => (item position).flatMap Piece.chars) itemKey EndsAlias := by
  intro a b r s validA validB hr hs same
  cases a with
  | inl a =>
    cases b with
    | inl b =>
      obtain ⟨keys, rest⟩ := legible_selected trivial trivial hr hs same
      exact ⟨congrArg Sum.inl keys, rest⟩
    | inr b => exact (chars_selected_ne_chars_aggregate _ _ _ _ same).elim
  | inr a =>
    cases b with
    | inl b => exact (chars_selected_ne_chars_aggregate _ _ _ _ same.symm).elim
    | inr b =>
      obtain ⟨keys, rest⟩ := legible_aggregate (validA a rfl) (validB b rfl) hr.1 hs.1 same
      exact ⟨congrArg Sum.inr keys, rest⟩

/-- A join is its words, a table, and the two columns of its condition. -/
theorem chars_join_append (clause : Join) (rest : List Char) :
    (join clause).flatMap Piece.chars ++ rest = (joinWord clause.kind).toList ++
      ((table clause.target).flatMap Piece.chars ++ (" ON ".toList ++
        ((column clause.left).flatMap Piece.chars ++ (" = ".toList ++
          ((column clause.right).flatMap Piece.chars ++ rest))))) := by
  simp [join, Piece.chars]

/-- The words of a join tell its kind. -/
theorem joinWord_append_inj {a b : JoinKind} {r s : List Char}
    (same : (joinWord a).toList ++ r = (joinWord b).toList ++ s) : a = b ∧ r = s := by
  cases a <;> cases b <;> simp_all [joinWord]

/-- What of a join stands in a query. -/
def joinKey (clause : Join) : JoinKind × TableScope × (String × String) × (String × String) :=
  (clause.kind, clause.target, clause.left.place, clause.right.place)

/-- A join is legible. -/
theorem legible_join :
    Legible (fun _ => True) (fun clause => (join clause).flatMap Piece.chars) joinKey EndsName := by
  intro a b r s _ _ hr hs same
  have on (rest : List Char) : EndsAlias (" ON ".toList ++ rest) := by simp [EndsAlias, EndsName]
  have equals (rest : List Char) : EndsName (" = ".toList ++ rest) := by simp [EndsName]
  simp only [chars_join_append] at same
  obtain ⟨kinds, same⟩ := joinWord_append_inj same
  obtain ⟨targets, same⟩ := legible_table trivial trivial (on _) (on _) same
  obtain ⟨lefts, same⟩ := legible_column trivial trivial (equals _) (equals _)
    (List.append_cancel_left same)
  obtain ⟨rights, rest⟩ := legible_column trivial trivial hr hs (List.append_cancel_left same)
  exact ⟨Prod.ext kinds (Prod.ext targets (Prod.ext lefts rights)), rest⟩

/-- The word of a direction tells it. -/
theorem directionWord_append_inj {a b : Direction} {r s : List Char}
    (same : (directionWord a).toList ++ r = (directionWord b).toList ++ s) : a = b ∧ r = s := by
  cases a <;> cases b <;> simp_all [directionWord]

/-- What of an aim of the order stands in a query. -/
def targetKey : OrderTarget → (String × String) ⊕ String
  | .column ref => .inl ref.place
  | .outputAlias name => .inr name

/-- What of a term of the order stands in a query. -/
def orderKey (term : OrderTerm) : ((String × String) ⊕ String) × Direction :=
  (targetKey term.target, term.direction)

/-- A term of the order is a column or an alias, and the word of its direction. -/
theorem chars_orderTerm_append (term : OrderTerm) (rest : List Char) :
    (orderTerm term).flatMap Piece.chars ++ rest = (match term.target with
      | .column ref => (column ref).flatMap Piece.chars
      | .outputAlias name => quotedName name) ++
        ((directionWord term.direction).toList ++ rest) := by
  obtain ⟨target, direction⟩ := term
  cases target <;> simp [orderTerm, Piece.chars]

/-- A term of the order is legible in front of anything, as its direction ends it. -/
theorem legible_orderTerm :
    Legible (fun _ => True) (fun term => (orderTerm term).flatMap Piece.chars) orderKey
      (fun _ => True) := by
  intro a b r s _ _ _ _ same
  have ends (direction : Direction) (rest : List Char) :
      EndsName ((directionWord direction).toList ++ rest) := by
    cases direction <;> simp [EndsName, directionWord]
  have point (rest : List Char) : EndsName ('.' :: rest) := by simp [EndsName]
  -- A point behind the first name is a column, a blank is an alias.
  have other (direction : Direction) (rest rest' : List Char) :
      '.' :: rest ≠ (directionWord direction).toList ++ rest' := by
    cases direction <;> simp [directionWord]
  obtain ⟨targetA, directionA⟩ := a
  obtain ⟨targetB, directionB⟩ := b
  simp only [chars_orderTerm_append] at same
  cases targetA with
  | column refA =>
    cases targetB with
    | column refB =>
      obtain ⟨columns, same⟩ := legible_column trivial trivial (ends _ _) (ends _ _) same
      obtain ⟨directions, rest⟩ := directionWord_append_inj same
      exact ⟨Prod.ext (congrArg Sum.inl columns) directions, rest⟩
    | outputAlias nameB =>
      simp only [chars_column_append] at same
      exact (other _ _ _ (legible_quotedName trivial trivial (point _) (ends _ _) same).2).elim
  | outputAlias nameA =>
    cases targetB with
    | column refB =>
      simp only [chars_column_append] at same
      exact (other _ _ _ (legible_quotedName trivial trivial (ends _ _) (point _) same).2.symm).elim
    | outputAlias nameB =>
      obtain ⟨names, same⟩ := legible_quotedName trivial trivial (ends _ _) (ends _ _) same
      obtain ⟨directions, rest⟩ := directionWord_append_inj same
      exact ⟨Prod.ext (congrArg Sum.inr names) directions, rest⟩

/-- A text that does not start with a digit. -/
def EndsNumber (rest : List Char) : Prop :=
  ∀ c ∈ rest.head?, c.isDigit = false

/-- A number is the digits in front of what is no digit. -/
theorem takeWhile_number_append (n : UInt64) {rest : List Char} (ends : EndsNumber rest) :
    ((Piece.number n).chars ++ rest).takeWhile Char.isDigit = (Piece.number n).chars := by
  rw [List.takeWhile_append_of_pos fun c mem => isDigit_of_mem_number mem]
  cases rest with
  | nil => simp
  | cons c rest =>
    have other : c.isDigit = false := ends c rfl
    simp [other]

/-- A number is legible in front of anything but a digit. -/
theorem legible_number :
    Legible (fun _ => True) (fun n => (Piece.number n).chars) id EndsNumber := by
  intro a b r s _ _ hr hs same
  -- Both numbers are the digits in front of the same text.
  have digits : (Piece.number a).chars = (Piece.number b).chars := by
    rw [← takeWhile_number_append a hr, ← takeWhile_number_append b hs, same]
  have numbers : a.toNat = b.toNat := by
    rw [← Nat.ofDigitChars_ten_toDigits (n := a.toNat),
      ← Nat.ofDigitChars_ten_toDigits (n := b.toNat)]
    exact congrArg (Nat.ofDigitChars 10 · 0) digits
  dsimp only at same
  rw [digits] at same
  exact ⟨UInt64.toNat_inj.1 numbers, List.append_cancel_left same⟩

/-- The cut at the start of the result. -/
def start : Option UInt64 → List Piece
  | some offset => [.word " OFFSET ", .number offset]
  | none => []

/-- What cuts the start of the result is its word and a number. -/
theorem chars_start_some (offset : UInt64) :
    (start (some offset)).flatMap Piece.chars =
      " OFFSET ".toList ++ (Piece.number offset).chars := by
  simp [start, Piece.chars]

/-- What cuts the start of the result is no digit. -/
theorem endsNumber_start (offset : Option UInt64) :
    EndsNumber ((start offset).flatMap Piece.chars) := by
  cases offset with
  | none => simp [EndsNumber, start]
  | some offset => simp [EndsNumber, chars_start_some]

/-- The cut at the start of the result can be read from its text. -/
theorem start_inj {offset offset' : Option UInt64}
    (same : (start offset).flatMap Piece.chars = (start offset').flatMap Piece.chars) :
    offset = offset' := by
  have ends : EndsNumber [] := by simp [EndsNumber]
  cases offset with
  | none =>
    cases offset' with
    | none => rfl
    | some offset' => simp [start, Piece.chars] at same
  | some offset =>
    cases offset' with
    | none => simp [start, Piece.chars] at same
    | some offset' =>
      rw [chars_start_some, chars_start_some] at same
      have digits := congrArg (· ++ []) (List.append_cancel_left same)
      exact congrArg some (legible_number trivial trivial ends ends digits).1

/-- A cut is nothing, or a limit, which is -1 if only the start is cut, and the cut at the
start. -/
theorem chars_window (limit offset : Option UInt64) :
    (window limit offset).flatMap Piece.chars = match limit with
      | some limit => " LIMIT ".toList ++
          ((Piece.number limit).chars ++ (start offset).flatMap Piece.chars)
      | none => if offset = none then []
          else " LIMIT ".toList ++ ('-' :: '1' :: (start offset).flatMap Piece.chars) := by
  cases limit with
  | none => cases offset <;> simp [window, start, Piece.chars]
  | some limit => cases offset <;> simp [window, start, Piece.chars]

/-- A number is not read where there is a minus. -/
theorem number_append_ne_minus (n : UInt64) (r s : List Char) :
    (Piece.number n).chars ++ r ≠ '-' :: s := by
  intro same
  cases written : (Piece.number n).chars with
  | nil => exact Nat.toDigits_ne_nil written
  | cons c rest =>
    rw [written, List.cons_append] at same
    have digit : c.isDigit := isDigit_of_mem_number (n := n) (by rw [written]; simp)
    rw [(List.cons.inj same).1] at digit
    exact absurd digit (by decide)

/-- A limit is not read where there is none. -/
theorem chars_window_some_ne_none (limit : UInt64) (offset offset' : Option UInt64) :
    (window (some limit) offset).flatMap Piece.chars ≠
      (window none offset').flatMap Piece.chars := by
  rw [chars_window, chars_window]
  intro same
  cases offset' with
  | none => simp at same
  | some offset' =>
    rw [if_neg (Option.some_ne_none offset')] at same
    exact number_append_ne_minus _ _ _ (List.append_cancel_left same)

/-- The cut of a result can be read from its text. -/
theorem window_inj {limit limit' offset offset' : Option UInt64}
    (same : (window limit offset).flatMap Piece.chars =
      (window limit' offset').flatMap Piece.chars) : limit = limit' ∧ offset = offset' := by
  cases limit with
  | none =>
    cases limit' with
    | none =>
      refine ⟨rfl, start_inj ?_⟩
      rw [chars_window, chars_window] at same
      cases offset <;> cases offset' <;> simp_all [start]
    -- A missing limit is written as -1 or not at all, and neither is a number of digits.
    | some limit' => exact (chars_window_some_ne_none _ _ _ same.symm).elim
  | some limit =>
    cases limit' with
    | none => exact (chars_window_some_ne_none _ _ _ same).elim
    | some limit' =>
      rw [chars_window, chars_window] at same
      obtain ⟨limits, offsets⟩ := legible_number trivial trivial (endsNumber_start _)
        (endsNumber_start _) (List.append_cancel_left same)
      exact ⟨congrArg some limits, start_inj offsets⟩

end Sql

end TypedQuery
