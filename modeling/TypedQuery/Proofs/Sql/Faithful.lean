import TypedQuery.Proofs.Sql.Conjunction
import TypedQuery.Proofs.Sql.LegibleClauses

/-!
# Queries determine their plans

Two plans over one registry with the same query are the same plan. The text is read from the start:
the result, the tables, the conditions, the groups, the order and the cut
(`Plan.showsAs_of_compile`). It shows a column only by its scope and its name, but both plans are
well scoped and have the same scopes, so the registry says the rest
(`Plan.WellScoped.eq_of_place_eq`). The values come as one list, and each condition takes as many of
them as its text has placeholders.

Conditions in the store's language must be self-contained, since no reader could tell where others
end. Conditions on columns always are.
-/

namespace TypedQuery

namespace Plan

/-! ## What a query shows of its plan -/

/-- Two plans have queries that look alike. -/
structure ShowsAs (plan other : Plan) : Prop where
  source : plan.source = other.source
  columns : plan.columns.map Sql.selectedKey = other.columns.map Sql.selectedKey
  joins : plan.joins.map Sql.joinKey = other.joins.map Sql.joinKey
  conditions : plan.conditionTexts = other.conditionTexts
  groupBy : plan.groupBy.map ColumnRef.place = other.groupBy.map ColumnRef.place
  aggregates : plan.aggregates.map Sql.aggregateKey = other.aggregates.map Sql.aggregateKey
  orderBy : plan.orderBy.map Sql.orderKey = other.orderBy.map Sql.orderKey
  limit : plan.limit = other.limit
  offset : plan.offset = other.offset

/-- The positions of the result of a plan. -/
def items (plan : Plan) : List (SelectedColumn ⊕ Aggregate) :=
  plan.columns.map .inl ++ plan.aggregates.map .inr

/-- What stands of the result of a plan are its selected columns and its aggregates. -/
theorem map_itemKey_items (plan : Plan) :
    plan.items.map Sql.itemKey = (plan.columns.map Sql.selectedKey).map .inl ++
      (plan.aggregates.map Sql.aggregateKey).map .inr := by
  simp [items, Sql.itemKey, Function.comp_def]

/-- The head of a query is its result, its tables, and its joins. -/
theorem headChars_append (plan : Plan) (rest : List Char) :
    plan.headChars ++ rest = "SELECT ".toList ++
      ((Sql.separated ", " (plan.items.map Sql.item)).flatMap Sql.Piece.chars ++
        (" FROM ".toList ++ ((Sql.table plan.source).flatMap Sql.Piece.chars ++
          (plan.joins.flatMap (fun clause => (Sql.join clause).flatMap Sql.Piece.chars) ++
            rest)))) := by
  have parts : plan.items.map Sql.item =
      plan.columns.map Sql.selected ++ plan.aggregates.map Sql.aggregate := by
    simp [items, Sql.item, Function.comp_def]
  rw [parts]
  simp [headChars, headPieces, Sql.Piece.chars, List.flatMap_assoc]

/-- A text that is empty or starts with the word of a clause behind the tables. -/
def StartsClause (rest : List Char) : Prop :=
  rest = [] ∨ ∃ word ∈ [" WHERE ", " GROUP BY ", " ORDER BY ", " LIMIT "], word.toList <+: rest

/-- Behind the head of a query there is nothing or a clause. -/
theorem startsClause_whereChars_append (plan : Plan) :
    StartsClause (plan.whereChars ++ plan.tailChars) := by
  rw [whereChars_eq]
  split
  · rcases plan.tailChars_cases with empty | ⟨word, listed, starts⟩
    · exact .inl (by rw [empty]; rfl)
    · exact .inr ⟨word, List.mem_cons_of_mem _ listed, starts⟩
  · exact .inr ⟨" WHERE ", List.mem_cons_self, by simp⟩

/-- No alias and no join is read where a clause starts. -/
theorem StartsClause.ends {rest : List Char} (starts : StartsClause rest) :
    Sql.EndsAlias rest ∧
      ∀ (clause : Join) (behind : List Char),
        rest ≠ (Sql.join clause).flatMap Sql.Piece.chars ++ behind := by
  simp only [Sql.chars_join_append]
  rcases starts with rfl | ⟨word, listed, rest, rfl⟩
  · refine ⟨by simp [Sql.EndsAlias, Text.EndsName], fun clause behind => ?_⟩
    cases clause.kind <;> simp [Sql.joinWord]
  · simp only [List.mem_cons, List.not_mem_nil, or_false] at listed
    rcases listed with rfl | rfl | rfl | rfl
    all_goals
      refine ⟨by simp [Sql.EndsAlias, Text.EndsName], fun clause behind => ?_⟩
      cases clause.kind <;> simp [Sql.joinWord]

/-- The head of a query can be read in front of a clause. -/
theorem headChars_append_inj {plan other : Plan} {r s : List Char}
    (given : plan.items ≠ []) (given' : other.items ≠ [])
    (arity : ∀ expr ∈ plan.aggregates, expr.sources.length = expr.kind.arity)
    (arity' : ∀ expr ∈ other.aggregates, expr.sources.length = expr.kind.arity)
    (hr : StartsClause r) (hs : StartsClause s)
    (same : plan.headChars ++ r = other.headChars ++ s) :
    plan.items.map Sql.itemKey = other.items.map Sql.itemKey ∧ plan.source = other.source ∧
      plan.joins.map Sql.joinKey = other.joins.map Sql.joinKey ∧ r = s := by
  have valid {plan : Plan}
      (arity : ∀ expr ∈ plan.aggregates, expr.sources.length = expr.kind.arity) :
      ∀ position ∈ plan.items, ∀ expr : Aggregate, position = .inr expr →
        expr.sources.length = expr.kind.arity := by
    rintro _ mem expr rfl
    exact arity expr (by simpa [items] using mem)
  have comma (rest : List Char) : Sql.EndsAlias (", ".toList ++ rest) := by
    simp [Sql.EndsAlias, Text.EndsName]
  have tables (rest : List Char) :
      Sql.EndsAlias (" FROM ".toList ++ rest) ∧ ¬", ".toList <+: " FROM ".toList ++ rest := by
    simp [Sql.EndsAlias, Text.EndsName]
  have joining (clause : Join) (rest : List Char) :
      Sql.EndsAlias ((Sql.join clause).flatMap Sql.Piece.chars ++ rest) := by
    rw [Sql.chars_join_append]
    cases clause.kind <;> simp [Sql.EndsAlias, Text.EndsName, Sql.joinWord]
  -- From the start on, each part is read and leaves the text behind it.
  rw [headChars_append, headChars_append] at same
  obtain ⟨keys, same⟩ := Sql.legible_separated Sql.legible_item comma ⟨given, valid arity⟩
    ⟨given', valid arity'⟩ (tables _) (tables _) (List.append_cancel_left same)
  obtain ⟨sources, same⟩ := Sql.legible_table trivial trivial
    (Text.ends_flatMap_append joining _ hr.ends.1) (Text.ends_flatMap_append joining _ hs.ends.1)
    (List.append_cancel_left same)
  obtain ⟨joins, rest⟩ := Sql.legible_join.flatMap (fun clause rest => (joining clause rest).1)
    (fun _ _ => trivial) (fun _ _ => trivial) ⟨hr.ends.1.1, hr.ends.2⟩ ⟨hs.ends.1.1, hs.ends.2⟩ same
  exact ⟨keys, sources, joins, rest⟩

/-- The text of the order of a query. -/
def orderChars (plan : Plan) : List Char :=
  (Sql.clause " ORDER BY " ", " (plan.orderBy.map Sql.orderTerm)).flatMap Sql.Piece.chars

/-- The text of the cut of a query. -/
def cutChars (plan : Plan) : List Char :=
  (Sql.window plan.limit plan.offset).flatMap Sql.Piece.chars

/-- The tail of a query is its groups, its order and its cut. -/
theorem tailChars_eq (plan : Plan) :
    plan.tailChars =
      (Sql.clause " GROUP BY " ", " (plan.groupBy.map Sql.column)).flatMap Sql.Piece.chars ++
        (plan.orderChars ++ plan.cutChars) := by
  simp [tailChars, tailPieces, orderChars, cutChars]

/-- The cut of a query starts neither like a further term of the order nor like an order. -/
theorem cutChars_ends (plan : Plan) :
    Text.EndsName plan.cutChars ∧ ¬", ".toList <+: plan.cutChars ∧
      ¬" ORDER BY ".toList <+: plan.cutChars ∧ ¬" GROUP BY ".toList <+: plan.cutChars := by
  unfold cutChars
  rcases window_cases plan.limit plan.offset with none | ⟨rest, same⟩
  · simp [none, Text.EndsName]
  · simp [← same, Text.EndsName]

/-- The order and the cut start neither like a further group nor like groups. -/
theorem orderChars_ends (plan : Plan) :
    Text.EndsName (plan.orderChars ++ plan.cutChars) ∧
      ¬", ".toList <+: plan.orderChars ++ plan.cutChars ∧
      ¬" GROUP BY ".toList <+: plan.orderChars ++ plan.cutChars := by
  obtain ⟨name, comma, -, group⟩ := plan.cutChars_ends
  unfold orderChars Sql.clause
  split
  · exact ⟨name, comma, group⟩
  · simp [Sql.Piece.chars, Text.EndsName]

/-- The groups, the order and the cut of a query can be read from its tail. -/
theorem tailChars_inj {plan other : Plan} (same : plan.tailChars = other.tailChars) :
    plan.groupBy.map ColumnRef.place = other.groupBy.map ColumnRef.place ∧
      plan.orderBy.map Sql.orderKey = other.orderBy.map Sql.orderKey ∧
      plan.limit = other.limit ∧ plan.offset = other.offset := by
  have comma (rest : List Char) : Text.EndsName (", ".toList ++ rest) := by
    simp [Text.EndsName]
  have term (plan : Plan) : True ∧ ¬", ".toList <+: plan.cutChars ∧
      ¬" ORDER BY ".toList <+: plan.cutChars :=
    ⟨trivial, plan.cutChars_ends.2.1, plan.cutChars_ends.2.2.1⟩
  rw [tailChars_eq, tailChars_eq] at same
  obtain ⟨groups, same⟩ := Sql.legible_clause Sql.legible_column comma (fun _ _ => trivial)
    (fun _ _ => trivial) plan.orderChars_ends other.orderChars_ends same
  obtain ⟨orders, same⟩ := Sql.legible_clause Sql.legible_orderTerm (fun _ => trivial)
    (fun _ _ => trivial) (fun _ _ => trivial) (term plan) (term other) same
  exact ⟨groups, orders, Sql.window_inj same⟩

/-- Selected columns and aggregates can be told apart in one list. -/
theorem inl_append_inr_inj {α β : Type} {xs xs' : List α} {ys ys' : List β}
    (same : xs.map Sum.inl ++ ys.map Sum.inr = xs'.map Sum.inl ++ ys'.map Sum.inr) :
    xs = xs' ∧ ys = ys' := by
  have left := congrArg (List.filterMap Sum.getLeft?) same
  have right := congrArg (List.filterMap Sum.getRight?) same
  simp only [List.filterMap_append, List.filterMap_map, Function.comp_def, Sum.getLeft?_inl,
    Sum.getLeft?_inr, Sum.getRight?_inl, Sum.getRight?_inr] at left right
  exact ⟨by simpa using left, by simpa using right⟩

/-- Queries of one text show the same of their plans. -/
theorem showsAs_of_compile {plan other : Plan} {query query' : CompiledQuery}
    (arity : ∀ expr ∈ plan.aggregates, expr.sources.length = expr.kind.arity)
    (arity' : ∀ expr ∈ other.aggregates, expr.sources.length = expr.kind.arity)
    (contained : ∀ condition ∈ plan.conditionTexts, Text.SelfContained condition)
    (contained' : ∀ condition ∈ other.conditionTexts, Text.SelfContained condition)
    (compiled : plan.compile = .ok query) (compiled' : other.compile = .ok query')
    (sql : query.sql = query'.sql) : plan.ShowsAs other := by
  have given {plan : Plan} {query : CompiledQuery} (compiled : plan.compile = .ok query) :
      plan.items ≠ [] := by
    obtain ⟨-, selected, -⟩ := compile_eq_ok_iff.1 compiled
    simpa [outputColumns, items] using selected
  have same : plan.headChars ++ (plan.whereChars ++ plan.tailChars) =
      other.headChars ++ (other.whereChars ++ other.tailChars) := by
    rw [← List.append_assoc, ← List.append_assoc, ← toList_sql_of_compile compiled,
      ← toList_sql_of_compile compiled', sql]
  obtain ⟨items, source, joins, same⟩ := headChars_append_inj (given compiled) (given compiled')
    arity arity' plan.startsClause_whereChars_append other.startsClause_whereChars_append same
  -- One reader reads the conditions of both, up to the tails.
  have read := (conditions?_whereChars contained).symm
  rw [same, conditions?_whereChars contained', Option.some.injEq, Prod.mk.injEq] at read
  rw [map_itemKey_items, map_itemKey_items] at items
  obtain ⟨columns, aggregates⟩ := inl_append_inr_inj items
  obtain ⟨groupBy, orderBy, limit, offset⟩ := tailChars_inj read.2
  exact ⟨source, columns, joins, read.1, groupBy, aggregates, orderBy, limit, offset⟩

end Plan

/-! ## What the registry says of it -/

/-- Lists that look alike are equal, if their elements that look alike are. -/
theorem eq_of_map_eq {α β : Type} {f : α → β} {l l' : List α} (same : l.map f = l'.map f)
    (inj : ∀ a ∈ l, ∀ b ∈ l', f a = f b → a = b) : l = l' := by
  induction l generalizing l' with
  | nil => exact (List.map_eq_nil_iff.1 same.symm).symm
  | cons a l ih =>
    cases l' with
    | nil => simp at same
    | cons b l' =>
      obtain ⟨first, rest⟩ := List.cons.inj same
      have others := ih rest fun a mem b mem' =>
        inj a (List.mem_cons_of_mem _ mem) b (List.mem_cons_of_mem _ mem')
      rw [inj a List.mem_cons_self b List.mem_cons_self first, others]

/-- What the registry says of a column depends on its scope and its name only. -/
theorem ColumnRef.DescribedBy.eq {registry : Registry} {scope : TableScope} {a b : ColumnRef}
    (hA : a.DescribedBy registry scope) (hB : b.DescribedBy registry scope)
    (names : a.column = b.column) : a = b := by
  obtain ⟨scopeA, tableA, table, column, found, named, typeA, nullableA⟩ := hA
  obtain ⟨scopeB, tableB, table', column', found', named', typeB, nullableB⟩ := hB
  obtain rfl := Option.some.inj (found.symm.trans found')
  obtain rfl := Option.some.inj (named.symm.trans (names ▸ named'))
  cases a
  cases b
  simp_all

/-- Selected columns that look alike are equal, if their columns are. -/
theorem SelectedColumn.eq_of_key_eq {a b : SelectedColumn}
    (same : Sql.selectedKey a = Sql.selectedKey b)
    (columns : a.column.place = b.column.place → a.column = b.column) : a = b := by
  obtain ⟨places, aliases⟩ := Prod.mk.inj same
  cases a
  cases b
  exact (SelectedColumn.mk.injEq ..).mpr ⟨columns places, aliases⟩

/-- Joins that look alike are equal, if the columns of their conditions are. -/
theorem Join.eq_of_key_eq {a b : Join} (same : Sql.joinKey a = Sql.joinKey b)
    (left : a.left.place = b.left.place → a.left = b.left)
    (right : a.right.place = b.right.place → a.right = b.right) : a = b := by
  simp only [Sql.joinKey, Prod.mk.injEq] at same
  obtain ⟨kinds, targets, lefts, rights⟩ := same
  cases a
  cases b
  exact (Join.mk.injEq ..).mpr ⟨kinds, targets, left lefts, right rights⟩

/-- Aggregates that look alike are equal, if their columns are. -/
theorem Aggregate.eq_of_key_eq {a b : Aggregate} (same : Sql.aggregateKey a = Sql.aggregateKey b)
    (sources : ∀ refA ∈ a.sources, ∀ refB ∈ b.sources, refA.place = refB.place → refA = refB) :
    a = b := by
  simp only [Sql.aggregateKey, Prod.mk.injEq] at same
  obtain ⟨kinds, places, aliases⟩ := same
  cases a
  cases b
  exact (Aggregate.mk.injEq ..).mpr ⟨kinds, eq_of_map_eq places sources, aliases⟩

/-- Terms of an order that look alike are equal, if their columns are. -/
theorem OrderTerm.eq_of_key_eq {a b : OrderTerm} (same : Sql.orderKey a = Sql.orderKey b)
    (columns : ∀ refA refB, a.target.column? = some refA → b.target.column? = some refB →
      refA.place = refB.place → refA = refB) : a = b := by
  obtain ⟨targetA, directionA⟩ := a
  obtain ⟨targetB, directionB⟩ := b
  obtain ⟨aims, directions⟩ := Prod.mk.inj same
  refine (OrderTerm.mk.injEq ..).mpr ⟨?_, directions⟩
  cases targetA with
  | column refA =>
    cases targetB with
    | column refB => exact congrArg _ (columns refA refB rfl rfl (Sum.inl.inj aims))
    | outputAlias nameB => simp [Sql.targetKey] at aims
  | outputAlias nameA =>
    cases targetB with
    | column refB => simp [Sql.targetKey] at aims
    | outputAlias nameB => exact congrArg _ (Sum.inr.inj aims)

namespace Plan

variable {registry : Registry} {plan other : Plan}

/-- The references of a plan are those of its parts. -/
theorem mem_refs {ref : ColumnRef} :
    ref ∈ plan.refs ↔ (∃ selected ∈ plan.columns, selected.column = ref) ∨
      (∃ join ∈ plan.joins, ref = join.left ∨ ref = join.right) ∨ ref ∈ plan.groupBy ∨
      (∃ expr ∈ plan.aggregates, ref ∈ expr.sources) ∨
      ∃ term ∈ plan.orderBy, term.target.column? = some ref := by
  simp [refs]

/-- In two plans with the same scopes, references of one scope and one name are the same. -/
theorem WellScoped.eq_of_place_eq (ours : plan.WellScoped registry)
    (theirs : other.WellScoped registry) (scopes : plan.scopes = other.scopes) {a b : ColumnRef}
    (hA : a ∈ plan.refs) (hB : b ∈ other.refs) (same : a.place = b.place) : a = b := by
  obtain ⟨scope, listed, described⟩ := ours.described a hA
  obtain ⟨scope', listed', described'⟩ := theirs.described b hB
  obtain ⟨scopeNames, names⟩ := Prod.mk.inj same
  -- The scopes are the same and have distinct names, so the name determines the scope.
  have one : scope = scope' := by
    refine List.inj_on_of_nodup_map ours.distinct listed (scopes ▸ listed') ?_
    rw [← described.scope_eq, ← described'.scope_eq, scopeNames]
  exact described.eq (one ▸ described') names

/-- Plans that look alike and are well scoped agree in all but their conditions. -/
theorem ShowsAs.eq_of_wellScoped (shown : plan.ShowsAs other) (ours : plan.WellScoped registry)
    (theirs : other.WellScoped registry) :
    { plan with predicates := [] } = { other with predicates := [] } := by
  have targets : plan.joins.map (·.target) = other.joins.map (·.target) := by
    simpa [Sql.joinKey, Function.comp_def] using congrArg (List.map (·.2.1)) shown.joins
  have scopes : plan.scopes = other.scopes := by
    rw [Plan.scopes, Plan.scopes, shown.source, targets]
  have refs {a b : ColumnRef} (hA : a ∈ plan.refs) (hB : b ∈ other.refs)
      (same : a.place = b.place) : a = b :=
    ours.eq_of_place_eq theirs scopes hA hB same
  simp only [mem_refs] at refs
  have columns : plan.columns = other.columns :=
    eq_of_map_eq shown.columns fun a memA b memB same =>
      SelectedColumn.eq_of_key_eq same (refs (.inl ⟨a, memA, rfl⟩) (.inl ⟨b, memB, rfl⟩))
  have joins : plan.joins = other.joins :=
    eq_of_map_eq shown.joins fun a memA b memB same =>
      Join.eq_of_key_eq same
        (refs (.inr (.inl ⟨a, memA, .inl rfl⟩)) (.inr (.inl ⟨b, memB, .inl rfl⟩)))
        (refs (.inr (.inl ⟨a, memA, .inr rfl⟩)) (.inr (.inl ⟨b, memB, .inr rfl⟩)))
  have groupBy : plan.groupBy = other.groupBy :=
    eq_of_map_eq shown.groupBy fun a memA b memB =>
      refs (.inr (.inr (.inl memA))) (.inr (.inr (.inl memB)))
  have aggregates : plan.aggregates = other.aggregates :=
    eq_of_map_eq shown.aggregates fun a memA b memB same =>
      Aggregate.eq_of_key_eq same fun refA listedA refB listedB =>
        refs (.inr (.inr (.inr (.inl ⟨a, memA, listedA⟩))))
          (.inr (.inr (.inr (.inl ⟨b, memB, listedB⟩))))
  have orderBy : plan.orderBy = other.orderBy :=
    eq_of_map_eq shown.orderBy fun a memA b memB same =>
      OrderTerm.eq_of_key_eq same fun refA refB isA isB =>
        refs (.inr (.inr (.inr (.inr ⟨a, memA, isA⟩)))) (.inr (.inr (.inr (.inr ⟨b, memB, isB⟩))))
  rw [shown.source, columns, joins, groupBy, aggregates, orderBy, shown.limit, shown.offset]

/-- Two plans agree, except that the values of their conditions are only related. -/
structure Agrees (R : Value → Value → Prop) (plan other : Plan) : Prop where
  predicates : List.Forall₂ (fun predicate predicate' => predicate.text = predicate'.text ∧
    List.Forall₂ R predicate.params predicate'.params) plan.predicates other.predicates
  rest : { plan with predicates := [] } = { other with predicates := [] }

/-- Plans that agree with equal values are equal. -/
theorem Agrees.eq (agrees : Agrees (· = ·) plan other) : plan = other := by
  have predicates : plan.predicates = other.predicates := by
    rw [← List.forall₂_eq_eq_eq]
    refine agrees.predicates.imp fun predicate predicate' related => ?_
    obtain ⟨texts, params⟩ := related
    rw [List.forall₂_eq_eq_eq] at params
    cases predicate
    cases predicate'
    exact (Predicate.mk.injEq ..).mpr ⟨texts, params⟩
  have rest := agrees.rest
  cases plan
  cases other
  simp_all

/-- One list of values is distributed over conditions of the same texts in one way, as each takes
as many as it has placeholders. -/
theorem forall₂_of_flatMap_params {R : Value → Value → Prop} {predicates others : List Predicate}
    (texts : predicates.map (·.text.toList) = others.map (·.text.toList))
    (balanced : ∀ predicate ∈ predicates, predicate.placeholders = predicate.params.length)
    (balanced' : ∀ predicate ∈ others, predicate.placeholders = predicate.params.length)
    (params : List.Forall₂ R (predicates.flatMap (·.params)) (others.flatMap (·.params))) :
    List.Forall₂ (fun predicate predicate' => predicate.text = predicate'.text ∧
      List.Forall₂ R predicate.params predicate'.params) predicates others := by
  induction predicates generalizing others with
  | nil =>
    obtain rfl := List.map_eq_nil_iff.1 texts.symm
    exact .nil
  | cons predicate predicates ih =>
    cases others with
    | nil => simp at texts
    | cons other others =>
      obtain ⟨text, texts⟩ := List.cons.inj texts
      obtain ⟨own, balanced⟩ := List.forall_mem_cons.1 balanced
      obtain ⟨own', balanced'⟩ := List.forall_mem_cons.1 balanced'
      have text : predicate.text = other.text := String.toList_inj.1 text
      have length : predicate.params.length = other.params.length := by
        rw [← own, ← own', Predicate.placeholders, Predicate.placeholders, text]
      rw [List.flatMap_cons, List.flatMap_cons] at params
      -- The first conditions have one text, so they take equally many values.
      have first := List.forall₂_take predicate.params.length params
      have later := List.forall₂_drop predicate.params.length params
      rw [List.take_left, length, List.take_left] at first
      rw [List.drop_left, length, List.drop_left] at later
      exact .cons ⟨text, first⟩ (ih texts balanced balanced' later)

/-- Plans of one query agree, with the values of their conditions related as the two lists are. -/
theorem agrees_of_sql_eq {R : Value → Value → Prop} {query query' : CompiledQuery}
    (ours : plan.WellScoped registry) (theirs : other.WellScoped registry)
    (contained : ∀ condition ∈ plan.conditionTexts, Text.SelfContained condition)
    (contained' : ∀ condition ∈ other.conditionTexts, Text.SelfContained condition)
    (compiled : plan.compile = .ok query) (compiled' : other.compile = .ok query')
    (sql : query.sql = query'.sql) (params : List.Forall₂ R query.params query'.params) :
    plan.Agrees R other := by
  have shown := showsAs_of_compile ours.arity theirs.arity contained contained' compiled compiled'
    sql
  obtain ⟨balanced, -, rfl⟩ := compile_eq_ok_iff.1 compiled
  obtain ⟨balanced', -, rfl⟩ := compile_eq_ok_iff.1 compiled'
  exact ⟨forall₂_of_flatMap_params shown.conditions balanced balanced' params,
    shown.eq_of_wellScoped ours theirs⟩

/-- Plans over one registry that compile to one text and equal values are equal, whatever their
tables, columns and aliases are called, if each condition in the store's language is self-contained,
as it is if there is none. If the values are only equal by `Value.same`, for which the two zeros are
one number, the plans are equal up to that. -/
theorem compile_injective {steps steps' : List Step} {query query' : CompiledQuery}
    (contained : ∀ fragment params, Step.whereRaw fragment params ∈ steps →
      Text.SelfContained fragment.toList)
    (contained' : ∀ fragment params, Step.whereRaw fragment params ∈ steps' →
      Text.SelfContained fragment.toList)
    (built : Plan.ofSteps registry steps = .ok plan)
    (built' : Plan.ofSteps registry steps' = .ok other)
    (compiled : plan.compile = .ok query) (compiled' : other.compile = .ok query')
    (sql : query.sql = query'.sql) :
    (query.params = query'.params → plan = other) ∧
      (List.Forall₂ (fun v w => v.same w) query.params query'.params →
        plan.Agrees (fun v w => v.same w) other) := by
  have whole := selfContained_conditionTexts contained built
  have whole' := selfContained_conditionTexts contained' built'
  have sound {steps : List Step} {plan : Plan} (built : Plan.ofSteps registry steps = .ok plan) :
      plan.WellScoped registry := by
    obtain ⟨grouped, body, limit, offset, grown, rfl⟩ := Plan.grown_of_ofSteps built
    exact Draft.Body.wellScoped_toPlan grown grouped
  have agrees {R : Value → Value → Prop} (params : List.Forall₂ R query.params query'.params) :
      plan.Agrees R other :=
    agrees_of_sql_eq (sound built) (sound built') whole whole' compiled compiled' sql params
  refine ⟨fun params => ?_, agrees⟩
  rw [← List.forall₂_eq_eq_eq] at params
  exact (agrees params).eq

end Plan

namespace Office

/-- A count of the staff of each boss by their notes, with names as short as they can be. -/
def shortSteps : List Step := [
  .selectFrom "staff",
  .join .inner ⟨"a \"b\" (?)", none⟩ "person" "id",
  .selectColumns ["boss"],
  .whereContains "note" "A?",
  .aggregate .countAll [] "n",
  .groupBy ["boss"],
  .orderBy "n" .descending,
  .offset 2]

/-- The same count, with the scopes of the columns and with the aggregate in words. -/
def longSteps : List Step := [
  .selectFrom " staff ",
  .join .inner ⟨"a \"b\" (?)", none⟩ "person" "staff.id",
  .selectColumns ["staff.boss"],
  .aggregateSpec .count "* AS n",
  .offset 2,
  .groupBy ["staff.boss"],
  .whereContains "note" "a?",
  .orderBy "n" .descending]

/-- The plan of the count. -/
def countPlan : Plan where
  source := ⟨"staff", none⟩
  columns := [⟨staff "staff" "boss" .integer true, none⟩]
  joins := [⟨.inner, ⟨"a \"b\" (?)", none⟩, notes "person" .integer false,
    staff "staff" "id" .integer false⟩]
  predicates := [
    ⟨"LOWER(\"a \"\"b\"\" (?)\".\"note\") LIKE ? ESCAPE '\\'", [.text "%a?%"]⟩]
  groupBy := [staff "staff" "boss" .integer true]
  aggregates := [⟨.countAll, [], "n"⟩]
  orderBy := [⟨.outputAlias "n", .descending⟩]
  limit := none
  offset := some 2

/-- Both counts have one query and so one plan. -/
theorem countPlan_eq :
    Plan.ofSteps registry shortSteps = .ok countPlan ∧
      Plan.ofSteps registry longSteps = .ok countPlan ∧
      countPlan.compile = .ok countPlan.query ∧
      Plan.ofSteps registry shortSteps = Plan.ofSteps registry longSteps ∧
      countPlan.Agrees (fun v w => v.same w) countPlan := by
  have short : ∀ fragment params, Step.whereRaw fragment params ∈ shortSteps →
      Text.SelfContained fragment.toList := by simp [shortSteps]
  have long : ∀ fragment params, Step.whereRaw fragment params ∈ longSteps →
      Text.SelfContained fragment.toList := by simp [longSteps]
  have built : Plan.ofSteps registry shortSteps = .ok countPlan := rfl
  have built' : Plan.ofSteps registry longSteps = .ok countPlan := rfl
  have compiled : countPlan.compile = .ok countPlan.query :=
    Plan.compile_eq_ok_iff.2 ⟨by decide, List.cons_ne_nil _ _, rfl⟩
  obtain ⟨equal, agrees⟩ :=
    Plan.compile_injective short long built built' compiled compiled rfl
  refine ⟨built, built', compiled, ?_, agrees (.cons rfl .nil)⟩
  rw [built, built', ← equal rfl]

end Office

end TypedQuery
