import TypedQuery.Proofs.Draft.Conditions
import TypedQuery.Proofs.Sql.Alignment
import TypedQuery.Proofs.Sql.Brackets

/-!
# Conditions side by side

The conditions of a query stand in brackets, with AND between two. A reader finds each of them by
looking for the bracket that closes it (`Sql.conjuncts?`), and it finds the conditions that the plan
has, and the tail of the query behind them, just if each condition is self-contained. Conditions on
columns always are. Conditions in the store's language are taken over as they are, and the steps
count the placeholders in them but do not look where their quotes and brackets end, so it is up to
the one who writes them: `Plan.separates_iff_of_ofSteps`.
-/

namespace TypedQuery

namespace Sql

/-! ## Reading conditions -/

/-- Reads conditions behind their first bracket: the text before the bracket that closes it, and
further conditions if AND and another bracket follow. What is left behind the last is returned as
well. -/
def conjuncts? (text : List Char) : Option (List (List Char) × List Char) :=
  match _found : Text.enclosed? .outside text with
  | none => none
  | some (condition, rest) =>
    match _more : " AND (".toList.isPrefixOf? rest with
    | none => some ([condition], rest)
    | some next =>
      (conjuncts? next).map fun (conditions, rest) => (condition :: conditions, rest)
termination_by text.length
decreasing_by
  rw [(Text.enclosed?_eq_some_iff.1 _found).2, ← List.isPrefixOf?_eq_some_iff_append_eq.1 _more]
  simp only [List.length_append, List.length_cons]
  omega

/-- Reads the conditions in front of a text, of which there are none if no WHERE is there, and
returns what is left behind them. -/
def conditions? (text : List Char) : Option (List (List Char) × List Char) :=
  match " WHERE (".toList.isPrefixOf? text with
  | none => some ([], text)
  | some rest => conjuncts? rest

/-- Conditions as they are written behind their first bracket. -/
def conjunction : List (List Char) → List Char
  | [] => []
  | [condition] => condition ++ [')']
  | condition :: rest => condition ++ ')' :: (" AND (".toList ++ conjunction rest)

/-- The text before the bracket that closes conditions is self-contained. -/
theorem enclosed?_outside_eq_some_iff {text condition rest : List Char} :
    Text.enclosed? .outside text = some (condition, rest) ↔
      Text.SelfContained condition ∧ text = condition ++ ')' :: rest := by
  rw [Text.enclosed?_eq_some_iff, Text.selfContained_iff]

/-- Every condition that is read is self-contained. -/
theorem selfContained_of_conjuncts? {text rest : List Char} {conditions : List (List Char)}
    (read : conjuncts? text = some (conditions, rest)) :
    ∀ condition ∈ conditions, Text.SelfContained condition := by
  fun_induction conjuncts? text generalizing conditions rest with
  | case1 text missing => simp at read
  | case2 text condition last found _ =>
    obtain ⟨rfl, -⟩ := Prod.mk.inj (Option.some.inj read)
    exact List.forall_mem_singleton.2 (enclosed?_outside_eq_some_iff.1 found).1
  | case3 text condition last found next more ih =>
    obtain ⟨⟨others, behind⟩, later, same⟩ := Option.map_eq_some_iff.1 read
    obtain ⟨rfl, -⟩ := Prod.mk.inj same
    exact List.forall_mem_cons.2 ⟨(enclosed?_outside_eq_some_iff.1 found).1, ih later⟩

/-- The last condition is the one behind which no other follows. -/
theorem conjuncts?_last {text condition rest : List Char}
    (found : Text.enclosed? .outside text = some (condition, rest))
    (behind : " AND (".toList.isPrefixOf? rest = none) :
    conjuncts? text = some ([condition], rest) := by
  rw [conjuncts?]
  split
  · next missing => simp [found] at missing
  · next other last again =>
    obtain ⟨rfl, rfl⟩ := Prod.mk.inj (Option.some.inj (found.symm.trans again))
    split
    · rfl
    · next next more => exact absurd (behind.symm.trans more) (by simp)

/-- A condition behind which another follows is read before those. -/
theorem conjuncts?_more {text condition rest next : List Char}
    (found : Text.enclosed? .outside text = some (condition, rest))
    (more : " AND (".toList.isPrefixOf? rest = some next) :
    conjuncts? text =
      (conjuncts? next).map fun (conditions, rest) => (condition :: conditions, rest) := by
  rw [conjuncts?]
  split
  · next missing => simp [found] at missing
  · next other last again =>
    obtain ⟨rfl, rfl⟩ := Prod.mk.inj (Option.some.inj (found.symm.trans again))
    split
    · next behind => exact absurd (more.symm.trans behind) (by simp)
    · next same =>
      obtain rfl := Option.some.inj (more.symm.trans same)
      rfl

/-- Self-contained conditions are read as they are written. -/
theorem conjuncts?_conjunction {conditions : List (List Char)} {rest : List Char}
    (given : conditions ≠ []) (behind : " AND (".toList.isPrefixOf? rest = none)
    (contained : ∀ condition ∈ conditions, Text.SelfContained condition) :
    conjuncts? (conjunction conditions ++ rest) = some (conditions, rest) := by
  fun_induction conjunction conditions with
  | case1 => exact absurd rfl given
  | case2 condition =>
    refine conjuncts?_last (enclosed?_outside_eq_some_iff.2 ⟨?_, by simp⟩) behind
    exact contained condition List.mem_cons_self
  | case3 condition conditions others ih =>
    obtain ⟨first, later⟩ := List.forall_mem_cons.1 contained
    -- The bracket behind the first condition is the one that is found, since nothing in it is open.
    have found : Text.enclosed? .outside
        (condition ++ ')' :: (" AND (".toList ++ conjunction conditions) ++ rest) =
        some (condition, " AND (".toList ++ (conjunction conditions ++ rest)) :=
      enclosed?_outside_eq_some_iff.2 ⟨first, by simp⟩
    rw [conjuncts?_more found (List.isPrefixOf?_eq_some_iff_append_eq.2 rfl), ih others later]
    rfl

/-! ## Positions of conditions -/

/-- The placed conditions of two lists of pieces are those of the first, and those of the second
behind its text. -/
theorem placed_append (start : Nat) (pieces rest : List Piece) :
    placed start (pieces ++ rest) =
      placed start pieces ++ placed (start + (pieces.flatMap Piece.chars).length) rest := by
  induction pieces generalizing start with
  | nil => simp [placed]
  | cons piece pieces ih =>
    rw [List.cons_append, placed, ih, placed, List.append_assoc, List.flatMap_cons,
      List.length_append, Nat.add_assoc]

/-- In pieces without conditions none is placed. -/
theorem placed_eq_nil {pieces : List Piece} (start : Nat)
    (plain : ∀ piece ∈ pieces, piece.IsPlain) : placed start pieces = [] := by
  rw [← List.map_eq_nil_iff (f := Prod.snd), map_snd_placed, List.filterMap_eq_nil_iff]
  exact fun piece mem => (plain piece mem).1

/-- The conditions in brackets, with a word between two. -/
def bracketed (predicates : List Predicate) : List Piece :=
  separated " AND " (predicates.map condition)

/-- One condition stands alone. -/
theorem bracketed_singleton (predicate : Predicate) :
    bracketed [predicate] = condition predicate :=
  rfl

/-- The first of several conditions stands in front of the word and the others. -/
theorem bracketed_cons_cons (predicate next : Predicate) (rest : List Predicate) :
    bracketed (predicate :: next :: rest) =
      condition predicate ++ .word " AND " :: bracketed (next :: rest) :=
  rfl

/-- A condition is written between two brackets. -/
theorem chars_condition (predicate : Predicate) :
    (condition predicate).flatMap Piece.chars = '(' :: predicate.text.toList ++ [')'] := by
  simp [condition, Piece.chars]

/-- Behind the first bracket, conditions are written as a conjunction. -/
theorem chars_bracketed {predicates : List Predicate} (given : predicates ≠ []) :
    (bracketed predicates).flatMap Piece.chars =
      '(' :: conjunction (predicates.map (·.text.toList)) := by
  induction predicates with
  | nil => exact absurd rfl given
  | cons predicate rest ih =>
    cases rest with
    | nil => exact chars_condition predicate
    | cons next rest =>
      have others := ih (List.cons_ne_nil next rest)
      rw [bracketed_cons_cons, List.flatMap_append, List.flatMap_cons, others, chars_condition]
      simp [conjunction, Piece.chars]

/-- Self-contained conditions start where one bracket is open, whatever text is behind them. -/
theorem afterText?_of_mem_placed_bracketed {predicates : List Predicate} {start : Nat}
    (contained : ∀ predicate ∈ predicates, Text.SelfContained predicate.text.toList)
    {entry : Nat × String} (mem : entry ∈ placed start (bracketed predicates))
    (behind : List Char) :
    start ≤ entry.1 ∧ Text.Nest.outside.afterText?
      (((bracketed predicates).flatMap Piece.chars ++ behind).take (entry.1 - start)) =
        some ⟨none, 1⟩ := by
  induction predicates generalizing start with
  | nil => simp [bracketed, separated, placed] at mem
  | cons predicate rest ih =>
    obtain ⟨first, others⟩ := List.forall_mem_cons.1 contained
    have own : placed start (condition predicate) = [(start + 1, predicate.text)] := rfl
    have opening : Text.Nest.outside.afterText? ['('] = some ⟨none, 1⟩ := rfl
    cases rest with
    | nil =>
      rw [bracketed_singleton, own, List.mem_singleton] at mem
      subst mem
      rw [bracketed_singleton, chars_condition, Nat.add_sub_cancel_left]
      exact ⟨Nat.le_add_right .., opening⟩
    | cons next rest =>
      have between : Text.SelfContained (Piece.word " AND ").chars := by decide
      have front := first.enclose.append between
      rw [bracketed_cons_cons, placed_append, own, List.singleton_append, List.mem_cons] at mem
      rw [bracketed_cons_cons, List.flatMap_append, List.flatMap_cons, chars_condition,
        ← List.append_assoc]
      rcases mem with rfl | later
      · rw [Nat.add_sub_cancel_left]
        exact ⟨Nat.le_add_right .., opening⟩
      · -- The scanner comes out of the first condition and the word where it went in.
        obtain ⟨after, inside⟩ := ih others later
        rw [chars_condition] at after inside
        refine ⟨by omega, ?_⟩
        rw [List.append_assoc, front.afterText?_take_append _ (by rw [List.length_append]; omega),
          ← inside, List.length_append, ← Nat.sub_sub, ← Nat.sub_sub, ← Nat.sub_sub]

end Sql

namespace Plan

/-- The conditions of a plan, as texts. -/
def conditionTexts (plan : Plan) : List (List Char) :=
  plan.predicates.map (·.text.toList)

/-- The cut of the result is nothing, or starts with its word. -/
theorem window_cases (limit offset : Option UInt64) :
    Sql.window limit offset = [] ∨
      " LIMIT ".toList <+: (Sql.window limit offset).flatMap Sql.Piece.chars := by
  unfold Sql.window
  split
  · exact .inr ⟨_, rfl⟩
  · exact .inr ⟨_, rfl⟩
  · exact .inr ⟨_, rfl⟩
  · exact .inl rfl

/-- The tail of a query is nothing, or starts with the word of a clause. -/
theorem tailChars_cases (plan : Plan) :
    plan.tailChars = [] ∨ ∃ word ∈ [" GROUP BY ", " ORDER BY ", " LIMIT "],
      word.toList <+: plan.tailChars := by
  unfold tailChars tailPieces Sql.clause
  split
  · split
    · rcases window_cases plan.limit plan.offset with none | cut
      · exact .inl (by rw [none]; rfl)
      · exact .inr ⟨_, by simp, cut⟩
    · exact .inr ⟨" ORDER BY ", by simp, _, rfl⟩
  · exact .inr ⟨" GROUP BY ", by simp, _, rfl⟩

/-- No further condition and no WHERE is read in front of the tail of a query. -/
theorem isPrefixOf?_tailChars (plan : Plan) :
    " AND (".toList.isPrefixOf? plan.tailChars = none ∧
      " WHERE (".toList.isPrefixOf? plan.tailChars = none := by
  rcases plan.tailChars_cases with empty | ⟨word, listed, rest, same⟩
  · rw [empty]
    exact ⟨rfl, rfl⟩
  · rw [← same]
    simp only [List.mem_cons, List.not_mem_nil, or_false] at listed
    rcases listed with rfl | rfl | rfl <;> exact ⟨rfl, rfl⟩

/-- The conditions of a query are a conjunction behind WHERE and a bracket, or nothing. -/
theorem whereChars_eq (plan : Plan) :
    plan.whereChars = if plan.predicates = [] then []
      else " WHERE (".toList ++ Sql.conjunction plan.conditionTexts := by
  unfold whereChars wherePieces Sql.clause
  by_cases none : plan.predicates = []
  · simp [none]
  · rw [if_neg (by simpa using none), if_neg none, List.flatMap_cons]
    exact congrArg (" WHERE ".toList ++ ·) (Sql.chars_bracketed none)

/-- Self-contained conditions are read as the plan has them, up to the tail of the query. -/
theorem conditions?_whereChars {plan : Plan}
    (contained : ∀ condition ∈ plan.conditionTexts, Text.SelfContained condition) :
    Sql.conditions? (plan.whereChars ++ plan.tailChars) =
      some (plan.conditionTexts, plan.tailChars) := by
  obtain ⟨behind, missing⟩ := plan.isPrefixOf?_tailChars
  rw [whereChars_eq]
  split
  · next none =>
    rw [List.nil_append, Sql.conditions?, missing, conditionTexts, none]
    rfl
  · next given =>
    have front := List.append_assoc " WHERE (".toList (Sql.conjunction plan.conditionTexts)
      plan.tailChars
    rw [Sql.conditions?, List.isPrefixOf?_eq_some_iff_append_eq.2 front.symm]
    exact Sql.conjuncts?_conjunction (by simpa [conditionTexts] using given) behind contained

/-- Every condition that is read is self-contained. -/
theorem selfContained_of_conditions? {text rest : List Char} {conditions : List (List Char)}
    (read : Sql.conditions? text = some (conditions, rest)) :
    ∀ condition ∈ conditions, Text.SelfContained condition := by
  unfold Sql.conditions? at read
  split at read
  · obtain ⟨rfl, -⟩ := Prod.mk.inj (Option.some.inj read)
    simp
  · exact Sql.selfContained_of_conjuncts? read

/-- The conditions of a query are self-contained, if each is. -/
theorem selfContained_whereChars {plan : Plan}
    (contained : ∀ condition ∈ plan.conditionTexts, Text.SelfContained condition) :
    Text.SelfContained plan.whereChars := by
  refine Sql.selfContained_clause (by decide) (by decide) (List.forall_mem_map.2 ?_)
  intro predicate mem
  rw [Sql.chars_condition]
  exact (contained _ (List.mem_map_of_mem mem)).enclose

/-- Self-contained conditions of a query start where one bracket is open. -/
theorem afterText?_of_mem_placed_wherePieces {plan : Plan} {start : Nat}
    (contained : ∀ condition ∈ plan.conditionTexts, Text.SelfContained condition)
    {entry : Nat × String} (mem : entry ∈ Sql.placed start plan.wherePieces)
    (behind : List Char) :
    start ≤ entry.1 ∧ Text.Nest.outside.afterText?
      ((plan.whereChars ++ behind).take (entry.1 - start)) = some ⟨none, 1⟩ := by
  have word : Text.SelfContained (Sql.Piece.word " WHERE ").chars := by decide
  unfold whereChars wherePieces Sql.clause at *
  split at mem
  · simp [Sql.placed] at mem
  · next given =>
    obtain ⟨after, inside⟩ := Sql.afterText?_of_mem_placed_bracketed
      (List.forall_mem_map.1 contained) mem behind
    refine ⟨by omega, ?_⟩
    rw [if_neg given, List.flatMap_cons, List.append_assoc,
      word.afterText?_take_append _ (by omega), ← inside, ← Nat.sub_sub]
    rfl

/-- The text of a compiled query is its head, its conditions and its tail. -/
theorem toList_sql_of_compile {plan : Plan} {query : CompiledQuery}
    (compiled : plan.compile = .ok query) :
    query.sql.toList = plan.headChars ++ plan.whereChars ++ plan.tailChars := by
  obtain ⟨-, -, rfl⟩ := compile_eq_ok_iff.1 compiled
  rw [toList_sql_query, pieces_eq, List.flatMap_append, List.flatMap_append]
  rfl

/-- How the text of a query is read, if each of its conditions stays by itself. -/
structure Separates (plan : Plan) (query : CompiledQuery) : Prop where
  /-- The text starts with the head. -/
  head : plan.headChars <+: query.sql.toList
  /-- A reader finds the conditions of the plan behind the head, and the tail behind those. -/
  conditions : Sql.conditions? (query.sql.toList.drop plan.headChars.length) =
    some (plan.conditionTexts, plan.tailChars)
  /-- Where a condition starts, one bracket and no quote is open. -/
  inside : ∀ entry ∈ Sql.placed 0 plan.pieces,
    Text.Nest.outside.afterText? (query.sql.toList.take entry.1) = some ⟨none, 1⟩
  /-- Where the tail starts, no bracket and no quote is open. -/
  behind : Text.Nest.outside.afterText?
    (query.sql.toList.take (query.sql.toList.length - plan.tailChars.length)) = some .outside

/-- The conditions of a compiled query are read as they are in the plan just if each of them is
self-contained. -/
theorem separates_iff_of_compile {plan : Plan} {query : CompiledQuery}
    (compiled : plan.compile = .ok query) :
    plan.Separates query ↔
      ∀ condition ∈ plan.conditionTexts, Text.SelfContained condition := by
  have text := toList_sql_of_compile compiled
  refine ⟨fun separates => selfContained_of_conditions? separates.conditions, fun contained => ?_⟩
  have head := plan.selfContained_headChars
  have conditions := selfContained_whereChars contained
  constructor
  · rw [text, List.append_assoc]
    exact List.prefix_append ..
  · rw [text, List.append_assoc, List.drop_left]
    exact conditions?_whereChars contained
  · intro entry mem
    -- Conditions are placed only in the middle of the three parts.
    rw [pieces_eq, Sql.placed_append, Sql.placed_append, Sql.placed_eq_nil _ plan.isPlain_head,
      Sql.placed_eq_nil _ plan.isPlain_tail, List.nil_append, List.append_nil, Nat.zero_add] at mem
    obtain ⟨after, inside⟩ := afterText?_of_mem_placed_wherePieces contained mem plan.tailChars
    rw [text, List.append_assoc, head.afterText?_take_append _ after]
    exact inside
  · rw [text, List.length_append, Nat.add_sub_cancel, List.take_left]
    exact Text.selfContained_iff.1 (head.append conditions)

end Plan

/-- A column as it is written is self-contained. -/
theorem ColumnRef.selfContained_chars (ref : ColumnRef) : Text.SelfContained ref.chars := by
  have point : Text.SelfContained ['.'] := by decide
  exact (Text.selfContained_quotedName _).append
    (point.append (Text.selfContained_quotedName _))

/-- A condition that a body takes is self-contained, if the conditions in the store's language
are. -/
theorem Draft.Body.Takes.selfContained {raw : String → Prop} {body : Body} {predicate : Predicate}
    (taken : body.Takes raw predicate)
    (contained : ∀ fragment, raw fragment → Text.SelfContained fragment.toList) :
    Text.SelfContained predicate.text.toList := by
  cases taken with
  | raw fragment params given worded unnamed counted => exact contained fragment given
  | equality ref value resolved =>
    have sign : Text.SelfContained [' ', '=', ' ', '?'] := by decide
    rw [Predicate.toList_text_equality]
    exact ref.selfContained_chars.append sign
  | search ref term resolved =>
    have function : Text.SelfContained "LOWER".toList := by decide
    have back : Text.SelfContained " LIKE ? ESCAPE '\\'".toList := by decide
    have whole := function.append (ref.selfContained_chars.enclose.append back)
    rw [Predicate.toList_text_search]
    simpa using whole

/-- The conditions of a plan are self-contained, if those in the store's language are. -/
theorem Plan.selfContained_conditionTexts {registry : Registry} {steps : List Step} {plan : Plan}
    (contained : ∀ fragment params, Step.whereRaw fragment params ∈ steps →
      Text.SelfContained fragment.toList)
    (built : Plan.ofSteps registry steps = .ok plan) :
    ∀ condition ∈ plan.conditionTexts, Text.SelfContained condition := by
  obtain ⟨-, body, limit, offset, grown, rfl⟩ := Plan.grown_of_ofSteps built
  refine List.forall_mem_map.2 fun predicate mem => ?_
  have taken := Draft.Body.takes_of_mem_predicates grown predicate mem
  exact taken.selfContained fun fragment ⟨params, listed⟩ => contained fragment params listed

/-- The conditions of a compiled query are read as they are in the plan, each by itself and none
into the tail, just if every condition in the store's language is self-contained. -/
theorem Plan.separates_iff_of_ofSteps {registry : Registry} {steps : List Step} {plan : Plan}
    {query : CompiledQuery} (built : Plan.ofSteps registry steps = .ok plan)
    (compiled : plan.compile = .ok query) :
    plan.Separates query ↔ ∀ fragment params, Step.whereRaw fragment params ∈ steps →
      Text.SelfContained fragment.toList := by
  rw [separates_iff_of_compile compiled]
  refine ⟨fun contained fragment params listed => ?_, fun contained => ?_⟩
  · exact contained _ (List.mem_map_of_mem (Plan.mem_predicates_of_whereRaw built listed))
  · exact Plan.selfContained_conditionTexts contained built

namespace Office

/-- The conditions of the query of the office are read as they are in its plan. -/
theorem separates_plan :
    Plan.ofSteps registry steps = .ok plan ∧ plan.compile = .ok plan.query ∧
      plan.Separates plan.query := by
  have built : Plan.ofSteps registry steps = .ok plan := rfl
  refine ⟨built, compile_plan, (Plan.separates_iff_of_ofSteps built compile_plan).2 ?_⟩
  intro fragment params listed
  obtain ⟨rfl, -⟩ : fragment = "(note = 'it''s (?' OR note = ?)" ∧ params = [.text "x"] := by
    simpa [steps] using listed
  decide

/-- Steps with a condition that closes the bracket around it and opens another one. -/
def straySteps : List Step := [
  .selectFrom "staff",
  .whereRaw "id = 1) OR (id = 2" [],
  .whereEq "id" (.integer 3)]

/-- The plan that they lead to. -/
def strayPlan : Plan where
  source := ⟨"staff", none⟩
  columns := [
    ⟨staff "staff" "id" .integer false, none⟩,
    ⟨staff "staff" "boss" .integer true, none⟩,
    ⟨staff "staff" "name" .text true, none⟩]
  joins := []
  predicates := [
    ⟨"id = 1) OR (id = 2", []⟩,
    ⟨"\"staff\".\"id\" = ?", [.integer 3]⟩]
  groupBy := []
  aggregates := []
  orderBy := []
  limit := none
  offset := none

/-- A condition in the store's language is taken although it is not self-contained, and then the
query is not read as the plan has it: in `WHERE (id = 1) OR (id = 2) AND ("staff"."id" = ?)` the
second condition of the plan does not hold for all rows. -/
theorem not_separates_strayPlan :
    Plan.ofSteps registry straySteps = .ok strayPlan ∧
      Step.whereRaw "id = 1) OR (id = 2" [] ∈ straySteps ∧
      ¬Text.SelfContained "id = 1) OR (id = 2".toList ∧
      strayPlan.compile = .ok strayPlan.query ∧ ¬strayPlan.Separates strayPlan.query := by
  have open' : ¬Text.SelfContained "id = 1) OR (id = 2".toList := by decide
  have compiled : strayPlan.compile = .ok strayPlan.query :=
    Plan.compile_eq_ok_iff.2 ⟨by decide, List.cons_ne_nil _ _, rfl⟩
  refine ⟨rfl, by simp [straySteps], open', compiled, ?_⟩
  rw [Plan.separates_iff_of_compile compiled]
  intro contained
  exact open' (contained _ (by simp [Plan.conditionTexts, strayPlan]))

end Office

end TypedQuery
