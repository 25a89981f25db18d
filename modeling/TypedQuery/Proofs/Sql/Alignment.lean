import Mathlib.Data.List.Basic
import TypedQuery.Proofs.Draft.Scoping
import TypedQuery.Proofs.Sql.Pieces

/-!
# Placeholders and values are aligned

A query is one text, and the store finds the placeholders in it by scanning it from the start. The
values come as one list. `Plan.aligned_of_ofSteps` says that the two go together: there are as many
placeholders as values, and the `k`-th placeholder is the one, inside the text of the condition that
the `k`-th value was given for, that it was given for.

The conditions must end outside quotes, which the steps do not check of conditions in the store's
language. Then every piece of the query ends outside quotes, so the placeholders of the whole are
those of the conditions, moved to where the conditions stand (`Sql.placeholders_chars`).
-/

namespace TypedQuery

/-- Two lists of parts with as many elements in each part of the one as in the other have as many
elements in all. -/
theorem length_flatMap_eq {α β γ δ : Type} {R : α → β → Prop} {f : α → List γ} {g : β → List δ}
    {xs : List α} {ys : List β} (pairs : List.Forall₂ R xs ys)
    (lengths : ∀ x y, R x y → (f x).length = (g y).length) :
    (xs.flatMap f).length = (ys.flatMap g).length := by
  induction pairs with
  | nil => rfl
  | cons related _ ih =>
    rw [List.flatMap_cons, List.flatMap_cons, List.length_append, List.length_append, ih,
      lengths _ _ related]

/-- In two lists of parts with as many elements in each part of the one as in the other, the `k`-th
elements of all are the `j`-th elements of the `i`-th parts. -/
theorem exists_getElem?_flatMap {α β γ δ : Type} {R : α → β → Prop} {f : α → List γ}
    {g : β → List δ} {xs : List α} {ys : List β} (pairs : List.Forall₂ R xs ys)
    (lengths : ∀ x y, R x y → (f x).length = (g y).length) {k : Nat}
    (h : k < (xs.flatMap f).length) :
    ∃ i j x y, xs[i]? = some x ∧ ys[i]? = some y ∧ R x y ∧ j < (f x).length ∧
      k = ((xs.take i).flatMap f).length + j ∧ (xs.flatMap f)[k]? = (f x)[j]? ∧
      (ys.flatMap g)[k]? = (g y)[j]? := by
  induction pairs generalizing k with
  | nil => simp at h
  | @cons x y xs ys related _ ih =>
    simp only [List.flatMap_cons, List.length_append] at h ⊢
    by_cases first : k < (f x).length
    · refine ⟨0, k, x, y, rfl, rfl, related, first, by simp, ?_, ?_⟩
      · exact List.getElem?_append_left first
      · exact List.getElem?_append_left (lengths x y related ▸ first)
    · -- An element behind the first parts is one of the others, counted from where those start.
      obtain ⟨i, j, x', y', hx, hy, related', hj, position, left, right⟩ :=
        ih (k := k - (f x).length) (by omega)
      refine ⟨i + 1, j, x', y', hx, hy, related', hj, ?_, ?_, ?_⟩
      · simp only [List.take_succ_cons, List.flatMap_cons, List.length_append]
        omega
      · rw [List.getElem?_append_right (by omega), left]
      · rw [List.getElem?_append_right (by rw [← lengths x y related]; omega),
          ← lengths x y related, right]

namespace Sql

/-- The conditions in a list of pieces, each with the position where its text starts in the text of
the pieces, which itself starts at a given position. -/
def placed (start : Nat) : List Piece → List (Nat × String)
  | [] => []
  | piece :: rest =>
    (piece.fragment?.map fun text => (start, text)).toList ++
      placed (start + piece.chars.length) rest

/-- The placed conditions are the conditions among the pieces, in their order. -/
theorem map_snd_placed (start : Nat) (pieces : List Piece) :
    (placed start pieces).map (·.2) = pieces.filterMap Piece.fragment? := by
  induction pieces generalizing start with
  | nil => rfl
  | cons piece rest ih =>
    rw [placed, List.map_append, ih, List.filterMap_cons]
    cases piece.fragment? <;> rfl

/-- The text of a piece that is a condition is the text of the condition. -/
theorem chars_of_fragment? {piece : Piece} {text : String} (is : piece.fragment? = some text) :
    piece.chars = text.toList := by
  cases piece with
  | fragment own => rw [Option.some.inj is.symm]; rfl
  | word _ => simp [Piece.fragment?] at is
  | name _ => simp [Piece.fragment?] at is
  | number _ => simp [Piece.fragment?] at is

/-- The text of a placed condition stands where the condition is placed. -/
theorem prefix_drop_of_mem_placed {start position : Nat} {pieces : List Piece} {text : String}
    (mem : (position, text) ∈ placed start pieces) :
    start ≤ position ∧ text.toList <+: (pieces.flatMap Piece.chars).drop (position - start) := by
  induction pieces generalizing start with
  | nil => simp [placed] at mem
  | cons piece rest ih =>
    rw [placed, List.mem_append] at mem
    rw [List.flatMap_cons]
    rcases mem with own | later
    · simp only [Option.mem_toList, Option.map_eq_some_iff, Prod.mk.injEq] at own
      obtain ⟨_, is, rfl, rfl⟩ := own
      rw [Nat.sub_self, List.drop_zero, chars_of_fragment? is]
      exact ⟨Nat.le_refl _, List.prefix_append ..⟩
    · obtain ⟨after, stands⟩ := ih later
      refine ⟨by omega, ?_⟩
      rw [show position - start =
          piece.chars.length + (position - (start + piece.chars.length)) by omega,
        List.drop_length_add_append]
      exact stands

/-- A piece that ends outside quotes, and has placeholders only if it is a condition. -/
def Piece.IsSteady (piece : Piece) : Prop :=
  Text.IsClosed piece.chars ∧ (piece.fragment? = none → Text.placeholders piece.chars = [])

/-- The placeholders of a text of steady pieces are those of its conditions, each moved to where its
condition stands. -/
theorem placeholders_chars {pieces : List Piece} (steady : ∀ piece ∈ pieces, piece.IsSteady)
    (start : Nat) :
    (Text.placeholders (pieces.flatMap Piece.chars)).map (start + ·) =
      (placed start pieces).flatMap fun entry =>
        (Text.placeholders entry.2.toList).map (entry.1 + ·) := by
  induction pieces generalizing start with
  | nil => rfl
  | cons piece rest ih =>
    obtain ⟨⟨closed, silent⟩, others⟩ := List.forall_mem_cons.1 steady
    have later := ih others (start + piece.chars.length)
    rw [List.flatMap_cons, Text.placeholders_append closed, List.map_append, List.map_map, placed,
      List.flatMap_append, ← later]
    congr 1
    · cases is : piece.fragment? with
      | none => rw [silent is]; rfl
      | some text => simp [chars_of_fragment? is]
    · refine List.map_congr_left fun position _ => ?_
      simp only [Function.comp_apply]
      omega

/-- A plain piece is steady. -/
theorem Piece.IsPlain.isSteady {piece : Piece} (plain : piece.IsPlain) : piece.IsSteady :=
  ⟨plain.2.1, fun _ => plain.2.2⟩

/-- The conditions among separated parts are those of the parts. -/
theorem filterMap_fragment?_separated (word : String) (parts : List (List Piece)) :
    (separated word parts).filterMap Piece.fragment? =
      parts.flatMap (·.filterMap Piece.fragment?) := by
  fun_induction separated word parts with
  | case1 => rfl
  | case2 pieces => simp
  | case3 pieces rest _ ih =>
    rw [List.filterMap_append, List.filterMap_cons, List.flatMap_cons, ih]
    rfl

end Sql

namespace Plan

/-- The conditions among the pieces of a query are those of the plan. -/
theorem filterMap_fragment?_pieces (plan : Plan) :
    plan.pieces.filterMap Sql.Piece.fragment? = plan.predicates.map (·.text) := by
  have head : plan.headPieces.filterMap Sql.Piece.fragment? = [] :=
    List.filterMap_eq_nil_iff.2 fun piece mem => (plan.isPlain_head piece mem).1
  have tail : plan.tailPieces.filterMap Sql.Piece.fragment? = [] :=
    List.filterMap_eq_nil_iff.2 fun piece mem => (plan.isPlain_tail piece mem).1
  rw [pieces_eq, List.filterMap_append, List.filterMap_append, head, tail, List.nil_append,
    List.append_nil, wherePieces, Sql.clause]
  split
  · next none => simp_all
  · rw [List.filterMap_cons, Sql.filterMap_fragment?_separated, List.flatMap_map,
      List.map_eq_flatMap]
    rfl

/-- If the conditions of a plan end outside quotes, all pieces of its query are steady. -/
theorem isSteady_pieces {plan : Plan}
    (closed : ∀ predicate ∈ plan.predicates, Text.IsClosed predicate.text.toList) :
    ∀ piece ∈ plan.pieces, piece.IsSteady := by
  rw [pieces_eq, List.forall_mem_append, List.forall_mem_append]
  refine ⟨⟨fun piece mem => (plan.isPlain_head piece mem).isSteady, ?_⟩,
    fun piece mem => (plan.isPlain_tail piece mem).isSteady⟩
  -- In the WHERE clause, what is not a condition is one of its words.
  have word (text : String) (plain : (Sql.Piece.word text).IsPlain) :
      (Sql.Piece.word text).IsSteady := plain.isSteady
  refine Sql.forall_mem_clause (word _ (by decide)) (word _ (by decide)) ?_
  refine List.forall_mem_map.2 fun predicate mem => ?_
  simp only [Sql.condition, List.forall_mem_cons]
  refine ⟨word _ (by decide), ⟨closed predicate mem, fun no => ?_⟩, word _ (by decide), by simp⟩
  simp [Sql.Piece.fragment?] at no

/-- What placeholders and values of a query owe each other. -/
structure Aligned (plan : Plan) (query : CompiledQuery) : Prop where
  /-- The scanner finds as many placeholders in the text as there are values. -/
  count : Text.placeholderCount query.sql = query.params.length
  /-- Each value is one of a condition, whose text stands somewhere in the query and has a
  placeholder for it, and that placeholder is the one of the whole text for it. -/
  owner : ∀ k < query.params.length, ∃ i j predicate start position,
    plan.predicates[i]? = some predicate ∧ j < predicate.params.length ∧
      k = ((plan.predicates.take i).flatMap (·.params)).length + j ∧
      query.params[k]? = predicate.params[j]? ∧
      (Sql.placed 0 plan.pieces)[i]? = some (start, predicate.text) ∧
      predicate.text.toList <+: query.sql.toList.drop start ∧
      (Text.placeholders predicate.text.toList)[j]? = some position ∧
      position < predicate.text.toList.length ∧
      (Text.placeholders query.sql.toList)[k]? = some (start + position)

/-- A compiled query is aligned if the conditions of the plan end outside quotes. -/
theorem aligned_of_compile {plan : Plan} {query : CompiledQuery}
    (closed : ∀ predicate ∈ plan.predicates, Text.IsClosed predicate.text.toList)
    (compiled : plan.compile = .ok query) : plan.Aligned query := by
  obtain ⟨balanced, -, rfl⟩ := compile_eq_ok_iff.1 compiled
  -- Placeholders and values are both lists of parts, one part for each condition.
  have whole : Text.placeholders (plan.pieces.flatMap Sql.Piece.chars) =
      (Sql.placed 0 plan.pieces).flatMap fun entry =>
        (Text.placeholders entry.2.toList).map (entry.1 + ·) := by
    simpa using Sql.placeholders_chars (isSteady_pieces closed) 0
  have texts : (Sql.placed 0 plan.pieces).map (·.2) = plan.predicates.map (·.text) :=
    (Sql.map_snd_placed 0 plan.pieces).trans plan.filterMap_fragment?_pieces
  have pairs : List.Forall₂ (fun (predicate : Predicate) entry => predicate ∈ plan.predicates ∧
      entry.2 = predicate.text) plan.predicates (Sql.placed 0 plan.pieces) := by
    rw [List.forall₂_and_left]
    refine ⟨fun predicate mem => mem, ?_⟩
    have same : List.Forall₂ (· = ·) ((Sql.placed 0 plan.pieces).map (·.2))
        (plan.predicates.map (·.text)) := by
      rw [texts]
      exact List.forall₂_refl _
    exact (List.forall₂_map_right_iff.1 (List.forall₂_map_left_iff.1 same)).flip
  have lengths (predicate : Predicate) (entry : Nat × String)
      (related : predicate ∈ plan.predicates ∧ entry.2 = predicate.text) :
      predicate.params.length =
        ((Text.placeholders entry.2.toList).map (entry.1 + ·)).length := by
    rw [List.length_map, related.2, Text.length_placeholders, ← balanced _ related.1,
      Predicate.placeholders]
  constructor
  · rw [← Text.length_placeholders, toList_sql_query, whole]
    exact (length_flatMap_eq pairs lengths).symm
  · intro k h
    obtain ⟨i, j, predicate, ⟨start, text⟩, inPlan, inQuery, related, hj, index, value,
      placeholder⟩ := exists_getElem?_flatMap pairs lengths h
    obtain ⟨-, rfl⟩ := related
    -- The condition has a placeholder for its `j`-th value, as it is balanced.
    have own : j < (Text.placeholders predicate.text.toList).length := by
      have needed := balanced predicate (List.mem_of_getElem? inPlan)
      rw [Predicate.placeholders] at needed
      rw [Text.length_placeholders, needed]
      exact hj
    have found := List.getElem?_eq_getElem own
    have stands := (Sql.prefix_drop_of_mem_placed (List.mem_of_getElem? inQuery)).2
    refine ⟨i, j, predicate, start, (Text.placeholders predicate.text.toList)[j], inPlan, hj, index,
      value, inQuery, ?_, found, Text.lt_length_of_mem_placeholders (List.getElem_mem own), ?_⟩
    · rw [toList_sql_query, ← Nat.sub_zero start]
      exact stands
    · rw [← whole, List.getElem?_map, found] at placeholder
      rw [toList_sql_query]
      exact placeholder

end Plan

/-- A column as it is written ends outside quotes. -/
theorem ColumnRef.isClosed_chars (ref : ColumnRef) : Text.IsClosed ref.chars := by
  have point : Text.IsClosed ['.'] := by decide
  exact (Text.isClosed_quotedName _).append (point.append (Text.isClosed_quotedName _))

/-- A condition that a body takes ends outside quotes, if the conditions in the store's language
do. -/
theorem Draft.Body.Takes.isClosed {raw : String → Prop} {body : Body} {predicate : Predicate}
    (taken : body.Takes raw predicate)
    (closed : ∀ fragment, raw fragment → Text.IsClosed fragment.toList) :
    Text.IsClosed predicate.text.toList := by
  cases taken with
  | raw fragment params given worded unnamed counted => exact closed fragment given
  | equality ref value resolved =>
    have sign : Text.IsClosed [' ', '=', ' ', '?'] := by decide
    rw [Predicate.toList_text_equality]
    exact ref.isClosed_chars.append sign
  | search ref term resolved =>
    have front : Text.IsClosed "LOWER(".toList := by decide
    have back : Text.IsClosed ") LIKE ? ESCAPE '\\'".toList := by decide
    rw [Predicate.toList_text_search]
    exact (front.append ref.isClosed_chars).append back

/-- The placeholders of a compiled query are aligned with its values, whatever the tables, columns
and aliases are called, if each condition in the store's language ends outside quotes. -/
theorem Plan.aligned_of_ofSteps {registry : Registry} {steps : List Step} {plan : Plan}
    {query : CompiledQuery}
    (closed : ∀ fragment params, Step.whereRaw fragment params ∈ steps →
      Text.IsClosed fragment.toList)
    (built : Plan.ofSteps registry steps = .ok plan) (compiled : plan.compile = .ok query) :
    plan.Aligned query := by
  obtain ⟨-, body, limit, offset, grown, rfl⟩ := Plan.grown_of_ofSteps built
  refine aligned_of_compile (fun predicate mem => ?_) compiled
  have taken := Draft.Body.takes_of_mem_predicates grown predicate mem
  exact taken.isClosed fun fragment ⟨params, listed⟩ => closed fragment params listed

namespace Office

/-- The plan compiles. -/
theorem compile_plan : plan.compile = .ok plan.query :=
  Plan.compile_eq_ok_iff.2 ⟨by decide, List.cons_ne_nil _ _, rfl⟩

/-- The query of the plan is aligned. -/
theorem aligned_plan :
    (∀ fragment params, Step.whereRaw fragment params ∈ steps → Text.IsClosed fragment.toList) ∧
      Plan.ofSteps registry steps = .ok plan ∧ plan.compile = .ok plan.query ∧
      plan.Aligned plan.query := by
  have closed : ∀ fragment params, Step.whereRaw fragment params ∈ steps →
      Text.IsClosed fragment.toList := by
    intro fragment params listed
    obtain ⟨rfl, -⟩ : fragment = "(note = 'it''s (?' OR note = ?)" ∧ params = [.text "x"] := by
      simpa [steps] using listed
    decide
  have built : Plan.ofSteps registry steps = .ok plan := rfl
  exact ⟨closed, built, compile_plan, Plan.aligned_of_ofSteps closed built compile_plan⟩

end Office

end TypedQuery
