import TypedQuery.Plan.Step
import TypedQuery.Proofs.Database.Window
import TypedQuery.Proofs.Sql.Lexing
import TypedQuery.Proofs.Sql.Pieces
import TypedQuery.Schema.TradingCompany

/-!
# The cut of a query

The text of a plan's query ends with the limit and the offset that the plan asks for, each written
as a number without a sign, and with a limit of minus one if there is an offset alone. The store
reads that text again, and takes only numbers with a sign that fit 64 bits for integers.

The text is read back to the numbers that the plan has (`Database.Window.ofText?_limit` and its
siblings). So the store selects the rows that the plan asks for as long as both numbers fit, and
fails beyond that (`Plan.selected?_cutText`); with a limit of zero it does not look at the offset.
The plan that is cut to its first row asks for the first of those rows (`Plan.asked_firstOnly`), and
its limit always fits. `Plan.selects_of_compile` says the same of the compiled queries.
-/

namespace TypedQuery

open Database

namespace Sql

/-- The text of a cut. -/
def windowText (limit offset : Option UInt64) : List Char :=
  (window limit offset).flatMap Piece.chars

/-! ## Tokens -/

/-- The end of a text is as good as a blank. -/
theorem blank_nil : ∀ c ∈ ([] : List Char).head?, isBlank c = true := by simp

/-- There is a blank in front of the word for an offset. -/
theorem blank_offset (rest : List Char) :
    ∀ c ∈ (" OFFSET ".toList ++ rest).head?, isBlank c = true := by
  simp [isBlank]

section Tokens

variable {rest : List Char} (blank : ∀ c ∈ rest.head?, isBlank c = true)

include blank

/-- A word and a number behind it are two tokens. -/
theorem tokensFrom_number_append (start : Nat) (c : Char) (own : List Char) (n : UInt64)
    (taken : extent c (own ++ ' ' :: ((Piece.number n).chars ++ rest)) = (.word, own.length))
    (first : isBlankAfterBlank c = false) :
    ∃ word number next,
      tokensFrom start (lexemes (' ' :: c :: own ++ ' ' :: ((Piece.number n).chars ++ rest))) =
        ⟨⟨.word, c :: own⟩, word⟩ :: ⟨⟨.number, (Piece.number n).chars⟩, number⟩ ::
          tokensFrom next (lexemes rest) := by
  rw [lexemes_word_digits_append taken first (fun _ mem => isDigit_of_mem_number mem)
    Nat.toDigits_ne_nil blank]
  exact ⟨_, _, _, rfl⟩

/-- A limit is the word for it and a number. -/
theorem tokensFrom_limit_append (n : UInt64) :
    ∃ word number next,
      tokensFrom 0 (lexemes (" LIMIT ".toList ++ ((Piece.number n).chars ++ rest))) =
        ⟨⟨.word, "LIMIT".toList⟩, word⟩ :: ⟨⟨.number, (Piece.number n).chars⟩, number⟩ ::
          tokensFrom next (lexemes rest) :=
  tokensFrom_number_append blank 0 'L' "IMIT".toList n rfl rfl

/-- An offset is the word for it and a number. -/
theorem tokensFrom_offset_append (start : Nat) (n : UInt64) :
    ∃ word number next,
      tokensFrom start (lexemes (" OFFSET ".toList ++ ((Piece.number n).chars ++ rest))) =
        ⟨⟨.word, "OFFSET".toList⟩, word⟩ :: ⟨⟨.number, (Piece.number n).chars⟩, number⟩ ::
          tokensFrom next (lexemes rest) :=
  tokensFrom_number_append blank start 'O' "FFSET".toList n rfl rfl

/-- The limit that stands for none is the word for a limit, a minus and a number. -/
theorem tokensFrom_noLimit_append :
    ∃ word minus number next, tokensFrom 0 (lexemes (" LIMIT -1".toList ++ rest)) =
      ⟨⟨.word, "LIMIT".toList⟩, word⟩ :: ⟨⟨.mark, ['-']⟩, minus⟩ :: ⟨⟨.number, ['1']⟩, number⟩ ::
        tokensFrom next (lexemes rest) := by
  have word : lexemes (' ' :: 'L' :: "IMIT".toList ++ ' ' :: '-' :: '1' :: rest) =
      ⟨.blank, [' ']⟩ :: ⟨.word, "LIMIT".toList⟩ :: ⟨.blank, [' ']⟩ ::
        lexemes ('-' :: '1' :: rest) :=
    lexemes_word_append rfl rfl (by simp [isBlankAfterBlank, isBlank])
  have mark : lexemes (['-'] ++ '1' :: rest) = ⟨.mark, ['-']⟩ :: lexemes (['1'] ++ rest) :=
    lexemes_append rfl
  have number : lexemes (['1'] ++ rest) = ⟨.number, ['1']⟩ :: lexemes rest :=
    lexemes_digits_append (by simp) blank (by simp)
  rw [show " LIMIT -1".toList ++ rest = ' ' :: 'L' :: "IMIT".toList ++ ' ' :: '-' :: '1' :: rest
    from rfl, word, show '-' :: '1' :: rest = ['-'] ++ '1' :: rest from rfl, mark, number]
  exact ⟨_, _, _, _, rfl⟩

end Tokens

end Sql

namespace Database

/-- A word is a keyword if it is that in small letters. -/
theorem isKeyword_of_toLower {word small : String} (same : word.toLower = small) (place : Nat) :
    Reader.isKeyword small ⟨⟨.word, word.toList⟩, place⟩ = true := by
  simp [Reader.isKeyword, String.ofList_toList, same]

/-- The word for a limit. -/
theorem toLower_limit : "LIMIT".toLower = "limit" := by decide +kernel

/-- The word for an offset. -/
theorem toLower_offset : "OFFSET".toLower = "offset" := by decide +kernel

namespace Window

/-- A text is the window that is read off its tokens. -/
theorem ofText?_of_run {text : List Char} {tokens : List Token} {limit offset : Option Expr}
    {after : Database.Reading} (same : tokensFrom 0 (Sql.lexemes text) = tokens)
    (reads : Reader.window.run { text := String.ofList text, tokens } =
      .ok ((limit, offset), after))
    (atEnd : after.tokens = []) : ofText? (String.ofList text) = some ⟨limit, offset⟩ := by
  simp [ofText?, same, reads, atEnd]

/-- A number is read as it is written. -/
theorem closedUp_number (n : UInt64) :
    closedUp (Sql.Piece.number n).chars = .ok (Sql.Piece.number n).chars :=
  closedUp_digits fun _ mem => Sql.isDigit_of_mem_number mem

/-- A limit alone is read as the number that it is. -/
theorem ofText?_limit (n : UInt64) :
    ∃ place, ofText? (String.ofList (Sql.windowText (some n) none)) =
      some ⟨some (.number (Sql.Piece.number n).chars place), none⟩ := by
  obtain ⟨word, number, next, same⟩ := Sql.tokensFrom_limit_append Sql.blank_nil n
  rw [Sql.lexemes_nil] at same
  exact ⟨number, ofText?_of_run same
    (Reader.run_window_limit rfl (isKeyword_of_toLower toLower_limit word)
      (Reader.run_expression_number (closedUp_number n) rfl .nil) rfl) rfl⟩

/-- A limit with an offset is read as the two numbers. -/
theorem ofText?_limit_offset (n m : UInt64) :
    ∃ place other, ofText? (String.ofList (Sql.windowText (some n) (some m))) =
      some ⟨some (.number (Sql.Piece.number n).chars place),
        some (.number (Sql.Piece.number m).chars other)⟩ := by
  obtain ⟨word, number, next, same⟩ := Sql.tokensFrom_limit_append
    (Sql.blank_offset ((Sql.Piece.number m).chars ++ [])) n
  obtain ⟨offset, other, last, behind⟩ := Sql.tokensFrom_offset_append Sql.blank_nil next m
  rw [behind, Sql.lexemes_nil] at same
  have behindOffset := isKeyword_of_toLower toLower_offset offset
  exact ⟨number, other, ofText?_of_run same
    (Reader.run_window_offset rfl (isKeyword_of_toLower toLower_limit word)
      (Reader.run_expression_number (closedUp_number n) rfl (.cons behindOffset _)) rfl behindOffset
      (Reader.run_expression_number (closedUp_number m) rfl .nil)) rfl⟩

/-- An offset alone is read behind a limit of minus one. -/
theorem ofText?_offset (m : UInt64) :
    ∃ place other, ofText? (String.ofList (Sql.windowText none (some m))) =
      some ⟨some (.unary .negated (.number ['1'] place)),
        some (.number (Sql.Piece.number m).chars other)⟩ := by
  obtain ⟨word, minus, number, next, same⟩ := Sql.tokensFrom_noLimit_append
    (Sql.blank_offset ((Sql.Piece.number m).chars ++ []))
  obtain ⟨offset, other, last, behind⟩ := Sql.tokensFrom_offset_append Sql.blank_nil next m
  rw [behind, Sql.lexemes_nil] at same
  have behindOffset := isKeyword_of_toLower toLower_offset offset
  exact ⟨number, other, ofText?_of_run same
    (Reader.run_window_offset rfl (isKeyword_of_toLower toLower_limit word)
      (Reader.run_expression_minus (closedUp_digits (by simp)) rfl (.cons behindOffset _)) rfl
      behindOffset
      (Reader.run_expression_number (closedUp_number m) rfl .nil)) rfl⟩

/-- Without a limit and an offset there is no window. -/
theorem ofText?_none : ofText? (String.ofList (Sql.windowText none none)) = some ⟨none, none⟩ :=
  have none : tokensFrom 0 (Sql.lexemes (Sql.windowText .none .none)) = [] :=
    congrArg (tokensFrom 0) Sql.lexemes_nil
  ofText?_of_run none (Reader.run_window_nil rfl) rfl

/-! ## Selection -/

variable {params : List Value}

/-- Whether the store takes a number for an integer: it fits 64 bits with a sign. -/
def isInteger (n : UInt64) : Bool := n.toNat < 2 ^ 63

/-- A number is an integer of the store or none. -/
theorem part?_number (n : UInt64) (place : Nat) :
    part? params (.number (Sql.Piece.number n).chars place) =
      if isInteger n then some (n.toNat : Int) else none := by
  refine (part?_digits n.toNat place).trans ?_
  by_cases fits : n.toNat < 2 ^ 63
  · rw [isInteger, if_pos fits, if_pos (decide_eq_true fits)]
  · rw [isInteger, if_neg fits, if_neg (by simpa using fits)]

/-- The rows that the store selects by the text of a window. -/
def selected? {α : Type} (text : String) (params : List Value) (rows : List α) :
    Option (List α) := do
  (← ofText? text).select? params rows

end Window

end Database

namespace Plan

open Database.Window (isInteger selected?)

/-- The plan without its cut. -/
def uncut (plan : Plan) : Plan := { plan with limit := none, offset := none }

/-- The text of the cut of a plan. -/
def cutText (plan : Plan) : String :=
  String.ofList (Sql.windowText plan.limit plan.offset)

/-- The rows that a plan asks for of those that it has without its cut. -/
def asked {α : Type} (plan : Plan) (rows : List α) : List α :=
  let behind := rows.drop (plan.offset.getD 0).toNat
  match plan.limit with
  | some limit => behind.take limit.toNat
  | none => behind

/-- Whether the store takes the offset of a plan for an integer, or does not look at it. -/
def offsetFits (plan : Plan) : Bool :=
  plan.limit = some 0 || plan.offset.all isInteger

/-- Whether the store takes the parts of a plan's cut for integers as far as it looks at them. -/
def cutFits (plan : Plan) : Bool :=
  plan.limit.all isInteger && plan.offsetFits

variable {plan : Plan}

/-- A number is zero if it says zero. -/
theorem eq_zero_iff (n : UInt64) : n = 0 ↔ n.toNat = 0 := by
  simp [UInt64.ext_iff]

/-- The store selects the rows that a plan asks for if it takes the numbers for integers, and fails
if not. -/
theorem selected?_cutText {α : Type} (plan : Plan) (params : List Value) (rows : List α) :
    selected? plan.cutText params rows = if plan.cutFits then some (plan.asked rows) else none := by
  unfold cutText cutFits offsetFits asked
  -- The four forms of a cut are read as their four texts are.
  rcases plan.limit with _ | limit <;> rcases plan.offset with _ | offset
  · simp [selected?, Window.ofText?_none, Window.select?, Query.inWindow]
  · obtain ⟨place, other, read⟩ := Window.ofText?_offset offset
    simp only [selected?, read, Window.select?]
    cases fits : isInteger offset <;>
      simp [Window.part?_minusOne, Window.part?_number, fits, Query.inWindow]
  · obtain ⟨place, read⟩ := Window.ofText?_limit limit
    simp only [selected?, read, Window.select?]
    cases fits : isInteger limit
    · simp [Window.part?_number, fits]
    · by_cases nothing : limit.toNat = 0 <;>
        simp [Window.part?_number, fits, nothing, Query.inWindow]
  · obtain ⟨place, other, read⟩ := Window.ofText?_limit_offset limit offset
    simp only [selected?, read, Window.select?]
    cases fits : isInteger limit
    · simp [Window.part?_number, fits]
    -- with a limit of zero the offset is not looked at
    · by_cases nothing : limit.toNat = 0
      · simp [Window.part?_number, fits, nothing, eq_zero_iff]
      · cases placed : isInteger offset <;>
          simp [Window.part?_number, fits, placed, nothing, eq_zero_iff, Query.inWindow]

/-- The lesser of two numbers says what the lesser says. -/
theorem toNat_min (n m : UInt64) : (min n m).toNat = min n.toNat m.toNat := by
  rw [UInt64.min_def]
  by_cases le : n ≤ m
  · rw [if_pos le, Nat.min_eq_left (UInt64.le_iff_toNat_le.1 le)]
  · have less : m.toNat < n.toNat := Nat.lt_of_not_le fun le' => le (UInt64.le_iff_toNat_le.2 le')
    rw [if_neg le, Nat.min_eq_right (Nat.le_of_lt less)]

/-- The plan that is cut to its first row asks for the first of the rows that the plan asks for. -/
theorem asked_firstOnly {α : Type} (plan : Plan) (rows : List α) :
    plan.firstOnly.asked rows = (plan.asked rows).take 1 := by
  unfold asked firstOnly
  rcases plan.limit with _ | limit
  · rfl
  · simp only [List.take_take, toNat_min, UInt64.toNat_one, Nat.min_comm]

/-- The store takes one for an integer, and zero. -/
theorem cutFits_firstOnly (plan : Plan) : plan.firstOnly.cutFits = plan.offsetFits := by
  have small (n : UInt64) : isInteger (min n 1) = true := by
    simp only [isInteger, toNat_min, UInt64.toNat_one, decide_eq_true_eq]
    omega
  have zero (n : UInt64) : min n 1 = 0 ↔ n = 0 := by
    rw [eq_zero_iff, eq_zero_iff, toNat_min, UInt64.toNat_one]
    omega
  unfold cutFits offsetFits firstOnly
  rcases plan.limit with _ | limit
  · rfl
  · simp [small, zero]

/-- The query of a plan is that without its cut, and the text of the cut behind it. -/
theorem query_eq (plan : Plan) :
    plan.query = { plan.uncut.query with sql := plan.uncut.query.sql ++ plan.cutText } := by
  have body : plan.uncut.pieces = plan.bodyPieces := List.append_nil _
  have whole : plan.uncut.query.sql = String.ofList (plan.bodyPieces.flatMap Sql.Piece.chars) := by
    rw [← body]
    rfl
  have text : plan.query.sql = plan.uncut.query.sql ++ plan.cutText := by
    rw [whole, cutText, Sql.windowText, ← String.ofList_append, ← List.flatMap_append]
    rfl
  rw [← text]
  rfl

/-- A plan compiles with its cut if it does without. -/
theorem compile_of_uncut {whole : CompiledQuery} (compiled : plan.uncut.compile = .ok whole) :
    plan.compile = .ok { whole with sql := whole.sql ++ plan.cutText } := by
  obtain ⟨balanced, selected, rfl⟩ := compile_eq_ok_iff.1 compiled
  exact compile_eq_ok_iff.2 ⟨balanced, selected, plan.query_eq.symm⟩

/-- The query of a plan that compiles is that of the plan without its cut, and the text of the cut
behind it. The store selects by that text the rows that the plan asks for, whatever rows there are
without it: those behind the offset, as many as the limit says. It does so as long as it takes the
limit for an integer and the offset as well, unless the limit is zero; beyond that it fails. The
query for the first row alone is the same up to its cut, which selects the first of the rows that
the plan asks for, and fails only if the store does not take the offset. -/
theorem selects_of_compile {query : CompiledQuery} (compiled : plan.compile = .ok query) :
    ∃ whole tail firstTail,
      plan.uncut.compile = .ok whole ∧
      query = { whole with sql := whole.sql ++ tail } ∧
      plan.firstOnly.compile = .ok { whole with sql := whole.sql ++ firstTail } ∧
      ∀ rows : List RawRow,
        selected? tail query.params rows =
          (if plan.cutFits then some (plan.asked rows) else none) ∧
        selected? firstTail query.params rows =
          if plan.offsetFits then some ((plan.asked rows).take 1) else none := by
  obtain ⟨balanced, selected, rfl⟩ := compile_eq_ok_iff.1 compiled
  have whole : plan.uncut.compile = .ok plan.uncut.query :=
    compile_eq_ok_iff.2 ⟨balanced, selected, rfl⟩
  refine ⟨_, plan.cutText, plan.firstOnly.cutText, whole, plan.query_eq, compile_of_uncut whole,
    fun rows => ⟨selected?_cutText plan _ rows, ?_⟩⟩
  rw [selected?_cutText, cutFits_firstOnly, asked_firstOnly]

end Plan

namespace TradingCompany

open Database.Window (selected?)

/-- The plan of the numbers of all suppliers, with a cut. -/
def supplierPlan (limit offset : Option UInt64) : Plan where
  source := ⟨"supplier", none⟩
  columns := [⟨⟨"supplier", "supplier", "id", .integer, false⟩, none⟩]
  joins := []
  predicates := []
  groupBy := []
  aggregates := []
  orderBy := []
  limit := limit
  offset := offset

/-- The plan compiles with any cut. -/
theorem compile_supplierPlan (limit offset : Option UInt64) :
    (supplierPlan limit offset).compile = .ok (supplierPlan limit offset).query :=
  Plan.compile_eq_ok_iff.2 ⟨by simp [supplierPlan], List.cons_ne_nil _ _, rfl⟩

/-- The third page of five suppliers is what the plan for it selects. -/
theorem selects_supplierPlan :
    (supplierPlan (some 5) (some 10)).compile = .ok (supplierPlan (some 5) (some 10)).query ∧
      ∃ tail firstTail, ∀ rows : List RawRow,
        selected? tail [] rows = some ((rows.drop 10).take 5) ∧
        selected? firstTail [] rows = some (((rows.drop 10).take 5).take 1) := by
  have compiled := compile_supplierPlan (some 5) (some 10)
  obtain ⟨-, tail, firstTail, -, -, -, selects⟩ := Plan.selects_of_compile compiled
  exact ⟨compiled, tail, firstTail, selects⟩

/-- The largest limit that a plan may have is no integer to the store, which refuses the query
whatever suppliers there are, although the plan asks for all of them. -/
theorem not_selects_supplierPlan :
    Plan.ofSteps registry [.selectFrom "supplier", .selectColumns ["id"],
      .limit 18446744073709551615] = .ok (supplierPlan (some 18446744073709551615) none) ∧
    (∃ query, (supplierPlan (some 18446744073709551615) none).compile = .ok query) ∧
    ∀ rows : List RawRow,
      selected? (supplierPlan (some 18446744073709551615) none).cutText [] rows = none := by
  refine ⟨rfl, ⟨_, compile_supplierPlan _ _⟩, fun rows => ?_⟩
  rw [Plan.selected?_cutText]
  exact if_neg (by decide)

end TradingCompany

end TypedQuery
