import TypedQuery.Database.Reader.Statement

/-!
# Reading numbers

A number, with a minus in front of it or without, is a whole expression if the text ends behind it
or the word for an offset follows: that word goes on with no expression, so each operator and test
that could follow is looked for in vain. A window of such expressions is read part by part
(`Reader.run_window_limit`, `Reader.run_window_offset`).
-/

namespace TypedQuery.Database.Reader

variable {α β : Type} {state after : Reading} {token : Token} {rest : List Token}

/-- Readers one after another. -/
theorem run_bind_of_ok {first : Reader α} {next : α → Reader β} {found : α}
    (h : first.run state = .ok (found, after)) :
    (first >>= next).run state = (next found).run after := by
  rw [StateT.run_bind, h]
  rfl

/-- A reader that looks at what is left. -/
theorem run_get_bind {next : Reading → Reader β} :
    (get >>= next).run state = (next state).run state :=
  rfl

/-- The next token is taken if it is wanted. -/
theorem run_next?_some {wanted : Token → Option α} {found : α}
    (tokens : state.tokens = token :: rest) (want : wanted token = some found) :
    (next? wanted).run state = .ok (some found, { state with tokens := rest }) := by
  simp only [next?]
  simp [StateT.run_bind, tokens, want]
  rfl

/-- Nothing is taken if there is no token or the next one is not wanted. -/
theorem run_next?_none {wanted : Token → Option α}
    (other : ∀ token ∈ state.tokens.head?, wanted token = none) :
    (next? wanted).run state = .ok (none, state) := by
  simp only [next?]
  cases tokens : state.tokens with
  | nil =>
    simp [StateT.run_bind, tokens]
    rfl
  | cons token rest =>
    have unwanted : wanted token = none := other token (by simp [tokens])
    simp [StateT.run_bind, tokens, unwanted]
    rfl

/-- A token that meets a test is taken. -/
theorem run_skip_true {test : Token → Bool} (tokens : state.tokens = token :: rest)
    (meets : test token = true) :
    (skip test).run state = .ok (true, { state with tokens := rest }) := by
  have want : (if test token then some () else none) = some () := if_pos meets
  rw [skip, run_bind_of_ok (run_next?_some tokens want)]
  rfl

/-- A token that does not meet a test is not taken. -/
theorem run_skip_false {test : Token → Bool}
    (other : ∀ token ∈ state.tokens.head?, test token = false) :
    (skip test).run state = .ok (false, state) := by
  rw [skip, run_bind_of_ok (run_next?_none fun token mem => by simp [other token mem])]
  rfl

/-- A keyword that comes next is taken. -/
theorem run_keyword? {word : String} (tokens : state.tokens = token :: rest)
    (same : isKeyword word token = true) :
    (keyword? word).run state = .ok (true, { state with tokens := rest }) :=
  run_skip_true tokens same

/-! ## The end of an expression -/

/-- Whether the text ends or the word for an offset follows. -/
def Ends (tokens : List Token) : Prop :=
  ∀ token ∈ tokens.head?, isKeyword "offset" token = true

/-- An expression ends with the text. -/
theorem Ends.nil : Ends [] := by simp [Ends]

/-- An expression ends in front of an offset. -/
theorem Ends.cons {token : Token} (offset : isKeyword "offset" token = true)
    (rest : List Token) : Ends (token :: rest) := by
  simpa [Ends] using offset

/-- The word for an offset is no other word. -/
theorem isKeyword_of_offset (offset : isKeyword "offset" token = true) {word : String}
    (other : word ≠ "offset") : isKeyword word token = false := by
  simp only [isKeyword, Bool.and_eq_true, decide_eq_true_eq] at offset ⊢
  simp [offset.2, other.symm]

/-- The word for an offset is no mark. -/
theorem isMark_of_offset (offset : isKeyword "offset" token = true) (mark : String) :
    isMark mark token = false := by
  simp only [isKeyword, Bool.and_eq_true, decide_eq_true_eq] at offset
  simp [isMark, offset.1]

/-- The word for an offset stands for nothing in a table that does not have it. -/
theorem meaning?_of_offset (offset : isKeyword "offset" token = true) {table : List (String × α)}
    (other : ∀ entry ∈ table, entry.1 ≠ "offset") : meaning? table token = none := by
  rw [meaning?, Option.map_eq_none_iff, List.find?_eq_none]
  intro entry mem
  simp [isMark_of_offset offset, isKeyword_of_offset offset (other entry mem)]

section Ends

variable (ends : Ends state.tokens)

include ends

/-- No other word follows. -/
theorem Ends.run_keyword? {word : String} (other : word ≠ "offset") :
    (keyword? word).run state = .ok (false, state) :=
  run_skip_false fun token mem => isKeyword_of_offset (ends token mem) other

/-- What is read if another word follows is not read. -/
theorem Ends.run_if_keyword? {word : String} (other : word ≠ "offset") {yes no : Reader β} :
    (keyword? word >>= fun found => if found = true then yes else no).run state =
      no.run state := by
  rw [run_bind_of_ok (ends.run_keyword? other)]
  rfl

/-- No mark follows. -/
theorem Ends.run_mark? (mark : String) : (mark? mark).run state = .ok (false, state) :=
  run_skip_false fun token mem => isMark_of_offset (ends token mem) mark

/-- Nothing follows that stands in a table. -/
theorem Ends.run_meaning? {table : List (String × α)}
    (other : ∀ entry ∈ table, entry.1 ≠ "offset") :
    (next? (meaning? table)).run state = .ok (none, state) :=
  run_next?_none fun token mem => meaning?_of_offset (ends token mem) other

variable {inner : Grade → Reader Expr} {tight : Expr → Reader Expr} {operand : Reader Expr}
  {left : Expr}

/-- No operator of a rank follows. -/
theorem Ends.run_continued {rank : List (String × Operator)}
    (other : ∀ entry ∈ rank, entry.1 ≠ "offset") (fuel : Nat) :
    (continued rank operand left fuel).run state = .ok (left, state) := by
  cases fuel with
  | zero => rfl
  | succ fuel =>
    rw [continued, run_bind_of_ok (ends.run_meaning? other)]
    rfl

/-- No operator of several ranks follows. -/
theorem Ends.run_ranked {ranks : List (List (String × Operator))}
    (other : ∀ rank ∈ ranks, ∀ entry ∈ rank, entry.1 ≠ "offset") :
    (ranked operand left ranks).run state = .ok (left, state) := by
  induction ranks generalizing operand with
  | nil => rfl
  | cons rank looser ih =>
    obtain ⟨first, others⟩ := List.forall_mem_cons.1 other
    rw [ranked, run_get_bind, run_bind_of_ok (ends.run_continued first _)]
    exact ih others

/-- No test follows. -/
theorem Ends.run_tested : (tested inner false left).run state = .ok (none, state) := by
  simp only [tested, Bool.false_eq_true, if_false]
  rw [ends.run_if_keyword? (by decide), ends.run_if_keyword? (by decide),
    ends.run_if_keyword? (by decide), ends.run_if_keyword? (by decide)]
  rfl

/-- No comparison for equality and no test follows. -/
theorem Ends.run_compared (fuel : Nat) :
    (compared inner tight operand left fuel).run state = .ok (left, state) := by
  cases fuel with
  | zero => rfl
  | succ fuel =>
    rw [compared, run_bind_of_ok (ends.run_meaning? (by decide))]
    simp only
    rw [ends.run_if_keyword? (by decide), run_bind_of_ok (ends.run_keyword? (by decide)),
      run_bind_of_ok ends.run_tested]
    rfl

end Ends

/-- An operand in front of the end of an expression is the whole expression. -/
theorem run_expressionWithin {depth : Nat} {found : Expr}
    (reads : (operand (expressionWithin depth)).run state = .ok (found, after))
    (ends : Ends after.tokens) :
    (expressionWithin (depth + 1) .any).run state = .ok (found, after) := by
  have comparison : (operand (expressionWithin depth) >>= fun left =>
      ranked (operand (expressionWithin depth)) left tightOperators).run state =
        .ok (found, after) := by
    rw [run_bind_of_ok reads]
    exact ends.run_ranked (by decide)
  rw [expressionWithin]
  refine (run_bind_of_ok ?_).trans (ends.run_ranked (by decide))
  rw [run_bind_of_ok comparison, run_get_bind]
  exact ends.run_compared _

/-! ## Numbers -/

section Numbers

variable {text spelling : List Char} (spelled : closedUp text = .ok spelling) {place start : Nat}

include spelled

/-- A number in front is an operand. -/
theorem run_operand_number {inner : Grade → Reader Expr}
    (tokens : state.tokens = ⟨⟨.number, text⟩, place⟩ :: rest) :
    (operand inner).run state = .ok (.number spelling place, { state with tokens := rest }) := by
  rw [operand, run_bind_of_ok (run_next?_some tokens (if_pos rfl))]
  simp only [Reader.number, spelled]
  rfl

/-- A minus and a number in front are an operand. -/
theorem run_operand_minus {depth : Nat}
    (tokens : state.tokens = ⟨⟨.mark, ['-']⟩, start⟩ :: ⟨⟨.number, text⟩, place⟩ :: rest) :
    (operand (expressionWithin (depth + 1))).run state =
      .ok (.unary .negated (.number spelling place), { state with tokens := rest }) := by
  have first {α : Type} {wanted : Token → Option α}
      (other : wanted ⟨⟨.mark, ['-']⟩, start⟩ = none) :
      (next? wanted).run state = .ok (none, state) :=
    run_next?_none (by simpa [tokens] using other)
  have negated : meaning? signs ⟨⟨.mark, ['-']⟩, start⟩ = some .negated := by
    simp [meaning?, signs, isMark]
  -- A sign is looked for behind three other kinds of operands.
  rw [operand, run_bind_of_ok (first rfl)]
  simp only
  rw [run_bind_of_ok (first rfl)]
  simp only
  rw [run_bind_of_ok (first rfl)]
  simp only
  rw [run_bind_of_ok (run_next?_some tokens negated)]
  exact run_bind_of_ok (run_operand_number spelled rfl)

/-- A number in front of the end of an expression is the whole expression. -/
theorem run_expression_number (tokens : state.tokens = ⟨⟨.number, text⟩, place⟩ :: rest)
    (ends : Ends rest) :
    expression.run state = .ok (.number spelling place, { state with tokens := rest }) := by
  rw [expression, run_get_bind]
  exact run_expressionWithin (run_operand_number spelled tokens) ends

/-- So is a number behind a minus. -/
theorem run_expression_minus
    (tokens : state.tokens = ⟨⟨.mark, ['-']⟩, start⟩ :: ⟨⟨.number, text⟩, place⟩ :: rest)
    (ends : Ends rest) :
    expression.run state =
      .ok (.unary .negated (.number spelling place), { state with tokens := rest }) := by
  rw [expression, run_get_bind, tokens]
  exact run_expressionWithin (run_operand_minus spelled tokens) ends

end Numbers

/-! ## Windows -/

/-- Without the word for a limit there is no window. -/
theorem run_window_nil (tokens : state.tokens = []) :
    window.run state = .ok ((none, none), state) := by
  have ends : Ends state.tokens := tokens ▸ .nil
  rw [window, ends.run_if_keyword? (by decide)]
  rfl

section Window

variable {limit offset : Expr} (tokens : state.tokens = token :: rest)
  (word : isKeyword "limit" token = true)
  (reads : expression.run { state with tokens := rest } = .ok (limit, after))

include tokens word reads

/-- Behind a limit there may be an offset. -/
theorem run_window_cons (ends : Ends after.tokens) :
    window.run state =
      (keyword? "offset" >>= fun found =>
        if found = true then do return (some limit, some (← expression))
        else return (some limit, none)).run after := by
  rw [window, run_bind_of_ok (run_keyword? tokens word)]
  simp only [if_true]
  rw [run_bind_of_ok reads, run_bind_of_ok (ends.run_mark? ",")]
  rfl

/-- A limit at the end of the text is a window without an offset. -/
theorem run_window_limit (atEnd : after.tokens = []) :
    window.run state = .ok ((some limit, none), after) := by
  rw [run_window_cons tokens word reads (atEnd ▸ .nil)]
  exact run_bind_of_ok (run_skip_false (by simp [atEnd]))

/-- A limit, the word for an offset and an offset are a window. -/
theorem run_window_offset {mark : Token} {more : List Token} {last : Reading}
    (behind : after.tokens = mark :: more) (offsetWord : isKeyword "offset" mark = true)
    (goesOn : expression.run { after with tokens := more } = .ok (offset, last)) :
    window.run state = .ok ((some limit, some offset), last) := by
  rw [run_window_cons tokens word reads (behind ▸ .cons offsetWord more),
    run_bind_of_ok (run_keyword? behind offsetWord)]
  simp only [if_true]
  rw [run_bind_of_ok goesOn]
  rfl

end Window

end TypedQuery.Database.Reader
