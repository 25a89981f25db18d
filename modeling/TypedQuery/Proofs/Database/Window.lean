import Mathlib.Algebra.Group.Nat.Defs
import Mathlib.Data.List.TakeWhile
import TypedQuery.Database.Window
import TypedQuery.Proofs.Database.Reader
import TypedQuery.Proofs.Outcome

/-!
# Windows select rows

What a window selects is what the query with that window gives (`Query.rows_of_select?`). A part
that is written in decimal digits is the number that they say as long as it is below `2 ^ 63`, and
no integer from there on (`Window.part?_digits`).
-/

namespace TypedQuery.Database

/-! ## Digits -/

section Digits

variable {digits : List Char} (all : ∀ c ∈ digits, c.isDigit = true)

include all

/-- Decimal digits are no hexadecimal number. -/
theorem hexDigits?_digits : hexDigits? digits = none := by
  unfold hexDigits?
  split
  · simp at all
  · simp at all
  · rfl

/-- Decimal digits have no underscores between them. -/
theorem closedUp_digits : closedUp digits = .ok digits := by
  have plain : ∀ c ∈ digits, c ≠ '_' := by
    rintro c mem rfl
    simpa using all _ mem
  have placed (i : Nat) : ¬digits[i]? = some '_' := fun here =>
    plain '_' (List.mem_of_getElem? here) rfl
  have kept : digits.filter (· ≠ '_') = digits :=
    List.filter_eq_self.2 fun c mem => by simpa using plain c mem
  have none : (List.range digits.length).filter (fun _ => false) = [] := by simp
  simp only [closedUp, placed, decide_false, Bool.false_and, none, List.getLast?_nil, kept]

/-- Decimal digits are a numeral without a sign, a point and an exponent. -/
theorem ofChars_digits (some : digits ≠ []) :
    Numeral.ofChars digits = ⟨false, digits, none, none, []⟩ := by
  obtain ⟨c, own, rfl⟩ := List.exists_cons_of_ne_nil some
  have digit : c.isDigit = true := all c (by simp)
  have dense : isSpace c = false := by
    obtain ⟨low, -⟩ := Char.isDigit_iff_toNat.1 digit
    simp only [Char.reduceToNat] at low
    have blank : c ≠ ' ' := by rintro rfl; simp at digit
    simp [isSpace, blank]
    omega
  have unsigned : signed (c :: own) = (false, c :: own) := by
    unfold signed
    split
    · next first => simp [(List.cons.inj first).1] at digit
    · next first => simp [(List.cons.inj first).1] at digit
    · rfl
  have whole : (c :: own).takeWhile Char.isDigit = c :: own := List.takeWhile_eq_self_iff.2 all
  have rest : (c :: own).dropWhile Char.isDigit = [] := List.dropWhile_eq_nil_iff.2 all
  have skipped : (c :: own).dropWhile isSpace = c :: own := by simp [dense]
  simp only [Numeral.ofChars, skipped, unsigned, whole, rest, List.dropWhile_nil]

end Digits

/-- The digits of a number spell it as long as it fits 64 bits with a sign, and a real number from
there on. -/
theorem numberOfLiteral_digits (n : Nat) :
    numberOfLiteral false (Nat.toDigits 10 n) =
      if n < 2 ^ 63 then .integer (Int64.ofNat n)
      else .real (Numeral.real ⟨false, Nat.toDigits 10 n, none, none, []⟩) := by
  have all : ∀ c ∈ Nat.toDigits 10 n, c.isDigit = true := fun c mem =>
    Nat.isDigit_of_mem_toDigits (by decide) (by decide) mem
  have size : Calendar.digitsValue (Nat.toDigits 10 n) = n := Nat.ofDigitChars_ten_toDigits
  have integer : Numeral.integer? ⟨false, Nat.toDigits 10 n, none, none, []⟩ =
      if n < 2 ^ 63 then some (Int64.ofNat n) else none := by
    change (if Calendar.digitsValue (Nat.toDigits 10 n) < 2 ^ 63 then
      some (Int64.ofNat (Calendar.digitsValue (Nat.toDigits 10 n))) else none) = _
    rw [size]
  rw [numberOfLiteral, hexDigits?_digits all, ofChars_digits all Nat.toDigits_ne_nil]
  simp only [Numeral.value?, Numeral.isAll, Numeral.hasDigits, Numeral.exponentStated,
    Numeral.isWhole, integer]
  by_cases fits : n < 2 ^ 63
  · rw [if_pos fits, if_pos fits]
    simp
  · rw [if_neg fits, if_neg fits]
    simp

namespace Window

variable {params : List Value}

/-- Digits are the number that they say if it fits 64 bits with a sign, and no integer otherwise. -/
theorem part?_digits (n offset : Nat) :
    part? params (.number (Nat.toDigits 10 n) offset) =
      if n < 2 ^ 63 then some (n : Int) else none := by
  by_cases fits : n < 2 ^ 63
  · simp only [part?, Expr.eval, numberOfLiteral_digits, if_pos fits, Int64.toInt_ofNat_of_lt fits]
  · simp only [part?, Expr.eval, numberOfLiteral_digits, if_neg fits]

/-- Minus one is an integer. -/
theorem part?_minusOne (offset : Nat) :
    part? params (.unary .negated (.number ['1'] offset)) = some (-1) :=
  rfl

/-- A part that is an integer is one when a query runs. -/
theorem windowPart_eq {expr : Expr} {i : Int} (integer : part? params expr = some i) :
    Query.windowPart params expr = .ok i := by
  unfold part? at integer
  split at integer
  · next value evaluated =>
    obtain rfl := Option.some.inj integer
    simp only [Query.windowPart, evaluated]
    rfl
  all_goals simp at integer

/-- The parts of a window that are integers are those when a query runs. -/
theorem mapM_windowPart {expr : Option Expr} {i : Option Int}
    (integer : expr.mapM (part? params) = some i) :
    expr.mapM (Query.windowPart params) = .ok i := by
  cases expr with
  | none =>
    obtain rfl := Option.some.inj integer
    rfl
  | some expr =>
    obtain ⟨j, part, rfl⟩ := Option.map_eq_some_iff.1 (integer : (part? params expr).map some = _)
    show (Query.windowPart params expr >>= fun i => pure (some i)) = _
    rw [windowPart_eq part]
    rfl

end Window

namespace Query

variable {params : List Value}

/-- Without a limit and an offset all rows are in the window. -/
theorem inWindow_none {α : Type} (found : List α) : inWindow none none found = found := rfl

/-- A query gives what its window selects of the rows that it gives without one. -/
theorem rows_of_select? {query : Query} {table : Option StoredTable} {found kept : List RawRow}
    (whole : { query with limit := none, offset := none }.rows table params = .ok found)
    (selected : Window.select? ⟨query.limit, query.offset⟩ params found = some kept) :
    query.rows table params = .ok kept := by
  obtain ⟨limit, limited, selected⟩ := Option.bind_eq_some_iff.1 selected
  simp only [rows, Window.mapM_windowPart limited]
  by_cases zero : limit = some 0
  · subst zero
    obtain rfl : [] = kept := Option.some.inj selected
    rfl
  rw [if_neg zero] at selected
  obtain ⟨offset, placed, selected⟩ := Option.bind_eq_some_iff.1 selected
  obtain rfl := Option.some.inj selected
  simp only [Window.mapM_windowPart placed]
  -- Both queries take the same steps up to the window, which is the last one.
  obtain ⟨scopes, met, whole⟩ := bind_eq_ok.1 (whole : (List.filterM _ _ >>= _) = _)
  obtain ⟨keyed, ordered, whole⟩ := bind_eq_ok.1 whole
  refine bind_eq_ok.2 ⟨limit, rfl, ?_⟩
  rw [if_neg zero]
  refine bind_eq_ok.2 ⟨offset, rfl, bind_eq_ok.2 ⟨scopes, met, bind_eq_ok.2 ⟨keyed, ordered, ?_⟩⟩⟩
  cases selection : query.selection with
  | rowCount =>
    simp only [selection, inWindow_none, pure_eq_ok] at whole ⊢
    rw [whole]
  | items items =>
    simp only [selection, inWindow_none] at whole ⊢
    obtain ⟨values, given, same⟩ := bind_eq_ok.1 whole
    obtain rfl := pure_eq_ok.1 same
    exact bind_eq_ok.2 ⟨values, given, rfl⟩

end Query

end TypedQuery.Database
