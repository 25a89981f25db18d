import TypedQuery.Proofs.Sql.Lexing
import TypedQuery.Proofs.Text.Placeholders

/-!
# Shapes of lexemes

The checks of a predicate's placeholders look at the marks of quotes and at nothing else. The store
cuts the same text into lexemes, and has comments and names in brackets besides, in which it takes
any character for text. Each lexeme has a shape (`Shape`, `shape_extent`) that says what the checks
can meet in it: nothing that they look for, a quotation around it, or a variable with all of its
digits or its name. Only in comments and brackets they may meet anything.

A lexeme of one of the other shapes leaves no quote open (`Shape.closed`). In no lexeme does it
depend on the text behind it whether a variable starts (`Shape.sealed`): a shape takes in as much as
the checks would look at.
-/

namespace TypedQuery.Sql

open Reference (Stops span_iff)
open Text (isQuoteMark isWordChar unquoted quoteAtEnd IsClosed startsVariable Outside)

/-! ## Classes of characters -/

/-- A character of a class is none of those that the class leaves out. -/
theorem notMem_of_class {p : Char → Bool} {others : List Char} (without : others.any p = false)
    {c : Char} (h : p c = true) : c ∉ others := by
  intro mem
  have some : others.any p = true := List.any_eq_true.2 ⟨c, mem, h⟩
  rw [without] at some
  exact Bool.noConfusion some

/-- A run of a class in front of a text is the longest one. -/
theorem take_run (p : Char → Bool) (text : List Char) :
    text.take (run p text) = text.takeWhile p ∧ text.drop (run p text) = text.dropWhile p := by
  have whole : text.takeWhile p ++ text.dropWhile p = text := List.takeWhile_append_dropWhile
  constructor
  · calc text.take (run p text)
      _ = (text.takeWhile p ++ text.dropWhile p).take (text.takeWhile p).length := by
        rw [whole, run]
      _ = text.takeWhile p := List.take_left
  · calc text.drop (run p text)
      _ = (text.takeWhile p ++ text.dropWhile p).drop (text.takeWhile p).length := by
        rw [whole, run]
      _ = text.dropWhile p := List.drop_left

/-- A run of a class is made of characters of the class. -/
theorem forall_mem_take_run {p : Char → Bool} {text : List Char} :
    ∀ c ∈ text.take (run p text), p c = true := by
  rw [(take_run p text).1]
  exact (span_iff.2 ⟨rfl, rfl⟩).2.1

/-- Behind a run of a class no character of the class follows. -/
theorem stops_drop_run (p : Char → Bool) (text : List Char) :
    Stops p (text.drop (run p text)) := by
  rw [(take_run p text).2]
  exact (span_iff.2 ⟨(rfl : text.takeWhile p = _), rfl⟩).2.2

/-- Where a run of a class ends before the text does, a character of another class follows. -/
theorem exists_drop_run {p : Char → Bool} {text : List Char} (inside : run p text ≠ text.length) :
    ∃ d more, text.drop (run p text) = d :: more ∧ p d = false := by
  cases behind : text.drop (run p text) with
  | nil =>
    have short : run p text ≤ text.length := List.Sublist.length_le (List.takeWhile_sublist p)
    have long : text.length ≤ run p text := List.drop_eq_nil_iff.1 behind
    exact absurd (Nat.le_antisymm short long) inside
  | cons d more =>
    have stops := stops_drop_run p text
    rw [behind] at stops
    exact ⟨d, more, rfl, stops d rfl⟩

/-- A run and the character behind it. -/
theorem take_run_succ {p : Char → Bool} {text more : List Char} {d : Char}
    (behind : text.drop (run p text) = d :: more) :
    text.take (run p text + 1) = text.take (run p text) ++ [d] := by
  rw [List.take_add, behind]
  rfl

/-- A word character may stand in a name. -/
theorem isNameChar_of_isWordChar {c : Char} (word : isWordChar c = true) : isNameChar c = true := by
  simp only [isWordChar, Text.isAlphanumeric, Bool.or_eq_true, decide_eq_true_eq] at word
  simp only [isNameChar, Bool.or_eq_true, decide_eq_true_eq]
  rcases word with alphanumeric | underscore
  · by_cases ascii : c.toNat < 128
    · rw [if_pos ascii] at alphanumeric
      exact .inl (.inl (.inl alphanumeric))
    · exact .inr (Nat.le_of_not_lt ascii)
  · exact .inl (.inl (.inr underscore))

/-- Where no name goes on, no word does. -/
theorem Stops.word {rest : List Char} (stops : Stops isNameChar rest) : Stops isWordChar rest := by
  intro c first
  by_contra word
  have name := isNameChar_of_isWordChar (Bool.not_eq_false _ ▸ word)
  rw [stops c first] at name
  exact Bool.noConfusion name

/-- The characters that mean something to the checks of placeholders: marks of quotes, question
marks, and the signs of names. -/
def checkedMarks : List Char :=
  ['\'', '"', '\x60', '?', ':', '@', '$']

/-- Of the checked marks a name holds dollar signs only. -/
theorem notMem_or_eq_of_isNameChar {c : Char} (name : isNameChar c = true) :
    c ∉ checkedMarks ∨ c = '$' := by
  by_cases dollar : c = '$'
  · exact .inr dollar
  · have others : c ∉ ['\'', '"', '\x60', '?', ':', '@'] := notMem_of_class (by decide) name
    refine .inl fun mem => ?_
    simp only [List.mem_cons, List.not_mem_nil, or_false, not_or] at others
    simp [checkedMarks, others, dollar] at mem

/-! ## Numbers -/

/-- An exponent has no checked marks. -/
theorem notMem_of_mem_exponent {text : List Char} :
    ∀ c ∈ text.take (exponentLength text), c ∉ checkedMarks := by
  have numeric {text : List Char} : ∀ c ∈ text.take (run isNumeric text), c ∉ checkedMarks :=
    fun c mem => notMem_of_class (by decide) (forall_mem_take_run c mem)
  have letter {e : Char} (exponent : e = 'e' ∨ e = 'E') : e ∉ checkedMarks := by
    rcases exponent with rfl | rfl <;> decide
  unfold exponentLength
  split
  · next e rest =>
    split
    · next exponent =>
      split
      · next sign digits =>
        split
        · next signed =>
          have second : sign ∉ checkedMarks := by
            rcases signed with rfl | rfl <;> decide
          split
          · simp
          · simpa [letter exponent, second] using numeric
        · split
          · simp
          · rw [List.take_succ_cons, List.forall_mem_cons]
            exact ⟨letter exponent, numeric⟩
      · simp
    · simp
  · simp

/-- A decimal number has no checked marks. -/
theorem notMem_of_mem_decimal {text : List Char} :
    ∀ c ∈ text.take (decimalLength text), c ∉ checkedMarks := by
  have numeric {text : List Char} : ∀ c ∈ text.take (run isNumeric text), c ∉ checkedMarks :=
    fun c mem => notMem_of_class (by decide) (forall_mem_take_run c mem)
  simp only [decimalLength, List.take_add, List.forall_mem_append]
  refine ⟨⟨numeric, ?_⟩, notMem_of_mem_exponent⟩
  split
  · next digits behind =>
    rw [behind, List.take_succ_cons, List.forall_mem_cons]
    exact ⟨by decide, numeric⟩
  · simp

/-- A number has no checked marks. -/
theorem notMem_of_mem_number {text : List Char} :
    ∀ c ∈ text.take (numberLength text), c ∉ checkedMarks := by
  unfold numberLength
  split
  · next x digits =>
    split
    · next hexadecimal =>
      have second : x ∉ checkedMarks := by
        rcases hexadecimal.1 with rfl | rfl <;> decide
      have hex : ∀ c ∈ digits.take (run (fun d => Text.isHexDigit d || d = '_') digits),
          c ∉ checkedMarks :=
        fun c mem => notMem_of_class (by decide) (forall_mem_take_run c mem)
      rw [List.take_succ_cons, List.take_succ_cons, List.forall_mem_cons, List.forall_mem_cons]
      exact ⟨by decide, second, hex⟩
    · exact notMem_of_mem_decimal
  · exact notMem_of_mem_decimal

/-! ## Quotations -/

/-- A quotation ends outside of the quote, and between its marks nothing is outside. -/
theorem unquoted_of_quoteLength? {mark : Char} (quotes : isQuoteMark mark = true)
    {text : List Char} {n : Nat} (ended : quoteLength? mark text = some n) :
    quoteAtEnd (some mark) (text.take n) = none ∧ unquoted (some mark) (text.take n) = [] := by
  fun_induction quoteLength? mark text generalizing n with
  | case1 => simp at ended
  | case2 more ih =>
    obtain ⟨m, rest, rfl⟩ := Option.map_eq_some_iff.1 ended
    simpa [quoteAtEnd, Text.quoteAfter, unquoted, quotes] using ih rest
  | case3 d more other =>
    obtain rfl := Option.some.inj ended
    simp [quoteAtEnd, Text.quoteAfter, unquoted]
  | case4 =>
    obtain rfl := Option.some.inj ended
    simp [quoteAtEnd, Text.quoteAfter, unquoted]
  | case5 c rest other ih =>
    obtain ⟨m, rest, rfl⟩ := Option.map_eq_some_iff.1 ended
    simpa [quoteAtEnd, Text.quoteAfter, unquoted, other] using ih rest

/-- Nothing of a text is outside of a quotation that does not end. -/
theorem unquoted_of_quoteLength?_eq_none {mark : Char} (quotes : isQuoteMark mark = true)
    {text : List Char} (unended : quoteLength? mark text = none) :
    unquoted (some mark) text = [] := by
  fun_induction quoteLength? mark text with
  | case1 => rfl
  | case2 more ih => simpa [unquoted, quotes] using ih (by simpa using unended)
  | case3 => simp at unended
  | case4 => simp at unended
  | case5 c rest other ih => simpa [unquoted, other] using ih (by simpa using unended)

/-- Inside of a quote, text without its mark stays inside. -/
theorem unquoted_append_of_forall_ne {mark : Char} {inner : List Char}
    (inside : ∀ d ∈ inner, d ≠ mark) (tail : List Char) :
    unquoted (some mark) (inner ++ tail) = unquoted (some mark) tail ∧
      quoteAtEnd (some mark) (inner ++ tail) = quoteAtEnd (some mark) tail := by
  induction inner with
  | nil => exact ⟨rfl, rfl⟩
  | cons d inner ih =>
    obtain ⟨ne, others⟩ := List.forall_mem_cons.1 inside
    obtain ⟨hidden, stillOpen⟩ := ih others
    constructor
    · simpa [unquoted, ne] using hidden
    · simpa [quoteAtEnd, Text.quoteAfter, ne] using stillOpen

/-! ## Shapes of lexemes -/

/-- What the checks of placeholders meet in a lexeme, which has a first character and others and
stands in front of a text. -/
inductive Shape (c : Char) (own back : List Char) (kind : LexemeKind) : Prop
  /-- No checked mark but dollar signs, and no word goes on behind one. -/
  | plain (other : kind ≠ .variable ∧ kind ≠ .comment)
    (unmarked : ∀ d ∈ c :: own, d ∉ checkedMarks ∨ d = '$')
    (stops : '$' ∉ c :: own ∨ Stops isWordChar back)
  /-- Quotes around everything that is checked. -/
  | quoted (other : kind ≠ .variable ∧ kind ≠ .comment)
    (inside : ∀ place ∈ unquoted none (c :: own), place.1 ∉ checkedMarks)
    (closed : IsClosed (c :: own) ∨ back = [])
  /-- A question mark with all the digits behind it. -/
  | question (isVariable : kind = .variable) (mark : c = '?') (digits : ∀ d ∈ own, d.isDigit = true)
    (stops : Stops Char.isDigit back)
  /-- A sign with all of the name behind it. -/
  | sign (isVariable : kind = if own = [] then .bad else .variable)
    (isSign : c = ':' ∨ c = '@' ∨ c = '$') (name : ∀ d ∈ own, isNameChar d = true)
    (stops : Stops isNameChar back)
  /-- A comment or a name in brackets, which may hold anything but does not end with a checked mark
  that goes on. -/
  | hidden (isHidden : kind = .comment ∨ kind ≠ .variable ∧ c = '[') (first : c ∉ checkedMarks)
    (stops : back = [] ∨ Stops isWordChar back ∨ ∃ d ∈ (c :: own).getLast?, d ∉ checkedMarks)

section Shape

variable {c : Char} {rest : List Char} {kind : LexemeKind}

/-- A run of a class without checked marks is plain, behind a character that is none. -/
theorem Shape.ofRun {p : Char → Bool} (other : kind ≠ .variable ∧ kind ≠ .comment)
    (first : c ∉ checkedMarks) (unmarked : checkedMarks.any p = false) :
    Shape c (rest.take (run p rest)) (rest.drop (run p rest)) kind := by
  have all : ∀ d ∈ c :: rest.take (run p rest), d ∉ checkedMarks := by
    rw [List.forall_mem_cons]
    exact ⟨first, fun d mem => notMem_of_class unmarked (forall_mem_take_run d mem)⟩
  refine .plain other (fun d mem => .inl (all d mem)) (.inl fun dollar => ?_)
  exact all '$' dollar (by decide)

/-- One or two characters that are no checked marks are plain. -/
theorem Shape.ofNotMem {own back : List Char} (other : kind ≠ .variable ∧ kind ≠ .comment)
    (unmarked : ∀ d ∈ c :: own, d ∉ checkedMarks) : Shape c own back kind :=
  .plain other (fun d mem => .inl (unmarked d mem)) (.inl fun dollar =>
    unmarked '$' dollar (by decide))

/-- Names and what is behind a name are plain. -/
theorem Shape.ofName {own back : List Char} (other : kind ≠ .variable ∧ kind ≠ .comment)
    (name : ∀ d ∈ c :: own, d ∉ checkedMarks ∨ d = '$') (stops : Stops isNameChar back) :
    Shape c own back kind :=
  .plain other name (.inr (Stops.word stops))

/-- Between an apostrophe behind a letter and the next one nothing is outside of quotes. -/
theorem Shape.ofLiteral {own back inner : List Char} (other : kind ≠ .variable ∧ kind ≠ .comment)
    (letter : c = 'x' ∨ c = 'X') (inside : ∀ d ∈ inner, d ≠ '\'')
    (shape : own = '\'' :: inner ++ ['\''] ∨ own = '\'' :: inner ∧ back = []) :
    Shape c own back kind := by
  have plain : isQuoteMark c = false := by
    rcases letter with rfl | rfl <;> decide
  have unmarked : c ∉ checkedMarks := by
    rcases letter with rfl | rfl <;> decide
  have mark : isQuoteMark '\'' = true := rfl
  have hides := unquoted_append_of_forall_ne inside
  have visits (tail : List Char) (hidden : unquoted (some '\'') tail = []) :
      ∀ place ∈ unquoted none (c :: '\'' :: inner ++ tail), place.1 ∉ checkedMarks := by
    rw [List.cons_append, List.cons_append]
    simp only [unquoted, plain, mark, hides, hidden]
    simpa using unmarked
  rcases shape with rfl | ⟨rfl, rfl⟩
  · refine .quoted other (visits ['\''] rfl) (.inl ?_)
    have closed : quoteAtEnd (some '\'') (inner ++ ['\'']) = none := (hides ['\'']).2
    simpa [Text.IsClosed, quoteAtEnd, Text.quoteAfter, plain, mark] using closed
  · refine .quoted other ?_ (.inr rfl)
    have none := visits [] rfl
    rwa [List.append_nil] at none

/-- Bytes in hexadecimal digits end at the next apostrophe, whether they are well spelled or not. -/
theorem shape_bytes {body : List Char} {n : Nat} (letter : c = 'x' ∨ c = 'X')
    (taken : (if (body.drop (run Text.isHexDigit body)).head? = some '\'' ∧
        run Text.isHexDigit body % 2 = 0 then (.bytes, run Text.isHexDigit body + 2)
      else (LexemeKind.bad, run (· ≠ '\'') body + 2)) = (kind, n)) :
    Shape c (('\'' :: body).take n) (('\'' :: body).drop n) kind := by
  split at taken
  · next well =>
    obtain ⟨rfl, rfl⟩ := Prod.mk.inj taken
    obtain ⟨more, behind⟩ := List.head?_eq_some_iff.1 well.1
    have inside : ∀ d ∈ body.take (run Text.isHexDigit body), d ≠ '\'' := fun d mem same => by
      have hex := forall_mem_take_run d mem
      rw [same] at hex
      exact absurd hex (by decide)
    refine .ofLiteral (by decide) letter inside (.inl ?_)
    rw [List.take_succ_cons, take_run_succ behind]
    rfl
  · obtain ⟨rfl, rfl⟩ := Prod.mk.inj taken
    have inside : ∀ d ∈ body.take (run (· ≠ '\'') body), d ≠ '\'' := fun d mem => by
      simpa using forall_mem_take_run d mem
    refine .ofLiteral (by decide) letter inside ?_
    by_cases ended : run (· ≠ '\'') body = body.length
    · refine .inr ⟨?_, ?_⟩
      · rw [ended, List.take_succ_cons, List.take_length, List.take_of_length_le (by simp)]
      · rw [ended]
        exact List.drop_eq_nil_of_le (by simp)
    · obtain ⟨d, more, behind, mark⟩ := exists_drop_run ended
      obtain rfl : d = '\'' := by simpa using mark
      refine .inl ?_
      rw [List.take_succ_cons, take_run_succ behind]
      rfl

/-- A number takes in no checked mark, unless a name goes on behind it. -/
theorem shape_number {length : Nat} (first : c ∉ checkedMarks)
    (size : length = numberLength (c :: rest) - 1) {n : Nat}
    (taken : (if run isNameChar (rest.drop length) = 0 then (LexemeKind.number, length)
      else (.bad, length + run isNameChar (rest.drop length))) = (kind, n)) :
    Shape c (rest.take n) (rest.drop n) kind := by
  have digits : ∀ d ∈ rest.take length, d ∉ checkedMarks := by
    have whole := @notMem_of_mem_number (c :: rest)
    cases long : numberLength (c :: rest) with
    | zero => simp [size, long]
    | succ m =>
      rw [long, List.take_succ_cons, List.forall_mem_cons] at whole
      rw [size, long]
      exact whole.2
  split at taken
  · obtain ⟨rfl, rfl⟩ := Prod.mk.inj taken
    exact .ofNotMem (by decide) (List.forall_mem_cons.2 ⟨first, digits⟩)
  · obtain ⟨rfl, rfl⟩ := Prod.mk.inj taken
    rw [List.take_add, ← List.drop_drop]
    refine .ofName (by decide) ?_ (stops_drop_run _ _)
    rw [List.forall_mem_cons, List.forall_mem_append]
    exact ⟨.inl first, fun d mem => .inl (digits d mem),
      fun d mem => notMem_or_eq_of_isNameChar (forall_mem_take_run d mem)⟩

/-- A comment between stars ends with its closing marks or with the text. -/
theorem drop_commentLength (text : List Char) :
    text.drop (commentLength text) = [] ∨
      (text.take (commentLength text)).getLast? = some '/' := by
  fun_induction commentLength text with
  | case1 more => exact .inr rfl
  | case2 d rest _ ih =>
    rw [List.drop_succ_cons, List.take_succ_cons]
    refine ih.imp_right fun last => ?_
    rw [List.getLast?_cons, last]
    rfl
  | case3 => exact .inl rfl

/-- A comment between stars goes on to its closing marks, or to the end of the text. -/
theorem shape_comment {inside : List Char} :
    Shape '/' (('*' :: inside).take (commentLength inside + 1))
      (('*' :: inside).drop (commentLength inside + 1)) .comment := by
  refine .hidden (.inl rfl) (by decide) ?_
  rw [List.take_succ_cons, List.drop_succ_cons]
  refine (drop_commentLength inside).imp_right fun last => .inr ⟨'/', ?_, by decide⟩
  rw [List.getLast?_cons, List.getLast?_cons, last]
  rfl

/-- A quotation is read to its closing mark, which is the last one of a run of marks, or to the end
of the text. -/
theorem shape_quotation {n : Nat} (quotes : isQuoteMark c = true)
    (other : kind ≠ .variable ∧ kind ≠ .comment)
    (taken : quoteLength? c rest = some n ∨ quoteLength? c rest = none ∧ n = rest.length) :
    Shape c (rest.take n) (rest.drop n) kind := by
  have outside (text : List Char) : unquoted none (c :: text) = unquoted (some c) text := by
    rw [unquoted, if_pos quotes]
  have after (text : List Char) : quoteAtEnd none (c :: text) = quoteAtEnd (some c) text := by
    simp [quoteAtEnd, Text.quoteAfter, quotes]
  rcases taken with ended | ⟨unended, rfl⟩
  · obtain ⟨closed, inside⟩ := unquoted_of_quoteLength? quotes ended
    refine .quoted other ?_ (.inl ((after _).trans closed))
    rw [outside, inside]
    simp
  · refine .quoted other ?_ (.inr List.drop_length)
    rw [List.take_length, outside, unquoted_of_quoteLength?_eq_none quotes unended]
    simp

/-- A name in brackets is read to the first closing bracket, or to the end of the text. -/
theorem shape_brackets {n : Nat} (other : kind ≠ .variable)
    (taken : n = run (· ≠ ']') rest + 1 ∧ run (· ≠ ']') rest ≠ rest.length ∨ n = rest.length) :
    Shape '[' (rest.take n) (rest.drop n) kind := by
  refine .hidden (.inr ⟨other, rfl⟩) (by decide) ?_
  rcases taken with ⟨rfl, inside⟩ | rfl
  · obtain ⟨d, more, behind, ends⟩ := exists_drop_run inside
    obtain rfl : d = ']' := by simpa using ends
    refine .inr (.inr ⟨']', ?_, by decide⟩)
    rw [take_run_succ behind, ← List.cons_append, List.getLast?_concat]
    rfl
  · exact .inl List.drop_length

/-- What an extent takes in has one of the shapes. -/
theorem shape_extent {n : Nat} (taken : extent c rest = (kind, n)) :
    Shape c (rest.take n) (rest.drop n) kind := by
  unfold extent at taken
  -- The cases are those of the store's reader, in its order.
  by_cases blank : isBlank c
  · rw [if_pos blank] at taken
    obtain ⟨rfl, rfl⟩ := Prod.mk.inj taken
    exact .ofRun (by decide) (notMem_of_class (by decide) blank) (by decide)
  rw [if_neg blank] at taken
  by_cases mark : c = '\ufeff'
  · rw [if_pos mark] at taken
    obtain ⟨rfl, rfl⟩ := Prod.mk.inj taken
    exact .ofNotMem (by decide) (by simp [mark, checkedMarks])
  rw [if_neg mark] at taken
  by_cases dashes : c = '-' ∧ rest.head? = some '-'
  · rw [if_pos dashes] at taken
    obtain ⟨rfl, rfl⟩ := Prod.mk.inj taken
    refine .hidden (.inl rfl) (by simp [dashes, checkedMarks]) (.inr (.inl fun d first => ?_))
    have line := stops_drop_run (· ≠ '\n') rest d first
    obtain rfl : d = '\n' := by simpa using line
    decide
  rw [if_neg dashes] at taken
  by_cases stars : c = '/' ∧ rest.head? = some '*' ∧ 1 < rest.length
  · rw [if_pos stars] at taken
    obtain ⟨rfl, rfl⟩ := Prod.mk.inj taken
    obtain ⟨rfl, star, -⟩ := stars
    obtain ⟨inside, rfl⟩ := List.head?_eq_some_iff.1 star
    exact shape_comment
  rw [if_neg stars] at taken
  by_cases quote : c = '\'' ∨ c = '"' ∨ c = '\x60'
  · rw [if_pos quote] at taken
    have quotes : isQuoteMark c = true := by
      rcases quote with rfl | rfl | rfl <;> decide
    cases ended : quoteLength? c rest with
    | some m =>
      rw [ended] at taken
      obtain ⟨rfl, rfl⟩ := Prod.mk.inj taken
      exact shape_quotation quotes (by split <;> decide) (.inl ended)
    | none =>
      rw [ended] at taken
      obtain ⟨rfl, rfl⟩ := Prod.mk.inj taken
      exact shape_quotation quotes (by decide) (.inr ⟨ended, rfl⟩)
  rw [if_neg quote] at taken
  by_cases bracket : c = '['
  · rw [if_pos bracket] at taken
    subst bracket
    by_cases unended : run (· ≠ ']') rest = rest.length
    · rw [if_pos unended] at taken
      obtain ⟨rfl, rfl⟩ := Prod.mk.inj taken
      exact shape_brackets (by decide) (.inr rfl)
    · rw [if_neg unended] at taken
      obtain ⟨rfl, rfl⟩ := Prod.mk.inj taken
      exact shape_brackets (by decide) (.inl ⟨rfl, unended⟩)
  rw [if_neg bracket] at taken
  by_cases bytes : (c = 'x' ∨ c = 'X') ∧ rest.head? = some '\''
  · rw [if_pos bytes] at taken
    obtain ⟨letter, apostrophe⟩ := bytes
    obtain ⟨body, rfl⟩ := List.head?_eq_some_iff.1 apostrophe
    exact shape_bytes letter taken
  rw [if_neg bytes] at taken
  by_cases digit : c.isDigit ∨ (c = '.' ∧ (rest.head?.any Char.isDigit))
  · rw [if_pos digit] at taken
    have first : c ∉ checkedMarks := by
      rcases digit with digit | ⟨rfl, -⟩
      · exact notMem_of_class (by decide) digit
      · decide
    exact shape_number first rfl taken
  rw [if_neg digit] at taken
  by_cases question : c = '?'
  · rw [if_pos question] at taken
    obtain ⟨rfl, rfl⟩ := Prod.mk.inj taken
    exact .question rfl question forall_mem_take_run (stops_drop_run _ _)
  rw [if_neg question] at taken
  by_cases sign : c = ':' ∨ c = '@' ∨ c = '$'
  · rw [if_pos sign] at taken
    obtain ⟨rfl, rfl⟩ := Prod.mk.inj taken
    refine .sign ?_ sign forall_mem_take_run (stops_drop_run _ _)
    have empty : rest.take (run isNameChar rest) = [] ↔ run isNameChar rest = 0 := by
      rw [(take_run isNameChar rest).1, run, List.length_eq_zero_iff]
    simp only [empty]
  rw [if_neg sign] at taken
  have unmarked : c ∉ checkedMarks := by
    simp only [not_or] at quote sign
    simp [checkedMarks, quote, question, sign]
  by_cases name : isNameChar c
  · rw [if_pos name] at taken
    obtain ⟨rfl, rfl⟩ := Prod.mk.inj taken
    refine .ofName (by decide) ?_ (stops_drop_run _ _)
    rw [List.forall_mem_cons]
    exact ⟨.inl unmarked, fun d mem => notMem_or_eq_of_isNameChar (forall_mem_take_run d mem)⟩
  rw [if_neg name] at taken
  by_cases double : rest.head?.any (isDoubleMark c)
  · rw [if_pos double] at taken
    obtain ⟨rfl, rfl⟩ := Prod.mk.inj taken
    cases rest with
    | nil => simp at double
    | cons d more =>
      have second : d ∉ checkedMarks := by
        simp only [List.head?_cons, Option.any_some, isDoubleMark, decide_eq_true_eq,
          List.mem_cons, Prod.mk.injEq, List.not_mem_nil, or_false] at double
        rcases double with ⟨-, rfl⟩ | ⟨-, rfl⟩ | ⟨-, rfl⟩ | ⟨-, rfl⟩ | ⟨-, rfl⟩ | ⟨-, rfl⟩ |
          ⟨-, rfl⟩ | ⟨-, rfl⟩ | ⟨-, rfl⟩ <;> decide
      exact .ofNotMem (by decide) (by simp [unmarked, second])
  rw [if_neg double] at taken
  by_cases single :
      c ∈ ['(', ')', ',', ';', '=', '<', '>', '+', '-', '*', '/', '%', '.', '|', '&', '~']
  · rw [if_pos single] at taken
    obtain ⟨rfl, rfl⟩ := Prod.mk.inj taken
    exact .ofNotMem (by decide) (by simpa using unmarked)
  · rw [if_neg single] at taken
    obtain ⟨rfl, rfl⟩ := Prod.mk.inj taken
    exact .ofNotMem (by decide) (by simpa using unmarked)

variable {own back : List Char}

/-- A lexeme that is neither a comment nor in brackets leaves no quote open, unless the text ends
with it. -/
theorem Shape.closed (shape : Shape c own back kind) (shown : kind ≠ .comment ∧ c ≠ '[') :
    IsClosed (c :: own) ∨ back = [] := by
  have unmarked {d : Char} (other : d ∉ checkedMarks ∨ d = '$') : isQuoteMark d = false := by
    by_contra mark
    simp only [isQuoteMark, Bool.not_eq_false, Bool.or_eq_true, decide_eq_true_eq] at mark
    rcases mark with (rfl | rfl) | rfl <;> revert other <;> decide
  cases shape with
  | plain _ all _ => exact .inl (Text.isClosed_of_forall fun d mem => unmarked (all d mem))
  | quoted _ _ closed => exact closed
  | question _ mark digits _ =>
    refine .inl (Text.isClosed_of_forall (List.forall_mem_cons.2 ⟨by rw [mark]; rfl, ?_⟩))
    exact fun d mem => unmarked (.inl (notMem_of_class (by decide) (digits d mem)))
  | sign _ isSign name _ =>
    refine .inl (Text.isClosed_of_forall (List.forall_mem_cons.2 ⟨?_, ?_⟩))
    · rcases isSign with rfl | rfl | rfl <;> rfl
    · exact fun d mem => unmarked (notMem_or_eq_of_isNameChar (name d mem))
  | hidden isHidden =>
    rcases isHidden with comment | ⟨-, bracket⟩
    · exact absurd comment shown.1
    · exact absurd bracket shown.2

/-- Only the checked marks other than those of quotes start a variable. -/
theorem startsVariable_of_notMem {rest : List Char} (unmarked : c ∉ checkedMarks) :
    startsVariable c rest = false := by
  by_contra starts
  have starts := Text.startsVariable_iff.1 (Bool.not_eq_false _ ▸ starts)
  refine unmarked ?_
  cases starts with
  | numbered => decide
  | named sign => rcases sign with rfl | rfl | rfl <;> decide

/-- Where no word goes on, no variable starts. -/
theorem startsVariable_of_stops {rest : List Char} (stops : Stops isWordChar rest) :
    startsVariable c rest = false := by
  by_contra starts
  have starts := Text.startsVariable_iff.1 (Bool.not_eq_false _ ▸ starts)
  cases starts with
  | @numbered digit rest isDigit =>
    have word : isWordChar digit = true := by
      have alphanum : digit.isAlphanum = true := by
        show (digit.isAlpha || digit.isDigit) = true
        rw [isDigit, Bool.or_true]
      rw [isWordChar, Text.isAlphanumeric_of_isAlphanum alphanum, Bool.true_or]
    rw [stops digit rfl] at word
    exact Bool.noConfusion word
  | @named sign d rest _ word =>
    rw [stops d rfl] at word
    exact Bool.noConfusion word

/-- Whether a variable starts in a lexeme does not depend on what is behind the lexeme. -/
theorem Shape.sealed (shape : Shape c own back kind) {place : Char × List Char}
    (mem : place ∈ unquoted none (c :: own)) :
    startsVariable place.1 (place.2 ++ back) = startsVariable place.1 place.2 := by
  obtain ⟨d, rest⟩ := place
  cases rest with
  | cons e rest => rfl
  | nil =>
    -- Only the last character of the lexeme looks at what is behind it.
    obtain ⟨before, same⟩ := Text.exists_append_of_mem_unquoted mem
    have last : (c :: own).getLast? = some d := by rw [same, List.getLast?_concat]
    have listed : d ∈ c :: own := List.mem_of_getLast? last
    show startsVariable d back = false
    cases shape with
    | plain _ all stops =>
      rcases all d listed with unmarked | rfl
      · exact startsVariable_of_notMem unmarked
      · exact startsVariable_of_stops (stops.resolve_left (not_not.2 listed))
    | quoted _ inside _ => exact startsVariable_of_notMem (inside _ mem)
    | question _ mark digits stops =>
      rcases List.mem_cons.1 listed with rfl | digit
      · subst mark
        cases back with
        | nil => rfl
        | cons e back => simp [startsVariable, stops e rfl]
      · exact startsVariable_of_notMem (notMem_of_class (by decide) (digits d digit))
    | sign _ _ _ stops => exact startsVariable_of_stops (Stops.word stops)
    | hidden _ _ stops =>
      rcases stops with rfl | stops | ⟨e, ends, unmarked⟩
      · rfl
      · exact startsVariable_of_stops stops
      · rw [last] at ends
        obtain rfl := Option.some.inj ends
        exact startsVariable_of_notMem unmarked

end Shape

end TypedQuery.Sql
