import Mathlib.Algebra.GroupWithZero.Nat
import TypedQuery.Proofs.Draft.Placeholders
import TypedQuery.Proofs.Sql.Shapes

/-!
# Placeholders as the store reads them

What the checks of a predicate's placeholders find in a text is what they find in the lexemes that
the store reads in it (`checks_lexemes`), provided that comments and names in brackets leave no
quote open. The rest is counting: in a text that passes the checks every question mark is a variable
of the store or stands in a comment (`Draft.whereRaw_storeVariables`). The checks do not know of
comments, so a value is asked for where the store reads none (`Office.whereRaw_departs_from_store`).
-/

namespace TypedQuery.Sql

open Text (isQuoteMark isWordChar unquoted IsClosed startsVariable Outside)

/-! ## Texts as their lexemes -/

/-- A text in which a numbered or named placeholder starts outside of all quotes. -/
def HoldsVariable (text : List Char) : Prop :=
  ∃ place ∈ unquoted none text, startsVariable place.1 place.2 = true

instance : DecidablePred HoldsVariable := fun text =>
  inferInstanceAs (Decidable (∃ place ∈ unquoted none text, startsVariable place.1 place.2 = true))

/-- Whether the store reads a lexeme without the checks knowing of it: a comment, or a name in
brackets. -/
def Lexeme.IsHidden (lexeme : Lexeme) : Prop :=
  lexeme.kind = .comment ∨ lexeme.text.head? = some '['

/-- A lexeme has one of the shapes. -/
theorem exists_shape_of_mem {text : List Char} {lexeme : Lexeme} (mem : lexeme ∈ lexemes text) :
    ∃ c own back, lexeme.text = c :: own ∧ Shape c own back lexeme.kind := by
  fun_induction lexemes text with
  | case1 => simp at mem
  | case2 c rest kind n taken ih =>
    rcases List.mem_cons.1 mem with rfl | mem
    · exact ⟨c, _, _, rfl, shape_extent taken⟩
    · exact ih mem

/-- Behind a text that leaves no quote open, or in front of nothing, the checks start anew. -/
theorem unquoted_append_of_closed {s t : List Char} (closed : IsClosed s ∨ t = []) :
    unquoted none (s ++ t) =
      (unquoted none s).map (fun place => (place.1, place.2 ++ t)) ++ unquoted none t := by
  rw [Text.unquoted_append]
  rcases closed with closed | rfl
  · rw [closed]
  · rfl

/-- If comments and names in brackets leave no quote open, the checks find in a text what they find
in its lexemes. -/
theorem checks_lexemes {text : List Char}
    (closed : ∀ lexeme ∈ lexemes text, lexeme.IsHidden → IsClosed lexeme.text) :
    (unquoted none text).countP (fun place => place.1 = '?') =
        ((lexemes text).map fun lexeme =>
          (unquoted none lexeme.text).countP fun place => place.1 = '?').sum ∧
      (HoldsVariable text ↔ ∃ lexeme ∈ lexemes text, HoldsVariable lexeme.text) := by
  fun_induction lexemes text with
  | case1 => simp [HoldsVariable, unquoted]
  | case2 c rest kind n taken ih =>
    -- The first lexeme leaves no quote open, so behind it the checks start anew.
    obtain ⟨first, others⟩ := List.forall_mem_cons.1 closed
    obtain ⟨count, holds⟩ := ih others
    have shape := shape_extent taken
    have ends : IsClosed (c :: rest.take n) ∨ rest.drop n = [] := by
      by_cases hidden : (Lexeme.mk kind (c :: rest.take n)).IsHidden
      · exact .inl (first hidden)
      · refine shape.closed ⟨fun comment => hidden (.inl comment), fun bracket => hidden (.inr ?_)⟩
        rw [bracket]
        rfl
    have cut := unquoted_append_of_closed ends
    have whole : c :: rest.take n ++ rest.drop n = c :: rest := by
      rw [List.cons_append, List.take_append_drop]
    rw [whole] at cut
    constructor
    · rw [cut, List.countP_append, List.countP_map, count, List.map_cons, List.sum_cons]
      rfl
    · unfold HoldsVariable at holds ⊢
      rw [cut]
      simp only [List.mem_append, List.mem_map, List.mem_cons, exists_eq_or_imp]
      rw [← holds]
      constructor
      · rintro ⟨place, ⟨own, mem, rfl⟩ | mem, starts⟩
        · exact .inl ⟨own, mem, by rwa [shape.sealed mem] at starts⟩
        · exact .inr ⟨place, mem, starts⟩
      · rintro (⟨place, mem, starts⟩ | ⟨place, mem, starts⟩)
        · exact ⟨_, .inl ⟨place, mem, rfl⟩, by rwa [shape.sealed mem]⟩
        · exact ⟨place, .inr mem, starts⟩

/-- A text whose first lexeme is known, and the lexemes behind it. -/
theorem lexemes_of_extent {c : Char} {rest : List Char} {kind : LexemeKind} {n : Nat}
    {others : List Lexeme} (taken : extent c rest = (kind, n))
    (behind : lexemes (rest.drop n) = others) :
    lexemes (c :: rest) = ⟨kind, c :: rest.take n⟩ :: others := by
  rw [lexemes, taken, ← behind]

/-! ## Variables of the store -/

/-- The variables of a text as the store reads it. -/
def storeVariables (text : List Char) : List (List Char) :=
  ((lexemes text).filter (·.kind = .variable)).map (·.text)

/-- The number of question marks that the checks find in a text. -/
def marks (text : List Char) : Nat :=
  (unquoted none text).countP fun place => place.1 = '?'

/-- The number of question marks that the checks find in the comments of a text. -/
def commentMarks (text : List Char) : Nat :=
  (((lexemes text).filter (·.kind = .comment)).map fun lexeme => marks lexeme.text).sum

/-- Whether a variable is a sign with a name that starts with a dollar sign, or with a character
beyond ASCII that is neither a letter nor a digit of any script. -/
def IsOdd (token : List Char) : Prop :=
  ∃ sign c rest, token = sign :: c :: rest ∧ (sign = ':' ∨ sign = '@' ∨ sign = '$') ∧
    isWordChar c = false

/-- A text whose comments leave no quote open, and whose names in brackets leave none open either
and hold nothing that the checks take for a placeholder. -/
structure Readable (text : List Char) : Prop where
  comments : ∀ lexeme ∈ lexemes text, lexeme.kind = .comment → IsClosed lexeme.text
  brackets : ∀ lexeme ∈ lexemes text, lexeme.text.head? = some '[' →
    IsClosed lexeme.text ∧ marks lexeme.text = 0 ∧ ¬HoldsVariable lexeme.text

/-- A text without question marks has none for the checks. -/
theorem marks_eq_zero {text : List Char} (unmarked : ∀ c ∈ text, c ≠ '?') : marks text = 0 := by
  rw [marks, List.countP_eq_zero]
  intro place mem
  obtain ⟨before, same⟩ := Text.exists_append_of_mem_unquoted mem
  simpa using unmarked place.1 (by simp [same])

section Shape

variable {c : Char} {own back : List Char} {kind : LexemeKind}

/-- A question mark in front of a digit is a numbered placeholder. -/
theorem holdsVariable_question {d : Char} {rest : List Char} (digit : d.isDigit = true) :
    HoldsVariable ('?' :: d :: rest) :=
  ⟨('?', d :: rest), by simp [unquoted, isQuoteMark], by simp [startsVariable, digit]⟩

/-- A sign in front of a word is a named placeholder. -/
theorem holdsVariable_sign {d : Char} {rest : List Char} (isSign : c = ':' ∨ c = '@' ∨ c = '$')
    (word : isWordChar d = true) : HoldsVariable (c :: d :: rest) := by
  have bare : isQuoteMark c = false := by rcases isSign with rfl | rfl | rfl <;> rfl
  exact ⟨(c, d :: rest), by simp [unquoted, bare],
    Text.startsVariable_iff.2 (.named isSign word)⟩

/-- A variable that the checks let pass is a bare question mark or odd. -/
theorem Shape.eq_or_isOdd (shape : Shape c own back kind) (isVariable : kind = .variable)
    (passes : ¬HoldsVariable (c :: own)) : c :: own = ['?'] ∨ IsOdd (c :: own) := by
  cases shape with
  | plain other => exact absurd isVariable other.1
  | quoted other => exact absurd isVariable other.1
  | question _ mark digits _ =>
    subst mark
    cases own with
    | nil => exact .inl rfl
    | cons d own => exact absurd (holdsVariable_question (digits d List.mem_cons_self)) passes
  | sign isBad isSign name _ =>
    cases own with
    | nil =>
      rw [isVariable] at isBad
      exact LexemeKind.noConfusion isBad
    | cons d own =>
      by_cases word : isWordChar d
      · exact absurd (holdsVariable_sign isSign word) passes
      · exact .inr ⟨c, d, own, rfl, isSign, by simpa using word⟩
  | hidden isHidden =>
    rcases isHidden with comment | ⟨other, -⟩
    · rw [isVariable] at comment
      exact LexemeKind.noConfusion comment
    · exact absurd isVariable other

/-- A lexeme that the checks let pass has a question mark for them just if it is a variable that is
one, comments and brackets aside. -/
theorem Shape.marks_eq (shape : Shape c own back kind) (shown : kind ≠ .comment ∧ c ≠ '[')
    (passes : ¬HoldsVariable (c :: own)) :
    marks (c :: own) = if kind = .variable ∧ c :: own = ['?'] then 1 else 0 := by
  cases shape with
  | plain other all _ =>
    rw [if_neg fun both => other.1 both.1]
    refine marks_eq_zero fun d mem mark => ?_
    rcases all d mem with unmarked | rfl
    · exact unmarked (by rw [mark]; decide)
    · exact absurd mark (by decide)
  | quoted other inside _ =>
    rw [if_neg fun both => other.1 both.1, marks, List.countP_eq_zero]
    intro place mem mark
    refine inside place mem ?_
    rw [of_decide_eq_true mark]
    decide
  | question isVariable mark digits _ =>
    subst mark
    cases own with
    | nil => rw [if_pos ⟨isVariable, rfl⟩]; rfl
    | cons d own => exact absurd (holdsVariable_question (digits d List.mem_cons_self)) passes
  | sign _ isSign name _ =>
    have first : c ≠ '?' := by rcases isSign with rfl | rfl | rfl <;> decide
    rw [if_neg fun both => first (List.cons.inj both.2).1]
    refine marks_eq_zero (List.forall_mem_cons.2 ⟨first, fun d mem mark => ?_⟩)
    have word := name d mem
    rw [mark] at word
    exact absurd word (by decide)
  | hidden isHidden =>
    rcases isHidden with comment | ⟨-, bracket⟩
    · exact absurd comment shown.1
    · exact absurd bracket shown.2

/-- A lexeme that is no variable but a bare question mark passes the checks, if no dollar sign in it
stands in front of a word, comments and brackets aside. -/
theorem Shape.passes (shape : Shape c own back kind) (shown : kind ≠ .comment ∧ c ≠ '[')
    (bare : kind = .variable → c :: own = ['?'])
    (dollars : kind ≠ .variable → ∀ before d rest, Outside (c :: own) before '$' (d :: rest) →
      isWordChar d = false) : ¬HoldsVariable (c :: own) := by
  rintro ⟨⟨d, rest⟩, mem, starts⟩
  obtain ⟨before, outside⟩ := Text.mem_unquoted_iff.1 mem
  have listed : d ∈ c :: own := by simp [outside.text_eq]
  have alone (single : own = []) : rest = [] := by
    have sizes := congrArg List.length outside.text_eq
    rw [single, List.length_append, List.length_cons, List.length_cons, List.length_nil] at sizes
    exact List.length_eq_zero_iff.1 (by omega)
  -- What starts in a lexeme that is shown is a dollar sign in a name, or the variable itself.
  cases shape with
  | plain other all _ =>
    rcases all d listed with unmarked | rfl
    · rw [startsVariable_of_notMem unmarked] at starts
      exact Bool.noConfusion starts
    · cases Text.startsVariable_iff.1 starts with
      | @named _ e rest _ word =>
        rw [dollars other.1 before e rest outside] at word
        exact Bool.noConfusion word
  | quoted _ inside _ =>
    rw [startsVariable_of_notMem (inside _ mem)] at starts
    exact Bool.noConfusion starts
  | question isVariable _ _ _ =>
    rw [alone (List.cons.inj (bare isVariable)).2] at starts
    exact Bool.noConfusion starts
  | sign isVariable _ _ _ =>
    by_cases single : own = []
    · rw [alone single] at starts
      exact Bool.noConfusion starts
    · rw [if_neg single] at isVariable
      exact single (List.cons.inj (bare isVariable)).2
  | hidden isHidden =>
    rcases isHidden with comment | ⟨-, bracket⟩
    · exact shown.1 comment
    · exact shown.2 bracket

end Shape

/-- If in each text but the comments the question marks are the variables that are one, then all
question marks are those variables and the ones in the comments. -/
theorem sum_marks {all : List Lexeme}
    (each : ∀ lexeme ∈ all, marks lexeme.text =
      (if lexeme.kind = .variable ∧ lexeme.text = ['?'] then 1 else 0) +
        if lexeme.kind = .comment then marks lexeme.text else 0) :
    (all.map fun lexeme => marks lexeme.text).sum =
      ((all.filter (·.kind = .variable)).map (·.text)).count ['?'] +
        ((all.filter (·.kind = .comment)).map fun lexeme => marks lexeme.text).sum := by
  induction all with
  | nil => rfl
  | cons lexeme all ih =>
    obtain ⟨first, others⟩ := List.forall_mem_cons.1 each
    rw [List.map_cons, List.sum_cons, ih others, List.filter_cons, List.filter_cons]
    by_cases isVariable : lexeme.kind = .variable
    · simp only [isVariable, true_and] at first
      simp [isVariable, first, List.count_cons]
      omega
    · simp only [isVariable, false_and, if_false, Nat.zero_add] at first
      by_cases isComment : lexeme.kind = .comment
      · simp [isComment]
        omega
      · simp [isVariable, isComment] at first ⊢
        omega

/-- In a readable text that passes the checks, all question marks are variables or stand in
comments. -/
theorem Readable.marks_lexeme {text : List Char} (readable : Readable text) {lexeme : Lexeme}
    (mem : lexeme ∈ lexemes text) (passes : ¬HoldsVariable lexeme.text) :
    marks lexeme.text =
      (if lexeme.kind = .variable ∧ lexeme.text = ['?'] then 1 else 0) +
        if lexeme.kind = .comment then marks lexeme.text else 0 := by
  obtain ⟨c, own, back, same, shape⟩ := exists_shape_of_mem mem
  -- A comment counts with all its question marks, a name in brackets has none.
  by_cases isComment : lexeme.kind = .comment
  · simp [isComment]
  by_cases bracket : c = '['
  · subst bracket
    obtain ⟨-, unmarked, -⟩ := readable.brackets lexeme mem (by rw [same]; rfl)
    have other : lexeme.text ≠ ['?'] := by simp [same]
    rw [if_neg isComment, if_neg fun both => other both.2, unmarked]
  · rw [same] at passes ⊢
    rw [if_neg isComment, Nat.add_zero, shape.marks_eq ⟨isComment, bracket⟩ passes]

/-- In a readable text the checks find what they find in its lexemes. -/
theorem Readable.checks {text : List Char} (readable : Readable text) :
    marks text = ((lexemes text).map fun lexeme => marks lexeme.text).sum ∧
      (HoldsVariable text ↔ ∃ lexeme ∈ lexemes text, HoldsVariable lexeme.text) := by
  refine checks_lexemes fun lexeme mem hidden => ?_
  rcases hidden with comment | bracket
  · exact readable.comments lexeme mem comment
  · exact (readable.brackets lexeme mem bracket).1

/-- The search for placeholders finds none where none starts. -/
theorem numberedOrNamed?_eq_none {fragment : String} :
    Text.numberedOrNamed? fragment = none ↔ ¬HoldsVariable fragment.toList := by
  rw [Text.numberedOrNamed?, Option.map_eq_none_iff, List.find?_eq_none, HoldsVariable]
  simp only [not_exists, not_and]

/-- A text whose variables are question marks, as many as there are values if those in comments are
counted as well, and in which nothing else is taken for a placeholder: comments hold none, and no
dollar sign in front of a word stands in another lexeme. -/
structure Bindable (text : List Char) (values : Nat) : Prop where
  bare : ∀ token ∈ storeVariables text, token = ['?']
  counted : (storeVariables text).length + commentMarks text = values
  comments : ∀ lexeme ∈ lexemes text, lexeme.kind = .comment → ¬HoldsVariable lexeme.text
  dollars : ∀ lexeme ∈ lexemes text, lexeme.kind ≠ .variable →
    ∀ before d rest, Outside lexeme.text before '$' (d :: rest) → isWordChar d = false

/-- No lexeme of a text to which values can be bound is taken for a placeholder. -/
theorem Bindable.passes {text : List Char} {values : Nat} (readable : Readable text)
    (bindable : Bindable text values) : ¬HoldsVariable text := by
  rw [readable.checks.2]
  rintro ⟨lexeme, mem, holds⟩
  by_cases isComment : lexeme.kind = .comment
  · exact bindable.comments lexeme mem isComment holds
  by_cases bracket : lexeme.text.head? = some '['
  · exact (readable.brackets lexeme mem bracket).2.2 holds
  obtain ⟨c, own, back, same, shape⟩ := exists_shape_of_mem mem
  have shown : c ≠ '[' := by
    rintro rfl
    exact bracket (by rw [same]; rfl)
  have bare (isVariable : lexeme.kind = .variable) : lexeme.text = ['?'] := by
    refine bindable.bare lexeme.text (List.mem_map_of_mem ?_)
    rw [List.mem_filter, decide_eq_true_eq]
    exact ⟨mem, isVariable⟩
  have dollars := bindable.dollars lexeme mem
  rw [same] at holds bare dollars
  exact shape.passes ⟨isComment, shown⟩ bare dollars holds

end TypedQuery.Sql

namespace TypedQuery

open Sql

/-- The checks of a predicate's placeholders go by its quotes alone. Where comments and names in
brackets do not disturb these, they agree with the store: in a predicate that is accepted every
variable is a bare question mark, names that start with an odd character aside, and there is a value
for each of these and for each question mark in a comment; and a predicate whose variables are all
of that kind, with as many values, is refused only if it is blank. -/
theorem Draft.whereRaw_storeVariables {fragment : String} (readable : Readable fragment.toList)
    (params : List Value) :
    (∀ draft next : Draft, draft.whereRaw fragment params = .ok next →
      (∀ token ∈ storeVariables fragment.toList, token = ['?'] ∨ IsOdd token) ∧
        (storeVariables fragment.toList).count ['?'] + commentMarks fragment.toList =
          params.length) ∧
      (Bindable fragment.toList params.length → ∀ draft : Draft,
        draft.whereRaw fragment params = draft.extend fun body =>
          if Text.isBlankText fragment then .error (.invalidPlan .emptyPredicate)
          else .ok (body.pushPredicate ⟨fragment, params⟩)) := by
  have total (passes : ¬HoldsVariable fragment.toList) : Text.placeholderCount fragment =
      (storeVariables fragment.toList).count ['?'] + commentMarks fragment.toList := by
    have each := mt readable.checks.2.2 passes
    calc Text.placeholderCount fragment
      _ = marks fragment.toList := rfl
      _ = ((lexemes fragment.toList).map fun lexeme => marks lexeme.text).sum := readable.checks.1
      _ = _ := sum_marks fun lexeme mem =>
        readable.marks_lexeme mem fun holds => each ⟨lexeme, mem, holds⟩
  constructor
  · -- A variable in which no placeholder starts for the checks is bare or odd.
    intro draft next done
    obtain ⟨body, after, accepted⟩ := exists_whereRaw_eq_ok done
    obtain ⟨-, unnamed, counted, -⟩ := Body.whereRaw_eq_ok.1 accepted
    have passes := numberedOrNamed?_eq_none.1 unnamed
    refine ⟨fun token listed => ?_, by rw [← total passes, counted]⟩
    obtain ⟨lexeme, found, rfl⟩ := List.mem_map.1 listed
    obtain ⟨mem, isVariable⟩ := List.mem_filter.1 found
    obtain ⟨c, own, back, same, shape⟩ := exists_shape_of_mem mem
    rw [same]
    refine shape.eq_or_isOdd (of_decide_eq_true isVariable) fun holds => passes ?_
    rw [← same] at holds
    exact readable.checks.2.2 ⟨lexeme, mem, holds⟩
  · -- Where all variables are bare, the marks are as many as the values.
    intro bindable draft
    have passes := bindable.passes readable
    have all : (storeVariables fragment.toList).count ['?'] =
        (storeVariables fragment.toList).length :=
      List.count_eq_length.2 fun token listed => (bindable.bare token listed).symm
    have counted : Text.placeholderCount fragment = params.length := by
      rw [total passes, all, bindable.counted]
    unfold Draft.whereRaw
    congr 1
    funext body
    by_cases blank : Text.isBlankText fragment
    · simp [Body.whereRaw, blank]
      rfl
    · rw [if_neg blank]
      exact Body.whereRaw_eq_ok.2
        ⟨by simpa using blank, numberedOrNamed?_eq_none.2 passes, counted, rfl⟩

namespace Office

/-- A condition with a name in brackets, and a comment with a question mark. -/
def commentedCondition : String :=
  "[a] = ? /* ? */"

theorem lexemes_commentedCondition :
    lexemes commentedCondition.toList =
      [⟨.name, "[a]".toList⟩, ⟨.blank, [' ']⟩, ⟨.mark, ['=']⟩, ⟨.blank, [' ']⟩, ⟨.variable, ['?']⟩,
        ⟨.blank, [' ']⟩, ⟨.comment, "/* ? */".toList⟩] :=
  @lexemes_of_extent '[' "a] = ? /* ? */".toList .name 2 _ rfl <|
  @lexemes_of_extent ' ' "= ? /* ? */".toList .blank 0 _ rfl <|
  @lexemes_of_extent '=' " ? /* ? */".toList .mark 0 _ rfl <|
  @lexemes_of_extent ' ' "? /* ? */".toList .blank 0 _ rfl <|
  @lexemes_of_extent '?' " /* ? */".toList .variable 0 _ rfl <|
  @lexemes_of_extent ' ' "/* ? */".toList .blank 0 _ rfl <|
  @lexemes_of_extent '/' "* ? */".toList .comment 6 _ rfl <|
  lexemes_nil

theorem readable_commentedCondition : Readable commentedCondition.toList := by
  constructor
  · rw [lexemes_commentedCondition]
    decide
  · rw [lexemes_commentedCondition]
    decide

theorem bindable_commentedCondition : Bindable commentedCondition.toList 2 := by
  constructor
  · rw [storeVariables, lexemes_commentedCondition]
    decide
  · rw [storeVariables, commentMarks, lexemes_commentedCondition]
    decide
  · rw [lexemes_commentedCondition]
    decide
  · have unmarked : ∀ lexeme ∈ lexemes commentedCondition.toList, '$' ∉ lexeme.text := by
      rw [lexemes_commentedCondition]
      decide
    intro lexeme mem _ before d rest outside
    exact absurd (by simp [outside.text_eq]) (unmarked lexeme mem)

/-- The name in brackets needs no value, and the question mark in the comment needs one. -/
theorem whereRaw_commentedCondition :
    Readable commentedCondition.toList ∧ Bindable commentedCondition.toList 2 ∧
      ∃ next, noteDraft.whereRaw commentedCondition [.integer 1, .text "x"] = .ok next ∧
        (storeVariables commentedCondition.toList).count ['?'] +
          commentMarks commentedCondition.toList = 2 := by
  obtain ⟨accepted, taken⟩ :=
    Draft.whereRaw_storeVariables readable_commentedCondition [.integer 1, .text "x"]
  have done := taken bindable_commentedCondition noteDraft
  exact ⟨readable_commentedCondition, bindable_commentedCondition, _, done,
    (accepted noteDraft _ done).2⟩

/-- A condition without variables, whose comment has a question mark. -/
theorem lexemes_number_comment :
    lexemes "id = 1 -- ?".toList =
      [⟨.word, "id".toList⟩, ⟨.blank, [' ']⟩, ⟨.mark, ['=']⟩, ⟨.blank, [' ']⟩, ⟨.number, ['1']⟩,
        ⟨.blank, [' ']⟩, ⟨.comment, "-- ?".toList⟩] :=
  @lexemes_of_extent 'i' "d = 1 -- ?".toList .word 1 _ rfl <|
  @lexemes_of_extent ' ' "= 1 -- ?".toList .blank 0 _ rfl <|
  @lexemes_of_extent '=' " 1 -- ?".toList .mark 0 _ rfl <|
  @lexemes_of_extent ' ' "1 -- ?".toList .blank 0 _ rfl <|
  @lexemes_of_extent '1' " -- ?".toList .number 0 _ rfl <|
  @lexemes_of_extent ' ' "-- ?".toList .blank 0 _ rfl <|
  @lexemes_of_extent '-' "- ?".toList .comment 3 _ rfl <|
  lexemes_nil

/-- A condition that is one variable, and a comment with another question mark. -/
theorem lexemes_variable_comment :
    lexemes "? -- ?".toList = [⟨.variable, ['?']⟩, ⟨.blank, [' ']⟩, ⟨.comment, "-- ?".toList⟩] :=
  @lexemes_of_extent '?' " -- ?".toList .variable 0 _ rfl <|
  @lexemes_of_extent ' ' "-- ?".toList .blank 0 _ rfl <|
  @lexemes_of_extent '-' "- ?".toList .comment 3 _ rfl <|
  lexemes_nil

/-- The checks and the store part in comments: a condition without variables takes a value for the
question mark in its comment, and one with a single variable is refused with a single value. They
part in names as well: a question mark in brackets takes a value, a variable with an odd name takes
none, and a name with a dollar sign is refused. -/
theorem whereRaw_departs_from_store :
    ((∃ next, noteDraft.whereRaw "id = 1 -- ?" [.integer 3] = .ok next) ∧
        storeVariables "id = 1 -- ?".toList = []) ∧
      (storeVariables "? -- ?".toList = [['?']] ∧
        noteDraft.whereRaw "? -- ?" [.integer 3] =
          .error (.parameterCountMismatch "? -- ?" 2 1)) ∧
      ((∃ next, noteDraft.whereRaw "[?]" [.integer 3] = .ok next) ∧
        storeVariables "[?]".toList = []) ∧
      ((∃ next, noteDraft.whereRaw "@$" [] = .ok next) ∧
        storeVariables "@$".toList = [['@', '$']]) ∧
      (storeVariables "a$b".toList = [] ∧
        noteDraft.whereRaw "a$b" [] = .error (.invalidPlan (.placeholderStyle "$b" "a$b"))) := by
  have brackets : lexemes "[?]".toList = [⟨.name, "[?]".toList⟩] :=
    @lexemes_of_extent '[' "?]".toList .name 2 _ rfl lexemes_nil
  have odd : lexemes "@$".toList = [⟨.variable, "@$".toList⟩] :=
    @lexemes_of_extent '@' "$".toList .variable 1 _ rfl lexemes_nil
  have word : lexemes "a$b".toList = [⟨.word, "a$b".toList⟩] :=
    @lexemes_of_extent 'a' "$b".toList .word 2 _ rfl lexemes_nil
  refine ⟨⟨⟨_, rfl⟩, ?_⟩, ⟨?_, rfl⟩, ⟨⟨_, rfl⟩, ?_⟩, ⟨⟨_, rfl⟩, ?_⟩, ⟨?_, rfl⟩⟩
  · rw [storeVariables, lexemes_number_comment]
    rfl
  · rw [storeVariables, lexemes_variable_comment]
    rfl
  · rw [storeVariables, brackets]
    rfl
  · rw [storeVariables, odd]
    rfl
  · rw [storeVariables, word]
    rfl

end Office

end TypedQuery
