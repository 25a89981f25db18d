import TypedQuery.Error
import TypedQuery.Proofs.Reference.Grammar
import TypedQuery.Proofs.Text.Quotation

/-!
# Numbered and named placeholders are refused

`checkStyle` is the check of a predicate's placeholders as it works on a text of bytes: the scanner
hands it each character outside of all quotes with its offset, and it cuts the text at offsets that
it reckons from there. A cut inside of a character would bring the program down, so every cut may
fail. None does (`checkStyle_eq`): a visited character starts at its offset, and the signs that
placeholders start with take one byte each.

What the check finds is then said of the text alone (`numberedOrNamed?_eq_none_iff`,
`numberedOrNamed?_eq_some_iff`). A placeholder that is numbered or named starts at a character
outside of all quotes, and the first one counts, with the longest word behind its sign. The scan
meets the characters from the left to the right, so the ones that it has met before are those with
more text behind them (`pairwise_unquoted`).
-/

namespace TypedQuery.Text

open Reference (Stops span_iff append_inj_of_stops)

/-! ## Characters outside of all quotes -/

/-- A text as what stands before a character outside of all quotes, the character, and what stands
behind it. -/
structure Outside (text before : List Char) (c : Char) (rest : List Char) : Prop where
  text_eq : text = before ++ c :: rest
  /-- No quote is open in front of the character. -/
  closed : IsClosed before
  /-- The character does not open one. -/
  bare : isQuoteMark c = false

/-- From within a quote or not, the scanner visits characters only where no quote is open. -/
theorem exists_before_of_mem_unquoted {quote : Option Char} {text rest : List Char} {c : Char}
    (mem : (c, rest) ∈ unquoted quote text) :
    ∃ before, text = before ++ c :: rest ∧ quoteAtEnd quote before = none ∧
      isQuoteMark c = false := by
  induction text generalizing quote with
  | nil => simp [unquoted] at mem
  | cons d text ih =>
    have later {after : Option Char} (step : quoteAfter quote d = after)
        (mem : (c, rest) ∈ unquoted after text) :
        ∃ before, d :: text = before ++ c :: rest ∧ quoteAtEnd quote before = none ∧
          isQuoteMark c = false := by
      obtain ⟨before, same, closed, bare⟩ := ih mem
      refine ⟨d :: before, by rw [same, List.cons_append], ?_, bare⟩
      rw [← closed, ← step]
      rfl
    cases quote with
    | none =>
      by_cases mark : isQuoteMark d
      · rw [unquoted, if_pos mark] at mem
        exact later (by simp [quoteAfter, mark]) mem
      · rw [unquoted, if_neg mark] at mem
        rcases List.mem_cons.1 mem with same | mem
        · obtain ⟨rfl, rfl⟩ := Prod.mk.inj same
          exact ⟨[], rfl, rfl, by simpa using mark⟩
        · exact later (by simp [quoteAfter, mark]) mem
    | some mark => exact later rfl mem

/-- The scanner visits the characters outside of all quotes. -/
theorem mem_unquoted_iff {text rest : List Char} {c : Char} :
    (c, rest) ∈ unquoted none text ↔ ∃ before, Outside text before c rest := by
  constructor
  · intro mem
    obtain ⟨before, same, closed, bare⟩ := exists_before_of_mem_unquoted mem
    exact ⟨before, same, closed, bare⟩
  · rintro ⟨before, rfl, closed, bare⟩
    rw [unquoted_append, closed]
    simp [unquoted, bare]

/-- The scanner visits a text from the left to the right. -/
theorem pairwise_unquoted (quote : Option Char) (text : List Char) :
    (unquoted quote text).Pairwise fun a b => b.2.length < a.2.length := by
  induction text generalizing quote with
  | nil => exact .nil
  | cons c text ih =>
    simp only [unquoted]
    split
    · split
      · exact ih _
      · exact .cons (fun place mem => length_lt_of_mem_unquoted mem) (ih _)
    · exact ih _

/-- The number of places of a text where a character stands and no quote is open. -/
def outsideCount (quote : Option Char) (c : Char) (text : List Char) : Nat :=
  (List.range text.length).countP fun i =>
    text[i]? = some c ∧ quoteAtEnd quote (text.take i) = none

/-- The first place of a text, and the others with the quote that it leaves open. -/
theorem outsideCount_cons (quote : Option Char) (c d : Char) (text : List Char) :
    outsideCount quote c (d :: text) =
      (if d = c ∧ quote = none then 1 else 0) + outsideCount (quoteAfter quote d) c text := by
  have first : quoteAtEnd quote [] = quote := rfl
  have others (i : Nat) : quoteAtEnd quote (d :: text.take i) =
      quoteAtEnd (quoteAfter quote d) (text.take i) := rfl
  rw [outsideCount, List.length_cons, List.range_succ_eq_map, List.countP_cons, List.countP_map,
    Nat.add_comm]
  simp [outsideCount, Function.comp_def, first, others]

/-- The scanner visits a character as often as it stands outside of all quotes. -/
theorem countP_unquoted {c : Char} (bare : isQuoteMark c = false) (quote : Option Char)
    (text : List Char) :
    (unquoted quote text).countP (fun place => place.1 = c) = outsideCount quote c text := by
  induction text generalizing quote with
  | nil => rfl
  | cons d text ih =>
    rw [outsideCount_cons, ← ih]
    cases quote with
    | none =>
      by_cases mark : isQuoteMark d
      · have other : d ≠ c := by
          rintro rfl
          rw [bare] at mark
          exact Bool.noConfusion mark
        simp [unquoted, quoteAfter, mark, other]
      · simp [unquoted, quoteAfter, mark, List.countP_cons, Nat.add_comm]
    | some open_ => simp [unquoted, quoteAfter]

/-! ## The first placeholder that is numbered or named -/

/-- How a numbered or named placeholder starts: a question mark with a digit, or a colon, an at sign
or a dollar sign with a letter, a digit of any script or an underscore. -/
inductive StartsVariable : Char → List Char → Prop
  | numbered {digit : Char} {rest : List Char} (isDigit : digit.isDigit = true) :
    StartsVariable '?' (digit :: rest)
  | named {sign c : Char} {rest : List Char} (isSign : sign = ':' ∨ sign = '@' ∨ sign = '$')
    (isWord : isWordChar c = true) : StartsVariable sign (c :: rest)

/-- The check of one character decides whether a placeholder starts there. -/
theorem startsVariable_iff {c : Char} {rest : List Char} :
    startsVariable c rest = true ↔ StartsVariable c rest := by
  constructor
  · intro starts
    cases rest with
    | nil => simp [startsVariable] at starts
    | cons d rest =>
      simp only [startsVariable, Bool.or_eq_true, Bool.and_eq_true, decide_eq_true_eq] at starts
      obtain ⟨rfl, digit⟩ | ⟨sign, word⟩ := starts
      · exact .numbered digit
      · exact .named (or_assoc.1 sign) word
  · rintro (digit | ⟨sign, word⟩)
    · simp [startsVariable, digit]
    · simp [startsVariable, word, or_assoc.2 sign]

/-- The sign of a placeholder takes one byte. -/
theorem StartsVariable.utf8Size {c : Char} {rest : List Char} (starts : StartsVariable c rest) :
    c.utf8Size = 1 := by
  cases starts with
  | numbered => rfl
  | named sign => rcases sign with rfl | rfl | rfl <;> rfl

/-- The first numbered or named placeholder of a text: what stands before it, its sign, the longest
word behind the sign, and what is left. -/
structure Leftmost (text before : List Char) (sign : Char) (word rest : List Char) : Prop where
  outside : Outside text before sign (word ++ rest)
  starts : StartsVariable sign (word ++ rest)
  first : ∀ before' c rest', Outside text before' c rest' → StartsVariable c rest' →
    before.length ≤ before'.length
  isWord : ∀ c ∈ word, isWordChar c = true
  longest : Stops isWordChar rest

/-- A text has no numbered or named placeholder if none starts outside of all quotes. -/
theorem numberedOrNamed?_eq_none_iff {fragment : String} :
    numberedOrNamed? fragment = none ↔
      ∀ before c rest, Outside fragment.toList before c rest → ¬StartsVariable c rest := by
  rw [numberedOrNamed?, Option.map_eq_none_iff, List.find?_eq_none]
  constructor
  · intro none before c rest outside starts
    exact none (c, rest) (mem_unquoted_iff.2 ⟨before, outside⟩) (startsVariable_iff.2 starts)
  · rintro none ⟨c, rest⟩ mem starts
    obtain ⟨before, outside⟩ := mem_unquoted_iff.1 mem
    exact none before c rest outside (startsVariable_iff.1 starts)

/-- The first character that the scanner visits where a placeholder starts is the leftmost one. -/
theorem leftmost_of_find? {text rest : List Char} {c : Char}
    (found : (unquoted none text).find? (fun place => startsVariable place.1 place.2) =
      some (c, rest)) :
    ∃ before, Leftmost text before c (rest.takeWhile isWordChar) (rest.dropWhile isWordChar) := by
  obtain ⟨starts, earlier, later, visited, before_none⟩ :=
    List.find?_eq_some_iff_append.1 found
  have listed : (c, rest) ∈ unquoted none text := by simp [visited]
  obtain ⟨before, outside⟩ := mem_unquoted_iff.1 listed
  obtain ⟨whole, isWord, longest⟩ := span_iff.2 ⟨(rfl : rest.takeWhile isWordChar = _), rfl⟩
  refine ⟨before, ⟨?_, ?_, ?_, isWord, longest⟩⟩
  · rw [← whole]
    exact outside
  · rw [← whole]
    exact startsVariable_iff.1 starts
  · intro before' d rest' other startsOther
    -- Another one is among those that the scanner visits later, so less text is behind it.
    have mem : (d, rest') ∈ unquoted none text := mem_unquoted_iff.2 ⟨before', other⟩
    have order := pairwise_unquoted none text
    rw [visited] at mem order
    have sizes := congrArg List.length (outside.text_eq.symm.trans other.text_eq)
    simp only [List.length_append, List.length_cons] at sizes
    rcases List.mem_append.1 mem with mem | mem
    · exact absurd (startsVariable_iff.2 startsOther) (by simpa using before_none _ mem)
    rcases List.mem_cons.1 mem with same | mem
    · obtain ⟨-, rfl⟩ := Prod.mk.inj same
      omega
    · have shorter := List.rel_of_pairwise_cons (List.pairwise_append.1 order).2.1 mem
      simp only at shorter
      omega

/-- A text has one leftmost placeholder at most. -/
theorem Leftmost.unique {text before before' word word' rest rest' : List Char} {sign sign' : Char}
    (one : Leftmost text before sign word rest) (other : Leftmost text before' sign' word' rest') :
    sign :: word = sign' :: word' := by
  have size : before.length = before'.length :=
    Nat.le_antisymm (one.first _ _ _ other.outside other.starts)
      (other.first _ _ _ one.outside one.starts)
  have same := one.outside.text_eq.symm.trans other.outside.text_eq
  obtain ⟨rfl, behind⟩ := List.cons.inj (List.append_inj same size).2
  rw [(append_inj_of_stops one.isWord other.isWord one.longest other.longest behind).1]

/-- The numbered or named placeholder that is found in a text is its leftmost one. -/
theorem numberedOrNamed?_eq_some_iff {fragment found : String} :
    numberedOrNamed? fragment = some found ↔ ∃ before sign word rest,
      Leftmost fragment.toList before sign word rest ∧ found = String.ofList (sign :: word) := by
  constructor
  · intro named
    obtain ⟨⟨sign, rest⟩, search, rfl⟩ := Option.map_eq_some_iff.1 named
    obtain ⟨before, leftmost⟩ := leftmost_of_find? search
    exact ⟨before, sign, _, _, leftmost, rfl⟩
  · rintro ⟨before, sign, word, rest, leftmost, rfl⟩
    cases named : numberedOrNamed? fragment with
    | none =>
      have none_starts := numberedOrNamed?_eq_none_iff.1 named
      exact absurd leftmost.starts (none_starts _ _ _ leftmost.outside)
    | some found =>
      obtain ⟨⟨sign', rest'⟩, search, rfl⟩ := Option.map_eq_some_iff.1 named
      obtain ⟨before', leftmost'⟩ := leftmost_of_find? search
      rw [leftmost.unique leftmost']

/-! ## Cuts at offsets -/

/-- A text in two parts at an offset in bytes, if a character starts there or the text ends. -/
def cutAt? (offset : Nat) (text : List Char) : Option (List Char × List Char) :=
  match offset, text with
  | 0, text => some ([], text)
  | _ + 1, [] => none
  | offset, c :: rest =>
    if offset < c.utf8Size then none
    else (cutAt? (offset - c.utf8Size) rest).map fun (front, back) => (c :: front, back)

/-- A text can be cut behind each of its fronts. -/
theorem cutAt?_append (front back : List Char) :
    cutAt? (byteLength front) (front ++ back) = some (front, back) := by
  induction front with
  | nil => cases back <;> rfl
  | cons c front ih =>
    obtain ⟨n, width⟩ := Nat.exists_eq_succ_of_ne_zero (Nat.ne_of_gt c.utf8Size_pos)
    have size : byteLength (c :: front) = n + byteLength front + 1 := by
      rw [byteLength, width]
      omega
    have rest : n + byteLength front + 1 - c.utf8Size = byteLength front := by omega
    rw [size, List.cons_append, cutAt?, if_neg (by omega), rest, ih]
    · rfl
    · exact Nat.succ_ne_zero _

/-- A text can be cut behind any of its fronts, and nowhere else. -/
theorem cutAt?_eq_some_iff {offset : Nat} {text front back : List Char} :
    cutAt? offset text = some (front, back) ↔
      text = front ++ back ∧ byteLength front = offset := by
  constructor
  · intro cut
    fun_induction cutAt? offset text generalizing front with
    | case1 text =>
      obtain ⟨rfl, rfl⟩ := Prod.mk.inj (Option.some.inj cut)
      exact ⟨rfl, rfl⟩
    | case2 => simp at cut
    | case3 => simp at cut
    | case4 offset c rest _ outside ih =>
      obtain ⟨⟨front, back⟩, cutRest, same⟩ := Option.map_eq_some_iff.1 cut
      obtain ⟨rfl, rfl⟩ := Prod.mk.inj same
      obtain ⟨rfl, size⟩ := ih cutRest
      refine ⟨rfl, ?_⟩
      rw [byteLength, size]
      omega
  · rintro ⟨rfl, rfl⟩
    exact cutAt?_append front back

/-- The part of a text between two offsets in bytes, if a character starts at each of them or the
text ends there. -/
def slice? (start stop : Nat) (text : List Char) : Option (List Char) :=
  if stop < start then none
  else do
    let (_, back) ← cutAt? start text
    let (front, _) ← cutAt? (stop - start) back
    return front

/-- The part of a text behind one of its fronts. -/
theorem slice?_append (front part back : List Char) :
    slice? (byteLength front) (byteLength front + byteLength part) (front ++ (part ++ back)) =
      some part := by
  rw [slice?, if_neg (by omega), cutAt?_append, Nat.add_sub_cancel_left]
  show (cutAt? (byteLength part) (part ++ back) >>= fun (front, _) => some front) = some part
  rw [cutAt?_append]
  rfl

/-! ## The check on offsets -/

/-- Looks at a visited character, unless a placeholder has been found already: what stands behind
the character is cut off behind its bytes. -/
def lookAt (text : List Char) (found : Option Nat) (visit : Nat × Char) : Option (Option Nat) :=
  match found with
  | some start => some (some start)
  | none =>
    (cutAt? (visit.1 + visit.2.utf8Size) text).map fun (_, rest) =>
      if startsVariable visit.2 rest then some visit.1 else none

/-- The offset of the first numbered or named placeholder of a text, which all visited characters
are looked at for. -/
def firstVariable? (text : List Char) : Option (Option Nat) :=
  (visits text).foldlM (lookAt text) none

/-- The check that a predicate has no numbered and no named placeholders. It has no result if it
cuts the predicate inside of a character. -/
def checkStyle (fragment : String) : Option (Except QueryError Unit) := do
  let text := fragment.toList
  match ← firstVariable? text with
  | none => return .ok ()
  | some start =>
    let (_, rest) ← cutAt? (start + 1) text
    let stop := start + 1 + byteLength (rest.takeWhile isWordChar)
    let found ← slice? start stop text
    return .error (.invalidPlan (.placeholderStyle (String.ofList found) fragment))

/-- A character of a text starts at the length of what stands before it. -/
theorem offset_eq (before : List Char) (c : Char) (rest : List Char) :
    byteLength (before ++ c :: rest) - byteLength (c :: rest) = byteLength before := by
  rw [byteLength_append, Nat.add_sub_cancel]

/-- Once a placeholder has been found, no more are looked for. -/
theorem foldlM_lookAt_some (text : List Char) (start : Nat) (list : List (Nat × Char)) :
    list.foldlM (lookAt text) (some start) = some (some start) := by
  induction list with
  | nil => rfl
  | cons visit list ih => exact ih

/-- No cut of the scan fails, and it finds the offset of the first character where a placeholder
starts. -/
theorem firstVariable?_eq (text : List Char) :
    firstVariable? text = some (((unquoted none text).find? fun place =>
      startsVariable place.1 place.2).map fun place =>
        byteLength text - byteLength (place.1 :: place.2)) := by
  unfold firstVariable? visits
  have inText : ∀ place ∈ unquoted none text, ∃ before, text = before ++ place.1 :: place.2 :=
    fun place mem => exists_append_of_mem_unquoted mem
  -- The characters still to be visited are any that stand in the text.
  generalize unquoted none text = list at inText ⊢
  induction list with
  | nil => rfl
  | cons place list ih =>
    obtain ⟨⟨before, same⟩, others⟩ := List.forall_mem_cons.1 inText
    have offset : byteLength text - byteLength (place.1 :: place.2) = byteLength before := by
      rw [same, offset_eq]
    have cut : cutAt? (byteLength before + place.1.utf8Size) text =
        some (before ++ [place.1], place.2) := by
      refine cutAt?_eq_some_iff.2 ⟨by rw [same]; simp, ?_⟩
      rw [byteLength_append]
      rfl
    rw [List.map_cons, List.foldlM_cons, offset, lookAt, List.find?_cons]
    simp only [cut, Option.map_some]
    cases startsVariable place.1 place.2 with
    | true =>
      rw [Option.map_some, offset]
      exact foldlM_lookAt_some text _ _
    | false => exact ih others

/-- No cut of the check fails, and it refuses the first numbered or named placeholder. -/
theorem checkStyle_eq (fragment : String) :
    checkStyle fragment = some (match numberedOrNamed? fragment with
      | none => .ok ()
      | some found => .error (.invalidPlan (.placeholderStyle found fragment))) := by
  simp only [checkStyle, firstVariable?_eq, numberedOrNamed?]
  cases search : (unquoted none fragment.toList).find? fun place =>
    startsVariable place.1 place.2 with
  | none => rfl
  | some place =>
    obtain ⟨c, rest⟩ := place
    obtain ⟨before, leftmost⟩ := leftmost_of_find? search
    have whole : rest.takeWhile isWordChar ++ rest.dropWhile isWordChar = rest :=
      List.takeWhile_append_dropWhile
    have size : c.utf8Size = 1 := leftmost.starts.utf8Size
    have same : fragment.toList = before ++ c :: rest := by
      rw [leftmost.outside.text_eq, whole]
    have offset : byteLength fragment.toList - byteLength (c :: rest) = byteLength before := by
      rw [same, offset_eq]
    have cut : cutAt? (byteLength before + 1) fragment.toList = some (before ++ [c], rest) := by
      refine cutAt?_eq_some_iff.2 ⟨by rw [same]; simp, ?_⟩
      rw [byteLength_append, byteLength, size]
      rfl
    have found : slice? (byteLength before)
        (byteLength before + 1 + byteLength (rest.takeWhile isWordChar)) fragment.toList =
          some (c :: rest.takeWhile isWordChar) := by
      have part := slice?_append before (c :: rest.takeWhile isWordChar)
        (rest.dropWhile isWordChar)
      rw [byteLength, size, ← Nat.add_assoc, List.cons_append, whole, ← same] at part
      exact part
    simp only [Option.map_some, Option.bind_eq_bind, Option.bind_some, offset, cut, found]
    rfl

end TypedQuery.Text
