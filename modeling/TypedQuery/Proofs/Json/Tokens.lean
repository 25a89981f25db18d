import Mathlib.Algebra.Group.Nat.Defs
import Mathlib.Data.List.TakeWhile
import TypedQuery.Json.Token
import TypedQuery.Json.Writing

/-!
# Written JSON is cut into its tokens

What the writer writes for a string, a number or a word is one token again, whatever follows it but
what could go on a number: `tokens_writeText_append`, `tokens_chars_append`. A string needs no such
condition, since its closing quote is the first one that no backslash stands in front of. A number
is taken as its parts, with or without a fraction and an exponent (`Spelling.IsLawful`); the digits
of a whole number are the case of one part, and there the token says which number it is
(`tokens_digits_append`).
-/

namespace TypedQuery.Json

/-! ## Strings -/

/-- The four hexadecimal digits of a control character are its number. -/
theorem hexValue4?_control : ∀ n < 32,
    hexValue4? '0' '0' (hexDigit (n / 16)) (hexDigit (n % 16)) = some n := by
  decide

/-- A written character is read as one unit, which is decoded to the character. -/
theorem scanText_writeChar_append (c : Char) (rest : List Char) :
    ∃ unit, scanText (writeChar c ++ rest) = (unit :: (scanText rest).1, (scanText rest).2) ∧
      ∀ atEnd units, decodeText atEnd (unit :: units) = (decodeText atEnd units).map (c :: ·) := by
  -- The cases are those of the writer: seven letters, the numbers, and what stands for itself.
  unfold writeChar
  split
  case isTrue quote => exact ⟨.char c, by subst quote; rfl, fun _ _ => rfl⟩
  split
  case isTrue backslash => exact ⟨.char c, by subst backslash; rfl, fun _ _ => rfl⟩
  split
  case isTrue backspace => exact ⟨.char c, by subst backspace; rfl, fun _ _ => rfl⟩
  split
  case isTrue feed => exact ⟨.char c, by subst feed; rfl, fun _ _ => rfl⟩
  split
  case isTrue newline => exact ⟨.char c, by subst newline; rfl, fun _ _ => rfl⟩
  split
  case isTrue carriage => exact ⟨.char c, by subst carriage; rfl, fun _ _ => rfl⟩
  split
  case isTrue tab => exact ⟨.char c, by subst tab; rfl, fun _ _ => rfl⟩
  split
  case isTrue control =>
    refine ⟨.code c.toNat, ?_, fun atEnd units => ?_⟩
    · show scanText ('\\' :: 'u' :: '0' :: '0' :: _ :: _ :: rest) = _
      rw [scanText]
      simp [hexValue4?_control _ control]
    · have below : c.toNat < 0xD800 ∨ 0xDFFF < c.toNat := by omega
      rw [decodeText.eq_def]
      simp only [if_pos below, Char.ofNat_toNat]
  case isFalse quote backslash _ _ _ _ _ printable =>
    refine ⟨.char c, ?_, fun _ _ => rfl⟩
    rw [List.singleton_append, scanText.eq_def]
    simp [quote, backslash, printable]

/-- The written characters of a text are read up to the closing quote and decoded to the text. -/
theorem scanText_flatMap_append (text rest : List Char) :
    ∃ units, scanText (text.flatMap writeChar ++ '"' :: rest) = (units, .ok rest) ∧
      ∀ atEnd, decodeText atEnd units = .ok text := by
  induction text with
  | nil =>
    refine ⟨[], ?_, fun _ => rfl⟩
    show scanText ('"' :: rest) = _
    rw [scanText.eq_def]
    rfl
  | cons c text ih =>
    obtain ⟨units, scanned, decoded⟩ := ih
    obtain ⟨unit, first, decodes⟩ :=
      scanText_writeChar_append c (text.flatMap writeChar ++ '"' :: rest)
    refine ⟨unit :: units, ?_, fun atEnd => ?_⟩
    · rw [List.flatMap_cons, List.append_assoc, first, scanned]
    · rw [decodes, decoded]
      rfl

/-- A written string is one token, which says the text. -/
theorem tokens_writeText_append (text rest : List Char) :
    tokens (writeText text ++ rest) = .text (.ok text) :: tokens rest := by
  obtain ⟨units, scanned, decoded⟩ := scanText_flatMap_append text rest
  have token : textToken (text.flatMap writeChar ++ '"' :: rest) = (.text (.ok text), rest) := by
    simp only [textToken, scanned, decoded]
  have shape : writeText text ++ rest = '"' :: (text.flatMap writeChar ++ '"' :: rest) := by
    simp [writeText]
  have start : tokenAt '"' (text.flatMap writeChar ++ '"' :: rest) = (.text (.ok text), rest) := by
    rw [← token]
    rfl
  rw [shape, tokens, if_neg (by decide), start]

/-! ## Numbers -/

/-- What may follow a number: neither a digit nor a point or an exponent. -/
def EndsNumber (rest : List Char) : Prop :=
  ∀ c ∈ rest.head?, c.isDigit = false ∧ c ≠ '.' ∧ c ≠ 'e' ∧ c ≠ 'E'

/-- One digit or more. -/
def IsDigits (digits : List Char) : Prop :=
  digits ≠ [] ∧ ∀ c ∈ digits, c.isDigit = true

/-- The point of a number and the digits behind it, if there are any. -/
def fractionChars : Option (List Char) → List Char
  | none => []
  | some places => '.' :: places

/-- The exponent of a number with its sign, if there is one. -/
def exponentChars : Option (Bool × List Char) → List Char
  | none => []
  | some (minus, digits) => 'e' :: (if minus then '-' else '+') :: digits

namespace Spelling

/-- A spelled number without its sign. -/
def unsignedChars (s : Spelling) : List Char :=
  s.whole ++ (fractionChars s.fraction ++ exponentChars s.exponent)

/-- A spelled number. -/
def chars (s : Spelling) : List Char :=
  if s.negative then '-' :: s.unsignedChars else s.unsignedChars

/-- Whether a number is spelled as JSON wants it. -/
structure IsLawful (s : Spelling) : Prop where
  whole : IsDigits s.whole
  /-- A zero is not in front of other digits. -/
  leading : s.whole.head? = some '0' → s.whole = ['0']
  fraction : ∀ places ∈ s.fraction, IsDigits places
  exponent : ∀ exponent ∈ s.exponent, IsDigits exponent.2

end Spelling

/-- Digits in front of a text that starts with none are the longest run of digits there. -/
theorem span_digits {digits rest : List Char} (all : ∀ c ∈ digits, c.isDigit = true)
    (stops : ∀ c ∈ rest.head?, c.isDigit = false) :
    (digits ++ rest).takeWhile Char.isDigit = digits ∧
      (digits ++ rest).dropWhile Char.isDigit = rest := by
  have none : rest.takeWhile Char.isDigit = [] ∧ rest.dropWhile Char.isDigit = rest := by
    cases rest with
    | nil => exact ⟨rfl, rfl⟩
    | cons c rest =>
      have other := stops c rfl
      exact ⟨List.takeWhile_cons_of_neg (by simp [other]),
        List.dropWhile_cons_of_neg (by simp [other])⟩
  exact ⟨by rw [List.takeWhile_append_of_pos all, none.1, List.append_nil],
    by rw [List.dropWhile_append_of_pos all, none.2]⟩

/-- A written exponent is read, up to what ends the number. -/
theorem exponent?_append {exponent : Option (Bool × List Char)}
    (lawful : ∀ e ∈ exponent, IsDigits e.2) {rest : List Char} (ends : EndsNumber rest) :
    exponent? (exponentChars exponent ++ rest) = .ok (exponent, rest) := by
  cases exponent with
  | none =>
    cases rest with
    | nil => rfl
    | cons c rest =>
      obtain ⟨-, -, small, capital⟩ := ends c rfl
      simp [exponent?, exponentChars, small, capital]
  | some exponent =>
    obtain ⟨minus, digits⟩ := exponent
    obtain ⟨filled, all⟩ := lawful _ rfl
    obtain ⟨front, back⟩ := span_digits all fun c first => (ends c first).1
    have nonempty : digits.isEmpty = false := by simpa using filled
    cases minus with
    | false => simp [exponent?, exponentChars, front, back, nonempty]
    | true => simp [exponent?, exponentChars, front, back, nonempty]

/-- A written fraction is read, up to what is neither a digit nor a point. -/
theorem fraction?_append {fraction : Option (List Char)}
    (lawful : ∀ places ∈ fraction, IsDigits places) {rest : List Char}
    (stops : ∀ c ∈ rest.head?, c.isDigit = false ∧ c ≠ '.') :
    fraction? (fractionChars fraction ++ rest) = .ok (fraction, rest) := by
  cases fraction with
  | none =>
    show fraction? rest = _
    unfold fraction?
    split
    · next places => exact absurd rfl (stops '.' rfl).2
    · rfl
  | some places =>
    obtain ⟨filled, all⟩ := lawful _ rfl
    obtain ⟨front, back⟩ := span_digits all fun c first => (stops c first).1
    have nonempty : places.isEmpty = false := by simpa using filled
    simp [fraction?, fractionChars, front, back, nonempty]

/-- A number that is spelled as JSON wants it is read as it is spelled. -/
theorem spelling?_append {s : Spelling} (lawful : s.IsLawful) {rest : List Char}
    (ends : EndsNumber rest) : spelling? s.negative (s.unsignedChars ++ rest) = .ok (s, rest) := by
  obtain ⟨negative, whole, fraction, exponent⟩ := s
  obtain ⟨⟨filled, all⟩, leading, places, powers⟩ := lawful
  -- Behind a part there is no digit: there is a point, an exponent, or what ends the number.
  have after : ∀ c ∈ (exponentChars exponent ++ rest).head?, c.isDigit = false ∧ c ≠ '.' := by
    intro c first
    cases exponent with
    | none => exact ⟨(ends c first).1, (ends c first).2.1⟩
    | some exponent =>
      obtain rfl : 'e' = c := Option.some.inj first
      decide
  have stops : ∀ c ∈ (fractionChars fraction ++ (exponentChars exponent ++ rest)).head?,
      c.isDigit = false := by
    intro c first
    cases fraction with
    | none => exact (after c first).1
    | some places =>
      obtain rfl : '.' = c := Option.some.inj first
      rfl
  have shape : Spelling.unsignedChars ⟨negative, whole, fraction, exponent⟩ ++ rest =
      whole ++ (fractionChars fraction ++ (exponentChars exponent ++ rest)) := by
    simp only [Spelling.unsignedChars, List.append_assoc]
  obtain ⟨front, back⟩ := span_digits all stops
  rw [shape]
  unfold spelling?
  simp only [front, back]
  split
  · exact absurd rfl filled
  · exact absurd (leading rfl) (by simp)
  · rw [fraction?_append places after]
    show (exponent? (exponentChars exponent ++ rest) >>= _) = _
    rw [exponent?_append powers ends]
    rfl

/-- A digit starts a number. -/
theorem tokenAt_of_isDigit {c : Char} (digit : c.isDigit = true) (rest : List Char) :
    tokenAt c rest = numberToken false (c :: rest) := by
  have other (d : Char) (sign : d.isDigit = false) : c ≠ d := by
    rintro rfl
    rw [digit] at sign
    exact Bool.noConfusion sign
  have mark : isMark c = false := by
    simp [isMark, other '[', other ']', other '\x7b', other '\x7d', other ',', other ':']
  rw [tokenAt, mark, if_neg Bool.false_ne_true, if_neg (other '"' rfl), if_neg (other '-' rfl),
    if_pos digit]

/-- A digit is no space. -/
theorem isSpace_of_isDigit {c : Char} (digit : c.isDigit = true) : isSpace c = false := by
  by_contra space
  simp only [isSpace, Bool.not_eq_false, Bool.or_eq_true, decide_eq_true_eq] at space
  rcases space with ((rfl | rfl) | rfl) | rfl
  all_goals simp at digit

/-- A number that is spelled as JSON wants it is one token. -/
theorem tokens_chars_append {s : Spelling} (lawful : s.IsLawful) {rest : List Char}
    (ends : EndsNumber rest) : tokens (s.chars ++ rest) = .number s.value :: tokens rest := by
  have token : numberToken s.negative (s.unsignedChars ++ rest) = (.number s.value, rest) := by
    simp only [numberToken, spelling?_append lawful ends]
  unfold Spelling.chars
  cases sign : s.negative with
  | true =>
    rw [sign] at token
    have start : tokenAt '-' (s.unsignedChars ++ rest) = (.number s.value, rest) := token
    rw [if_pos rfl, List.cons_append, tokens, if_neg (by decide), start]
  | false =>
    rw [sign] at token
    obtain ⟨filled, all⟩ := lawful.whole
    obtain ⟨c, digits, shape⟩ := List.exists_cons_of_ne_nil filled
    have digit : c.isDigit = true := all c (by simp [shape])
    have first : s.unsignedChars ++ rest =
        c :: (digits ++ (fractionChars s.fraction ++ exponentChars s.exponent) ++ rest) := by
      rw [Spelling.unsignedChars, shape, List.cons_append, List.cons_append]
    rw [first] at token
    rw [if_neg Bool.false_ne_true, first, tokens, isSpace_of_isDigit digit,
      if_neg Bool.false_ne_true, tokenAt_of_isDigit digit, token]

/-! ## Whole numbers -/

/-- Digits add up to more than what they are added to. -/
theorem le_ofDigitChars (digits : List Char) (n : Nat) : n ≤ Nat.ofDigitChars 10 digits n := by
  induction digits generalizing n with
  | nil => exact Nat.le_refl n
  | cons c digits ih =>
    rw [Nat.ofDigitChars_cons]
    have more := ih (10 * n + (c.toNat - '0'.toNat))
    omega

/-- Digits of a number that fits 64 bits are all read. -/
theorem accumulate_eq {digits : List Char} {n : Nat}
    (fits : Nat.ofDigitChars 10 digits n ≤ maxWord) :
    accumulate n digits = (Nat.ofDigitChars 10 digits n, []) := by
  induction digits generalizing n with
  | nil => rfl
  | cons c digits ih =>
    rw [Nat.ofDigitChars_cons] at fits ⊢
    have next : 10 * n + (c.toNat - 48) ≤ maxWord := Nat.le_trans (le_ofDigitChars digits _) fits
    rw [accumulate, if_pos next]
    exact ih fits

/-- A number is written in digits. -/
theorem isDigits_toDigits (n : Nat) : IsDigits (Nat.toDigits 10 n) :=
  ⟨Nat.toDigits_ne_nil, fun _ mem => Nat.isDigit_of_mem_toDigits (by decide) (by decide) mem⟩

/-- The digits of a number other than zero do not start with a zero. -/
theorem head?_toDigits_ne {n : Nat} (pos : 0 < n) : (Nat.toDigits 10 n).head? ≠ some '0' := by
  induction n using Nat.strong_induction_on with
  | _ n ih =>
    by_cases one : n < 10
    · have digit : ∀ m < 10, 0 < m → [Nat.digitChar m].head? ≠ some '0' := by decide
      rw [Nat.toDigits_of_lt_base one]
      exact digit n one pos
    · have front : (Nat.toDigits 10 (n / 10)).head? ≠ some '0' := ih _ (by omega) (by omega)
      obtain ⟨c, digits, shape⟩ :=
        List.exists_cons_of_ne_nil (Nat.toDigits_ne_nil (b := 10) (n := n / 10))
      rw [Nat.toDigits_of_base_le (by decide) (by omega), shape, List.cons_append]
      rw [shape] at front
      exact front

/-- Only zero is written with a zero in front, and with nothing else. -/
theorem toDigits_of_head? {n : Nat} (zero : (Nat.toDigits 10 n).head? = some '0') :
    Nat.toDigits 10 n = ['0'] := by
  rcases Nat.eq_zero_or_pos n with rfl | pos
  · rfl
  · exact absurd zero (head?_toDigits_ne pos)

/-- The digits of a number are how JSON wants it. -/
theorem isLawful_toDigits (negative : Bool) (n : Nat) :
    (Spelling.mk negative (Nat.toDigits 10 n) none none).IsLawful where
  whole := isDigits_toDigits n
  leading := toDigits_of_head?
  fraction := by simp
  exponent := by simp

/-- The digits of a number that fits 64 bits are one token, which says the number. -/
theorem tokens_digits_append {n : Nat} (fits : n ≤ maxWord) {rest : List Char}
    (ends : EndsNumber rest) :
    tokens (Nat.toDigits 10 n ++ rest) = .number (.ok (.natural n)) :: tokens rest := by
  have size : Nat.ofDigitChars 10 (Nat.toDigits 10 n) 0 = n := Nat.ofDigitChars_ten_toDigits
  have value : (Spelling.mk false (Nat.toDigits 10 n) none none).value = .ok (.natural n) := by
    have all := accumulate_eq (Nat.le_trans (Nat.le_of_eq size) fits)
    simp [Spelling.value, all, size]
  have shape : (Spelling.mk false (Nat.toDigits 10 n) none none).chars = Nat.toDigits 10 n :=
    List.append_nil _
  rw [← value, ← tokens_chars_append (isLawful_toDigits false n) ends, shape]

/-- A hyphen and the digits of a number are one token, which says the negative number, if that fits
64 bits with a sign. -/
theorem tokens_negative_append {n : Nat} (pos : 0 < n) (fits : n ≤ 2 ^ 63) {rest : List Char}
    (ends : EndsNumber rest) :
    tokens ('-' :: Nat.toDigits 10 n ++ rest) = .number (.ok (.negative (-n))) :: tokens rest := by
  have size : Nat.ofDigitChars 10 (Nat.toDigits 10 n) 0 = n := Nat.ofDigitChars_ten_toDigits
  have value : (Spelling.mk true (Nat.toDigits 10 n) none none).value = .ok (.negative (-n)) := by
    have word : n ≤ maxWord := Nat.le_trans fits (by decide)
    have all := accumulate_eq (Nat.le_trans (Nat.le_of_eq size) word)
    have signed : ¬(n = 0 ∨ Nat.pow 2 63 < n) := by
      rintro (zero | large)
      · omega
      · exact absurd fits (Nat.not_le.2 large)
    simp [Spelling.value, all, size, signed]
  have shape : (Spelling.mk true (Nat.toDigits 10 n) none none).chars = '-' :: Nat.toDigits 10 n :=
    congrArg (List.cons '-') (List.append_nil _)
  rw [← value, ← tokens_chars_append (isLawful_toDigits true n) ends, shape]

/-! ## Words and marks -/

/-- A mark is a token. -/
theorem tokens_mark_append {c : Char} (mark : isMark c = true) (rest : List Char) :
    tokens (c :: rest) = .mark c :: tokens rest := by
  have dense : isSpace c = false := by
    by_contra space
    simp only [isSpace, Bool.not_eq_false, Bool.or_eq_true, decide_eq_true_eq] at space
    rcases space with ((rfl | rfl) | rfl) | rfl
    all_goals simp [isMark] at mark
  rw [tokens, dense, if_neg Bool.false_ne_true, tokenAt, if_pos mark]

/-- The word for the absence of a value is one token. -/
theorem tokens_writeNull_append (rest : List Char) :
    tokens (writeNull ++ rest) = .null :: tokens rest := by
  show tokens ('n' :: 'u' :: 'l' :: 'l' :: rest) = _
  rw [tokens, if_neg (by decide)]
  rfl

/-- The word for a truth value is one token. -/
theorem tokens_writeBool_append (b : Bool) (rest : List Char) :
    tokens (writeBool b ++ rest) = .bool b :: tokens rest := by
  cases b with
  | false =>
    show tokens ('f' :: 'a' :: 'l' :: 's' :: 'e' :: rest) = _
    rw [tokens, if_neg (by decide)]
    rfl
  | true =>
    show tokens ('t' :: 'r' :: 'u' :: 'e' :: rest) = _
    rw [tokens, if_neg (by decide)]
    rfl

end TypedQuery.Json
