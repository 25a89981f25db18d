import TypedQuery.Calendar.Reading
import TypedQuery.Text.Hexadecimal

/-!
# Tokens of JSON

A JSON text is cut into marks, words, numbers and strings. Cutting stops at the first place where no
token can be read, and the place is kept as a token of its own: whether it matters, and what it is
called, depends on what was wanted there.

Two ways of reading disagree on a few texts. A reader that wants a value checks that it means
something, that is, that surrogates come in pairs and that a number lies in the range of doubles. A
reader that skips a value checks its spelling only. Tokens therefore keep both answers.
-/

namespace TypedQuery.Json

/-- Why a text cannot be read. -/
inductive Fault where
  /-- The text is JSON, but not of the kind that is wanted. -/
  | shape
  /-- The text is not JSON. -/
  | spelling
  /-- The text ends too early. -/
  | ending
  deriving DecidableEq, Inhabited

/-- A place where reading stops, with the fault for each kind of reader. -/
structure Break where
  /-- For a reader that wants a value. -/
  reading : Fault
  /-- For a reader that skips a value. -/
  skipping : Fault
  /-- For a reader that wants a word out of a few. It takes in a string and the braces around one,
  and of anything else it sees the first character only. -/
  choosing : Fault
  deriving DecidableEq

/-- A break that all readers call the same. -/
def Break.same (fault : Fault) : Break := ⟨fault, fault, fault⟩

/-- A number: an integer if it is written as one and fits 64 bits with or without a sign. -/
inductive Number where
  | natural (n : Nat)
  /-- A number below zero. -/
  | negative (i : Int)
  | real (x : Float)

/-- A token. -/
inductive Token where
  /-- A bracket, a brace, a comma or a colon. -/
  | mark (c : Char)
  | null
  | bool (b : Bool)
  | number (value : Except Fault Number)
  | text (value : Except Fault (List Char))
  /-- A string that does not end or is misspelled, after which nothing can be read. -/
  | badText (stop : Break)
  /-- No token can be read here, and nothing can be read after it. -/
  | bad (stop : Break)

/-- Whether a character may stand between tokens. -/
def isSpace (c : Char) : Bool :=
  c = ' ' || c = '\n' || c = '\t' || c = '\r'

/-- Whether a character is a mark. -/
def isMark (c : Char) : Bool :=
  c = '[' || c = ']' || c = '\x7b' || c = '\x7d' || c = ',' || c = ':'

/-! ## Words -/

/-- The text after the rest of a word. -/
def afterWord (word text : List Char) : Except Fault (List Char) :=
  match word, text with
  | [], _ => .ok text
  | _ :: _, [] => .error .ending
  | w :: word, c :: text => if c = w then afterWord word text else .error .spelling

/-! ## Strings -/

/-- A character of a string as it is spelled: itself, or one half of a surrogate pair. -/
inductive Unit16 where
  | char (c : Char)
  /-- Four hexadecimal digits. -/
  | code (n : Nat)

/-- The value of four hexadecimal digits. -/
def hexValue4? (a b c d : Char) : Option Nat := do
  let a ← Text.hexValue? a
  let b ← Text.hexValue? b
  let c ← Text.hexValue? c
  let d ← Text.hexValue? d
  return ((a * 16 + b) * 16 + c) * 16 + d

/-- The character that a letter after a backslash stands for. -/
def escaped? (c : Char) : Option Char :=
  if c = '"' ∨ c = '\\' ∨ c = '/' then some c
  else if c = 'b' then some '\x08'
  else if c = 'f' then some '\x0c'
  else if c = 'n' then some '\n'
  else if c = 'r' then some '\r'
  else if c = 't' then some '\t'
  else none

/-- The fault of a number of four digits that is cut short: the text ends if fewer than four bytes
are left. -/
def shortCode (rest : List Char) : Fault :=
  if (String.ofList rest).utf8ByteSize < 4 then .ending else .spelling

/-- The characters of a string up to its closing quote, and the text after it. -/
def scanText : List Char → List Unit16 × Except Fault (List Char)
  | [] => ([], .error .ending)
  | c :: rest =>
    if c = '"' then ([], .ok rest)
    else if c = '\\' then
      match rest with
      | [] => ([], .error .ending)
      | 'u' :: a :: b :: c :: d :: after =>
        match hexValue4? a b c d with
        | some n => let (units, stop) := scanText after; (.code n :: units, stop)
        | none => ([], .error .spelling)
      | 'u' :: short => ([], .error (shortCode short))
      | letter :: after =>
        match escaped? letter with
        | some c => let (units, stop) := scanText after; (.char c :: units, stop)
        | none => ([], .error .spelling)
    else if c.toNat < 32 then ([], .error .spelling)
    else let (units, stop) := scanText rest; (.char c :: units, stop)

/-- The text that a string spells. Two halves of a surrogate pair are one character; a half without
the other is a fault, and so is whatever ends the units if a half is still waiting then. -/
def decodeText (atEnd : Fault) : List Unit16 → Except Fault (List Char)
  | [] => .ok []
  | .char c :: rest => (decodeText atEnd rest).map (c :: ·)
  | .code n :: rest =>
    if n < 0xD800 ∨ 0xDFFF < n then (decodeText atEnd rest).map (Char.ofNat n :: ·)
    else if 0xDC00 ≤ n then .error .spelling
    else
      match rest with
      | .code low :: after =>
        if 0xDC00 ≤ low ∧ low ≤ 0xDFFF then
          (decodeText atEnd after).map
            (Char.ofNat (0x10000 + (n - 0xD800) * 0x400 + (low - 0xDC00)) :: ·)
        else .error .spelling
      | .char _ :: _ => .error .spelling
      | [] => .error atEnd

/-- The token of a string whose opening quote has been read, and the text after it. -/
def textToken (text : List Char) : Token × List Char :=
  match scanText text with
  | (units, .ok rest) => (.text (decodeText .spelling units), rest)
  | (units, .error fault) =>
    match decodeText fault units with
    | .ok _ => (.badText (.same fault), [])
    | .error earlier => (.badText ⟨earlier, fault, earlier⟩, [])

/-! ## Numbers -/

/-- The largest number of 64 bits. -/
def maxWord : Nat := 18446744073709551615

/-- Reads digits into a number as long as it fits 64 bits: the number and the digits left. -/
def accumulate (n : Nat) : List Char → Nat × List Char
  | [] => (n, [])
  | c :: rest =>
    let next := 10 * n + (c.toNat - 48)
    if next ≤ maxWord then accumulate next rest else (n, c :: rest)

/-- A power of ten as a double. -/
def powerOfTen (n : Nat) : Float := Float.ofScientific 1 false n

/-- A double divided by a power of ten, in steps that a double can hold. -/
def divideByPower (x : Float) (n : Nat) : Float :=
  if n ≤ 308 then x / powerOfTen n
  else if x == 0 then x
  else divideByPower (x / powerOfTen 308) (n - 308)
termination_by n
decreasing_by omega

/-- A number times a power of ten as a double, unless that is too large for one. The number is
rounded before it is scaled, so the result may miss the nearest double by its last place. -/
def scaled? (significand : Nat) (exponent : Int) : Option Float :=
  let x := significand.toUInt64.toFloat
  match exponent with
  | .ofNat n =>
    if n ≤ 308 then
      let y := x * powerOfTen n
      if y.isInf then none else some y
    else if x == 0 then some x
    else none
  | .negSucc n => some (divideByPower x (n + 1))

/-- A number as it is spelled. -/
structure Spelling where
  negative : Bool
  whole : List Char
  /-- The digits after the point, if there is a point. -/
  fraction : Option (List Char)
  /-- The sign and the digits of the exponent, if there is one. -/
  exponent : Option (Bool × List Char)

/-- The value of a spelled number. Digits that no longer fit 64 bits are dropped: those before the
point count for the exponent, those after it for nothing. -/
def Spelling.value (s : Spelling) : Except Fault Number :=
  let (significand, dropped) := accumulate 0 s.whole
  if dropped.isEmpty ∧ s.fraction.isNone ∧ s.exponent.isNone then
    if !s.negative then .ok (.natural significand)
    else if significand = 0 ∨ significand > Nat.pow 2 63 then
      .ok (.real (-significand.toUInt64.toFloat))
    else .ok (.negative (-(significand : Int)))
  else
    let places := s.fraction.getD []
    let (significand, unread) := accumulate significand places
    let written : Int :=
      match s.exponent with
      | none => 0
      | some (minus, digits) =>
        if minus then -(Calendar.digitsValue digits : Int) else Calendar.digitsValue digits
    let exponent := written + dropped.length - (places.length - unread.length : Nat)
    match scaled? significand exponent with
    | some x => .ok (.real (if s.negative then -x else x))
    | none => .error .spelling

/-- The break at a place where a digit is missing. -/
def missingDigit (rest : List Char) : Break :=
  ⟨if rest.isEmpty then .ending else .spelling, .spelling, .spelling⟩

/-- The exponent in front of a text, if one is there, and the text after it. -/
def exponent? (text : List Char) : Except Break (Option (Bool × List Char) × List Char) :=
  match text with
  | e :: rest =>
    if e = 'e' ∨ e = 'E' then
      let (minus, unsigned) :=
        match rest with
        | '-' :: after => (true, after)
        | '+' :: after => (false, after)
        | _ => (false, rest)
      let digits := unsigned.takeWhile Char.isDigit
      if digits.isEmpty then .error (missingDigit unsigned)
      else .ok (some (minus, digits), unsigned.dropWhile Char.isDigit)
    else .ok (none, text)
  | [] => .ok (none, [])

/-- The point and the digits after it in front of a text, if they are there, and the text after. -/
def fraction? (text : List Char) : Except Break (Option (List Char) × List Char) :=
  match text with
  | '.' :: rest =>
    let digits := rest.takeWhile Char.isDigit
    if digits.isEmpty then .error (missingDigit rest)
    else .ok (some digits, rest.dropWhile Char.isDigit)
  | _ => .ok (none, text)

/-- The number in front of a text whose sign has been read, and the text after it. -/
def spelling? (negative : Bool) (text : List Char) : Except Break (Spelling × List Char) := do
  let whole := text.takeWhile Char.isDigit
  let afterWhole := text.dropWhile Char.isDigit
  match whole with
  | [] => throw (missingDigit text)
  | '0' :: _ :: _ => throw (.same .spelling)
  | _ =>
    let (fraction, afterFraction) ← fraction? afterWhole
    let (exponent, rest) ← exponent? afterFraction
    return (⟨negative, whole, fraction, exponent⟩, rest)

/-- The token of a number whose sign has been read, and the text after it. -/
def numberToken (negative : Bool) (text : List Char) : Token × List Char :=
  match spelling? negative text with
  | .ok (spelling, rest) => (.number spelling.value, rest)
  | .error stop => (.bad stop, [])

/-! ## The token in front of a text -/

/-- The token of a word whose first letter has been read, and the text after it. -/
def wordToken (token : Token) (word text : List Char) : Token × List Char :=
  match afterWord word text with
  | .ok rest => (token, rest)
  | .error fault => (.bad ⟨fault, fault, .spelling⟩, [])

/-- The token that starts with a character, and the text after it; after a bad token there is
none. -/
def tokenAt (c : Char) (rest : List Char) : Token × List Char :=
  if isMark c then (.mark c, rest)
  else if c = '"' then textToken rest
  else if c = '-' then numberToken true rest
  else if c.isDigit then numberToken false (c :: rest)
  else if c = 'n' then wordToken .null ['u', 'l', 'l'] rest
  else if c = 't' then wordToken (.bool true) ['r', 'u', 'e'] rest
  else if c = 'f' then wordToken (.bool false) ['a', 'l', 's', 'e'] rest
  else (.bad (.same .spelling), [])

/-! ## A token takes at least one character -/

theorem length_afterWord {word text rest : List Char} (h : afterWord word text = .ok rest) :
    rest.length ≤ text.length := by
  induction word generalizing text with
  | nil => simp only [afterWord, Except.ok.injEq] at h; simp [h]
  | cons w word ih =>
    cases text with
    | nil => simp [afterWord] at h
    | cons c text =>
      simp only [afterWord] at h
      split at h
      · exact Nat.le_succ_of_le (ih h)
      · simp at h

theorem length_scanText (text : List Char) {units : List Unit16} {rest : List Char}
    (h : scanText text = (units, .ok rest)) : rest.length < text.length := by
  fun_induction scanText text generalizing units rest with
  | case1 => simp at h
  | case2 => simp_all
  | case3 => simp at h
  | case4 a b c d after n _ units' stop hs _ ih =>
    simp only [Prod.mk.injEq] at h
    obtain ⟨-, rfl⟩ := h
    have := ih hs
    simp only [List.length_cons]
    omega
  | case5 => simp at h
  | case6 => simp at h
  | case7 letter after _ _ c _ units' stop hs _ ih =>
    simp only [Prod.mk.injEq] at h
    obtain ⟨-, rfl⟩ := h
    have := ih hs
    simp only [List.length_cons]
    omega
  | case8 => simp at h
  | case9 => simp at h
  | case10 c rest' _ _ _ units' stop hs ih =>
    simp only [Prod.mk.injEq] at h
    obtain ⟨-, rfl⟩ := h
    have := ih hs
    simp only [List.length_cons]
    omega

theorem length_textToken (text : List Char) : (textToken text).2.length ≤ text.length := by
  unfold textToken
  split
  · next h => exact Nat.le_of_lt (length_scanText _ h)
  · split <;> simp

theorem length_fraction {text rest : List Char} {f : Option (List Char)}
    (h : fraction? text = .ok (f, rest)) : rest.length ≤ text.length := by
  unfold fraction? at h
  split at h
  · next after =>
    dsimp only at h
    split at h
    · simp at h
    · simp only [Except.ok.injEq, Prod.mk.injEq] at h
      rw [← h.2]
      exact Nat.le_succ_of_le (List.dropWhile_sublist _).length_le
  · simp only [Except.ok.injEq, Prod.mk.injEq] at h
    simp [← h.2]

theorem length_exponent {text rest : List Char} {e : Option (Bool × List Char)}
    (h : exponent? text = .ok (e, rest)) : rest.length ≤ text.length := by
  unfold exponent? at h
  split at h
  · next letter after =>
    split at h
    · split at h
      · next sign unsigned hs =>
        have bound : unsigned.length ≤ after.length := by
          split at hs <;> simp only [Prod.mk.injEq] at hs <;> obtain ⟨-, rfl⟩ := hs <;> simp
        dsimp only at h
        split at h
        · simp at h
        · simp only [Except.ok.injEq, Prod.mk.injEq] at h
          rw [← h.2]
          have := (List.dropWhile_sublist (l := unsigned) Char.isDigit).length_le
          simp only [List.length_cons]
          omega
    · simp only [Except.ok.injEq, Prod.mk.injEq] at h
      simp [← h.2]
  · simp only [Except.ok.injEq, Prod.mk.injEq] at h
    simp [← h.2]

theorem length_spelling {negative : Bool} {text rest : List Char} {s : Spelling}
    (h : spelling? negative text = .ok (s, rest)) :
    rest.length ≤ (text.dropWhile Char.isDigit).length := by
  unfold spelling? at h
  simp only at h
  split at h
  · simp [throw, throwThe, MonadExceptOf.throw] at h
  · simp [throw, throwThe, MonadExceptOf.throw] at h
  · cases hf : fraction? (text.dropWhile Char.isDigit) with
    | error => simp [hf, bind, Except.bind] at h
    | ok f =>
      obtain ⟨fraction, afterFraction⟩ := f
      cases he : exponent? afterFraction with
      | error => simp [hf, he, bind, Except.bind] at h
      | ok e =>
        obtain ⟨exponent, after⟩ := e
        simp only [hf, he, bind, Except.bind, pure, Except.pure, Except.ok.injEq,
          Prod.mk.injEq] at h
        rw [← h.2]
        exact Nat.le_trans (length_exponent he) (length_fraction hf)

theorem length_tokenAt (c : Char) (rest : List Char) :
    (tokenAt c rest).2.length ≤ rest.length := by
  have word (token : Token) (w : List Char) :
      (wordToken token w rest).2.length ≤ rest.length := by
    unfold wordToken
    split
    · next h => exact length_afterWord h
    · simp
  have number (negative : Bool) (text : List Char)
      (bound : (text.dropWhile Char.isDigit).length ≤ rest.length) :
      (numberToken negative text).2.length ≤ rest.length := by
    unfold numberToken
    split
    · next h => exact Nat.le_trans (length_spelling h) bound
    · simp
  unfold tokenAt
  split
  · simp
  split
  · exact length_textToken rest
  split
  · exact number true rest (List.dropWhile_sublist _).length_le
  split
  · next digit =>
    refine number false (c :: rest) ?_
    rw [List.dropWhile_cons_of_pos digit]
    exact (List.dropWhile_sublist _).length_le
  split
  · exact word ..
  split
  · exact word ..
  split
  · exact word ..
  · simp

/-- The tokens of a text. -/
def tokens (text : List Char) : List Token :=
  match text with
  | [] => []
  | c :: rest =>
    if isSpace c then tokens rest
    else (tokenAt c rest).1 :: tokens (tokenAt c rest).2
termination_by text.length
decreasing_by
  · simp
  · exact Nat.lt_succ_of_le (length_tokenAt c rest)

end TypedQuery.Json
