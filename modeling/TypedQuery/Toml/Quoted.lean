import TypedQuery.Text.Hexadecimal

/-!
# Texts of TOML

Four ways to write a text. Between double quotes a backslash starts an escape; between apostrophes
every character stands for itself. Three marks instead of one let a text run over several lines: a
line end right after them is dropped, up to two marks of the kind may stand in the text, even just
before the end, and a backslash at the end of a line takes away all blanks and line ends after it.

Control characters other than the tab may not stand in a text, and a carriage return only before a
line feed, with which it is one line end.
-/

namespace TypedQuery.Toml

/-- Whether a character may stand in a text or a comment. -/
def isPlain (c : Char) : Bool :=
  c = '\t' || (32 ≤ c.toNat && c.toNat ≠ 127)

/-- Whether a character is a blank. -/
def isBlank (c : Char) : Bool := c = ' ' || c = '\t'

/-- The character of a number in hexadecimal digits, if it is one. -/
def charOf? (digits : List Char) : Option Char :=
  let n := Text.valueOfDigits 16 digits
  if digits.all Text.isHexDigit ∧ n.isValidChar then some (Char.ofNat n) else none

/-- The character that a letter after a backslash stands for. -/
def escaped? (c : Char) : Option Char :=
  match c with
  | 'b' => some '\x08'
  | 't' => some '\t'
  | 'n' => some '\n'
  | 'f' => some '\x0c'
  | 'r' => some '\r'
  | '"' => some '"'
  | '\\' => some '\\'
  | _ => none

/-- A text between double quotes whose first mark has been read, and what follows it. -/
def basic? : List Char → Option (List Char × List Char)
  | [] => none
  | '"' :: rest => some ([], rest)
  | '\\' :: 'u' :: a :: b :: c :: d :: rest => do
    let char ← charOf? [a, b, c, d]
    let (text, after) ← basic? rest
    return (char :: text, after)
  | '\\' :: 'U' :: a :: b :: c :: d :: e :: f :: g :: h :: rest => do
    let char ← charOf? [a, b, c, d, e, f, g, h]
    let (text, after) ← basic? rest
    return (char :: text, after)
  | '\\' :: letter :: rest => do
    let char ← escaped? letter
    let (text, after) ← basic? rest
    return (char :: text, after)
  | c :: rest =>
    if isPlain c ∧ c ≠ '\\' then do
      let (text, after) ← basic? rest
      return (c :: text, after)
    else none

/-- A text between apostrophes whose first mark has been read, and what follows it. -/
def literal? (text : List Char) : Option (List Char × List Char) :=
  let content := text.takeWhile fun c => isPlain c && c ≠ '\''
  match text.drop content.length with
  | '\'' :: rest => some (content, rest)
  | _ => none

/-- The text after a line end, if one comes first. -/
def afterLineEnd? : List Char → Option (List Char)
  | '\n' :: rest | '\r' :: '\n' :: rest => some rest
  | _ => none

/-- A text without the line end that it may start with. -/
def dropLineEnd (text : List Char) : List Char := (afterLineEnd? text).getD text

/-- The marks at the end of a text of several lines: those that belong to the text, and what
follows. Three end it, and two more may come before them. -/
def closing? (mark : Char) (text : List Char) : Option (List Char × List Char) :=
  let marks := min 5 (text.takeWhile (· = mark)).length
  if marks < 3 then none else some (List.replicate (marks - 3) mark, text.drop marks)

/-- A text of several lines between double quotes, and what follows it. While `trimming`, blanks and
line ends are passed over. -/
def longBasic? (trimming : Bool) : List Char → Option (List Char × List Char)
  | [] => none
  | '\r' :: '\n' :: rest | '\n' :: rest => do
    let (text, after) ← longBasic? trimming rest
    return (if trimming then text else '\n' :: text, after)
  | '\\' :: 'u' :: a :: b :: c :: d :: rest => do
    let char ← charOf? [a, b, c, d]
    let (text, after) ← longBasic? false rest
    return (char :: text, after)
  | '\\' :: 'U' :: a :: b :: c :: d :: e :: f :: g :: h :: rest => do
    let char ← charOf? [a, b, c, d, e, f, g, h]
    let (text, after) ← longBasic? false rest
    return (char :: text, after)
  | '\\' :: letter :: rest =>
    if (afterLineEnd? ((letter :: rest).dropWhile isBlank)).isSome then
      longBasic? true (letter :: rest)
    else do
      let char ← escaped? letter
      let (text, after) ← longBasic? false rest
      return (char :: text, after)
  | c :: rest =>
    match if c = '"' then closing? '"' (c :: rest) else none with
    | some found => some found
    | none =>
      if trimming ∧ isBlank c then longBasic? true rest
      else if isPlain c ∧ c ≠ '\\' then do
        let (text, after) ← longBasic? false rest
        return (c :: text, after)
      else none

/-- A text of several lines between apostrophes, and what follows it. -/
def longLiteral? : List Char → Option (List Char × List Char)
  | [] => none
  | '\r' :: '\n' :: rest | '\n' :: rest => do
    let (text, after) ← longLiteral? rest
    return ('\n' :: text, after)
  | c :: rest =>
    match if c = '\'' then closing? '\'' (c :: rest) else none with
    | some found => some found
    | none =>
      if isPlain c then do
        let (text, after) ← longLiteral? rest
        return (c :: text, after)
      else none

/-- The text in front of a text, in any of the four ways, and what follows it. -/
def quoted? : List Char → Option (List Char × List Char)
  | '"' :: '"' :: '"' :: rest => longBasic? false (dropLineEnd rest)
  | '\'' :: '\'' :: '\'' :: rest => longLiteral? (dropLineEnd rest)
  | '"' :: rest => basic? rest
  | '\'' :: rest => literal? rest
  | _ => none

end TypedQuery.Toml
