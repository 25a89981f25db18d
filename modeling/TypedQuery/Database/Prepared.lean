import TypedQuery.Database.Reader.Statement

/-!
# Statements one after another

A text may hold several statements. They are read one at a time, as each may change how the next one
is understood.
-/

namespace TypedQuery.Database

/-- A statement that has been read, with the number of values that it needs. -/
structure Prepared where
  statement : Statement
  placeholders : Nat

/-- Lexemes with their offsets, without blanks and comments. -/
def tokensFrom (offset : Nat) : List Sql.Lexeme → List Token
  | [] => []
  | lexeme :: rest =>
    let after := offset + (String.ofList lexeme.text).utf8ByteSize
    if lexeme.kind = .blank ∨ lexeme.kind = .comment then tokensFrom after rest
    else ⟨lexeme, offset⟩ :: tokensFrom after rest

/-- Whether a lexeme ends a statement. -/
def isEnd (lexeme : Sql.Lexeme) : Bool := lexeme = ⟨.mark, [';']⟩

/-- Whether a lexeme may stand in front of a statement without being a part of it. -/
def isIdle (lexeme : Sql.Lexeme) : Bool :=
  lexeme.kind = .blank || lexeme.kind = .comment || isEnd lexeme

/-- The first statement of a text, if there is one, and the text after it. A text ends at a NUL. -/
def Prepared.first (text : String) : Except Failure (Option Prepared × String) :=
  let chars := text.toList
  let all := Sql.lexemes (chars.takeWhile (· ≠ '\x00'))
  let idle := all.takeWhile isIdle
  let relevant := all.dropWhile isIdle
  let own := relevant.takeWhile (!isEnd ·) ++ (relevant.dropWhile (!isEnd ·)).take 1
  let rest := String.ofList (chars.drop ((idle ++ own).flatMap Sql.Lexeme.text).length)
  let start := (String.ofList (idle.flatMap Sql.Lexeme.text)).utf8ByteSize
  if own.isEmpty then .ok (none, "")
  else
    match Reader.wholeStatement.run { text, tokens := tokensFrom start own } with
    | .ok (statement, state) => .ok (some ⟨statement, state.placeholders⟩, rest)
    | .error failure => .error failure

end TypedQuery.Database
