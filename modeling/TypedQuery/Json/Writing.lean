/-!
# Writing JSON

Strings are written in double quotes. A quote, a backslash and the control characters are escaped,
the common controls by their letter and the others by their number; every other character stands for
itself. Nothing is written between tokens.
-/

namespace TypedQuery.Json

/-- A digit of a number below sixteen. -/
def hexDigit (n : Nat) : Char := Nat.digitChar n

/-- One character as it stands inside a string. -/
def writeChar (c : Char) : List Char :=
  if c = '"' then ['\\', '"']
  else if c = '\\' then ['\\', '\\']
  else if c = '\x08' then ['\\', 'b']
  else if c = '\x0c' then ['\\', 'f']
  else if c = '\n' then ['\\', 'n']
  else if c = '\r' then ['\\', 'r']
  else if c = '\t' then ['\\', 't']
  else if c.toNat < 32 then
    ['\\', 'u', '0', '0', hexDigit (c.toNat / 16), hexDigit (c.toNat % 16)]
  else [c]

/-- A string. -/
def writeText (text : List Char) : List Char :=
  '"' :: text.flatMap writeChar ++ ['"']

/-- A truth value. -/
def writeBool (b : Bool) : List Char :=
  if b then ['t', 'r', 'u', 'e'] else ['f', 'a', 'l', 's', 'e']

/-- The absence of a value. -/
def writeNull : List Char := ['n', 'u', 'l', 'l']

/-- An array of written items. -/
def writeArray (items : List (List Char)) : List Char :=
  '[' :: List.intercalate [','] items ++ [']']

/-- An object of written values, each under its name. -/
def writeObject (entries : List (String × List Char)) : List Char :=
  '\x7b' :: List.intercalate [','] (entries.map fun (name, value) =>
    writeText name.toList ++ ':' :: value) ++ ['\x7d']

end TypedQuery.Json
