import TypedQuery.Toml.Quoted
import TypedQuery.Toml.Table
import TypedQuery.Toml.Word

/-!
# Documents of TOML

A document is a sequence of lines: values under keys, headers, comments and nothing. A header says
which table the values after it belong to. Values may be lists and tables in brackets, which lie at
most 79 deep in each other.

A reader works on the text that is left and fails without saying where, for a document is accepted
or not. Loops are bounded by the length of that text.
-/

namespace TypedQuery.Toml

open Settings (Tree)

/-- A reader of the text that is left. -/
abbrev Reader := StateT (List Char) Option

namespace Reader

/-- Takes what a function finds in front of the text. -/
def take {α : Type} (find? : List Char → Option (α × List Char)) : Reader α := do
  let (found, rest) ← StateT.lift (find? (← get))
  set rest
  return found

/-- Whether a character comes next. -/
def sees (c : Char) : Reader Bool := do return (← get).head? = some c

/-- Takes a character. -/
def mark (c : Char) : Reader Unit := take fun text => (after? c text).map ((), ·)

/-- Takes a character if it comes next. -/
def mark? (c : Char) : Reader Bool := do
  if ← sees c then
    mark c
    return true
  else return false

/-- Passes over blanks. -/
def blanks : Reader Unit := modify (·.dropWhile isBlank)

/-- Takes a line end if one comes next. -/
def lineEnd? : Reader Bool := do
  match afterLineEnd? (← get) with
  | some rest =>
    set rest
    return true
  | none => return false

/-- Passes over a comment if one comes next. -/
def comment : Reader Unit := do
  if ← sees '#' then modify (·.dropWhile isPlain)

/-- The end of a line: blanks, a comment, and a line end or the end of the text. -/
def lineRest : Reader Unit := do
  blanks
  comment
  if (← get).isEmpty then return
  if ← lineEnd? then return else failure

/-- Passes over blanks, comments and line ends; `fuel` bounds the number of lines. -/
def linesWithin : Nat → Reader Unit
  | 0 => return
  | fuel + 1 => do
    blanks
    comment
    if ← lineEnd? then linesWithin fuel

/-- Passes over blanks, comments and line ends. -/
def lines : Reader Unit := do linesWithin ((← get).length + 1)

/-! ## Keys -/

/-- Whether a character may stand in a key without quotes. -/
def isKeyChar (c : Char) : Bool := c.isAlphanum || c = '_' || c = '-'

/-- One part of a key. -/
def keyPart : Reader String := do
  if (← sees '"') || (← sees '\'') then
    let text ← get
    -- a key does not run over several lines
    if text.take 3 = ['"', '"', '"'] ∨ text.take 3 = ['\'', '\'', '\''] then failure
    else return String.ofList (← take quoted?)
  else
    let word := (← get).takeWhile isKeyChar
    if word.isEmpty then failure
    modify (·.drop word.length)
    return String.ofList word

/-- A key, its parts separated by points; `fuel` bounds their number. -/
def keyWithin : Nat → Reader (List String)
  | 0 => failure
  | fuel + 1 => do
    blanks
    let part ← keyPart
    blanks
    if ← mark? '.' then return part :: (← keyWithin fuel) else return [part]

/-- A key. Its parts are as few as the levels that values may have. -/
def key : Reader (List String) := keyWithin 79

/-! ## Values -/

/-- Whether a character ends a word. -/
def endsWord (c : Char) : Bool :=
  isBlank c || c ∈ ['\n', '\r', ',', ']', '\x7d', '#']

/-- The word in front of a text. -/
def wordOf (text : List Char) : List Char := text.takeWhile (!endsWord ·)

/-- The value of a word. A date may be followed by a blank and the time of day. -/
def word : Reader Item := do
  let text ← get
  let first := wordOf text
  let rest := text.drop first.length
  match day? first, rest with
  | some (day, []), ' ' :: more =>
    let second := wordOf more
    match zonedClock? second with
    | some clock =>
      set (more.drop second.length)
      return .moment (String.ofList (day ++ 'T' :: clock))
    | none =>
      set rest
      return .moment (String.ofList day)
  | _, _ =>
    set rest
    match moment? first with
    | some text => return .moment (String.ofList text)
    | none => return .value (← StateT.lift (ofWord? first))

/-- The items of a list up to its closing bracket, with a comma after each but maybe the last;
`fuel` bounds their number. -/
def itemsWithin (item : Reader Item) : Nat → Reader (List Tree)
  | 0 => failure
  | fuel + 1 => do
    lines
    if ← mark? ']' then return []
    let first ← StateT.lift (← item).tree?
    lines
    if ← mark? ',' then return first :: (← itemsWithin item fuel)
    mark ']'
    return [first]

/-- The entries of a table in braces up to its closing brace, with a comma between them; `fuel`
bounds their number. -/
def entriesWithin (item : Reader Item) (entries : Entries) : Nat → Reader Entries
  | 0 => failure
  | fuel + 1 => do
    let name ← key
    mark '='
    blanks
    let value ← item
    blanks
    let entries ← StateT.lift (addValue name value entries)
    if ← mark? ',' then entriesWithin item entries fuel
    else
      mark '\x7d'
      return entries

/-- A value; `depth` bounds how deep lists and tables lie in each other. -/
def valueWithin (depth : Nat) : Reader Item := do
  if (← sees '"') || (← sees '\'') then return .value (.text (String.ofList (← take quoted?)))
  else
    match depth with
    | 0 => word
    | depth + 1 =>
      if ← mark? '[' then
        return .value (.list (← itemsWithin (valueWithin depth) ((← get).length + 1)))
      else if ← mark? '\x7b' then
        blanks
        if ← mark? '\x7d' then return .value (.table [])
        else
          let entries ← entriesWithin (valueWithin depth) [] ((← get).length + 1)
          StateT.lift (closed? entries)
      else word

/-- A value. -/
def value : Reader Item := valueWithin 79

/-! ## Lines -/

/-- A document as far as it has been read: its table, and the path of the table that is being
filled. -/
structure Draft where
  entries : Entries := []
  path : List String := []

/-- A line, without the blanks in front of it. -/
def line (draft : Draft) : Reader Draft := do
  if ← mark? '[' then
    if ← mark? '[' then
      let path ← key
      mark ']'
      mark ']'
      lineRest
      return { entries := ← StateT.lift (addToList path draft.entries), path }
    else
      let path ← key
      mark ']'
      lineRest
      return { entries := ← StateT.lift (addTable path draft.entries), path }
  else if (← sees '#') || (afterLineEnd? (← get)).isSome then
    lineRest
    return draft
  else
    let name ← key
    mark '='
    blanks
    let found ← value
    lineRest
    let fill (_ : Origin) (entries : Entries) := addValue name found entries
    return { draft with
      entries := ← StateT.lift (edit false fill draft.path .header draft.entries) }

/-- The lines of a document up to its end; `fuel` bounds their number. -/
def documentWithin (draft : Draft) : Nat → Reader Draft
  | 0 => failure
  | fuel + 1 => do
    blanks
    if (← get).isEmpty then return draft else documentWithin (← line draft) fuel

end Reader

/-- The tree of a document, unless the text is none. A mark of byte order in front is passed over.
-/
def read? (text : String) : Option Tree := do
  let text :=
    match text.toList with
    | c :: rest => if c.toNat = 0xFEFF then rest else c :: rest
    | [] => []
  let (draft, _) ← (Reader.documentWithin {} (text.length + 1)).run text
  tree? draft.entries

end TypedQuery.Toml
