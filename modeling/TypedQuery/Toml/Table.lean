import TypedQuery.Toml.Word

/-!
# Tables of TOML

A document says of its tables in what way each has come about, because that decides what may still
be added. A table with a header of its own is complete with the entries under that header. One that
only stands in the path of a longer header may still get a header. One that stands in front of a
dotted key may get entries by dotted keys only. A list of tables grows by headers in double
brackets, and its last table is the one that longer paths lead into.

No key is ever given twice: what would do so is refused.

A table may stand for a date or a time. It does if its first key is the one that is reserved for
that, and the text under it has to be one then.
-/

namespace TypedQuery.Toml

open Settings (Tree)

/-- How a table has come about. -/
inductive Origin where
  /-- By its header, or as the document itself. -/
  | header
  /-- As a part of the path of another header. -/
  | implied
  /-- In front of a dotted key. -/
  | dotted
  deriving DecidableEq

/-- What a key of a document stands for. -/
inductive Item where
  | value (tree : Tree)
  /-- A date or a time in its usual form. -/
  | moment (text : String)
  | table (origin : Origin) (entries : List (String × Item))
  | tables (all : List (List (String × Item)))

/-- The entries of a table. -/
abbrev Entries := List (String × Item)

/-- Sets an entry, in place of the one of the same key or after all others. -/
def setItem (key : String) (item : Item) : Entries → Entries
  | [] => [(key, item)]
  | (other, old) :: rest =>
    if other = key then (key, item) :: rest else (other, old) :: setItem key item rest

/-- Changes the table at the end of a path, making the tables on the way. A path of a dotted key
does not lead into tables that have a header. -/
def edit (isDotted : Bool) (f : Origin → Entries → Option Entries) :
    List String → Origin → Entries → Option Entries
  | [], origin, entries => f origin entries
  | key :: rest, _, entries => do
    let item ← match entries.lookup key with
      | none =>
        let origin := if isDotted then .dotted else .implied
        pure (.table origin (← edit isDotted f rest origin []))
      | some (.value _) | some (.moment _) => none
      | some (.tables all) =>
        let last ← all.getLast?
        pure (.tables (all.dropLast ++ [← edit isDotted f rest .header last]))
      | some (.table origin inner) =>
        if isDotted ∧ origin = .header then none
        else pure (.table origin (← edit isDotted f rest origin inner))
    return setItem key item entries

/-- Adds a value under a key that may be dotted. -/
def addValue (key : List String) (value : Item) (entries : Entries) : Option Entries := do
  let name ← key.getLast?
  let path := key.dropLast
  edit true (fun origin entries =>
    if (origin = .dotted ↔ path = []) ∨ (entries.lookup name).isSome then none
    else some (setItem name value entries)) path .header entries

/-- Adds the table of a header. -/
def addTable (path : List String) (entries : Entries) : Option Entries := do
  let name ← path.getLast?
  edit false (fun _ entries =>
    match entries.lookup name with
    | none => some (setItem name (.table .header []) entries)
    | some (.table .implied inner) => some (setItem name (.table .header inner) entries)
    | some _ => none) path.dropLast .header entries

/-- Adds a table to the list of a header in double brackets. -/
def addToList (path : List String) (entries : Entries) : Option Entries := do
  let name ← path.getLast?
  edit false (fun _ entries =>
    match entries.lookup name with
    | none => some (setItem name (.tables [[]]) entries)
    | some (.tables all) => some (setItem name (.tables (all ++ [[]])) entries)
    | some _ => none) path.dropLast .header entries

/-! ## Trees -/

/-- The key of a table that stands for a date or a time. -/
def momentKey : String := "$__toml_private_datetime"

/-- What stands under the first key of a table if that is the one for a date or a time. -/
def reserved? : Entries → Option Item
  | (key, item) :: _ => if key = momentKey then some item else none
  | [] => none

/-- The date or time that a text in quotes spells. -/
def Item.quotedMoment? : Item → Option String
  | .value (.text s) => (Toml.quotedMoment? s.toList).map String.ofList
  | _ => none

mutual

/-- The tree of an item, unless a table in it stands for a date or a time that is none. -/
def Item.tree? : Item → Option Tree
  | .value tree => some tree
  | .moment text => some (.text text)
  | .table _ entries => tree? entries
  | .tables all => (tablesOf? all).map .list

/-- The tree of a table. -/
def tree? (entries : List (String × Item)) : Option Tree :=
  match reserved? entries with
  | some item => item.quotedMoment?.map .text
  | none => (treesOf? entries).map .table

/-- The trees of entries. -/
def treesOf? : List (String × Item) → Option (List (String × Tree))
  | [] => some []
  | (key, item) :: rest => do return (key, ← item.tree?) :: (← treesOf? rest)

/-- The trees of the tables of a list. -/
def tablesOf? : List (List (String × Item)) → Option (List Tree)
  | [] => some []
  | entries :: rest => do return (← tree? entries) :: (← tablesOf? rest)

end

/-- A table in braces, to which nothing can be added. -/
def closed? (entries : Entries) : Option Item :=
  match reserved? entries with
  | some item => item.quotedMoment?.map .moment
  | none => (tree? entries).map .value

end TypedQuery.Toml
