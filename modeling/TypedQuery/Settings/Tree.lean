import TypedQuery.Text.LowerCase

/-!
# Trees of settings

What a source of settings holds, whatever format it is written in: tables of named values, lists,
and values without parts. A path names a place in a tree. Setting a place makes the tables and lists
on the way to it, in place of whatever was there; a table is not set but merged, entry by entry,
into the one that is there. Letter case does not tell names apart: they are put in lower case.

No list has a place in front of its first item, and none can be as long as one likes. A path that
asks for such a place brings the program down.
-/

namespace TypedQuery.Settings

/-- A tree of settings. -/
inductive Tree where
  | null
  | bool (b : Bool)
  | integer (i : Int64)
  | real (x : Float)
  | text (s : String)
  | list (items : List Tree)
  | table (entries : List (String × Tree))

/-- A step from a tree to a part of it. -/
inductive PathStep where
  | child (name : String)
  /-- An item of a list; a negative index counts from the end. -/
  | item (index : Int)
  deriving DecidableEq

/-- A place in a tree: an entry at the root, and the steps from it. -/
structure Path where
  root : String
  steps : List PathStep
  deriving DecidableEq

namespace Tree

/-- The entries of a table; other trees have none. -/
def entries : Tree → List (String × Tree)
  | .table entries => entries
  | _ => []

/-- The items of a list; other trees have none. -/
def items : Tree → List Tree
  | .list items => items
  | _ => []

/-- Sets an entry, in place of the one of the same name or after all others. -/
def setEntry (name : String) (value : Tree) : List (String × Tree) → List (String × Tree)
  | [] => [(name, value)]
  | (other, old) :: rest =>
    if other = name then (name, value) :: rest else (other, old) :: setEntry name value rest

mutual

/-- A tree, taken for a table, after an entry of it has been set. A table is merged into what is
there. -/
def put (tree : Tree) (name : String) (value : Tree) : Tree :=
  match value with
  | .table incoming =>
    let target := (tree.entries.lookup name).getD (.table [])
    .table (setEntry name (putAll target incoming) tree.entries)
  | other => .table (setEntry name other tree.entries)

/-- A tree after entries have been put into it one after another. -/
def putAll (tree : Tree) : List (String × Tree) → Tree
  | [] => tree
  | (name, value) :: rest => putAll (tree.put (Text.lowerCase name) value) rest

end

/-- How many items a list may have. -/
def maxItems : Nat := Nat.pow 2 32

/-- The position that an index stands for in a list, which may have to be made longer for it. -/
def position? (index : Int) (length : Nat) : Option Nat :=
  if 0 ≤ index then if index < maxItems then some index.toNat else none
  else if index.natAbs ≤ length then some (length - index.natAbs)
  else none

/-- A list that is long enough for a position. -/
def stretched (items : List Tree) (position : Nat) : List Tree :=
  items ++ List.replicate (position + 1 - items.length) .null

/-- Changes a part of a tree, which is made if it is not there. -/
def change (f : Tree → Tree) : List PathStep → Tree → Option Tree
  | [], tree => some (f tree)
  | .child name :: rest, tree => do
    let old := (tree.entries.lookup name).getD .null
    return .table (setEntry name (← change f rest old) tree.entries)
  | .item index :: rest, tree => do
    let i ← position? index tree.items.length
    let items := stretched tree.items i
    return .list (items.set i (← change f rest (items[i]?.getD .null)))

/-- Sets the place that a path names, if there can be such a place. -/
def setAt (tree : Tree) (path : Path) (value : Tree) : Option Tree :=
  let all := PathStep.child path.root :: path.steps
  match all.getLast? with
  | some (.child name) => change (·.put name value) all.dropLast tree
  | some (.item index) => change (fun _ => value) (all.dropLast ++ [.item index]) tree
  | none => some tree

end Tree

/-! ## Paths as they are written -/

/-- Whether a character may stand in a name on a path. -/
def isPathChar (c : Char) : Bool :=
  c.isAlphanum || c = '_' || c = '-' || c = ' '

/-- The name in front of a text, and the text after it. -/
def pathName? (text : List Char) : Option (String × List Char) :=
  let name := text.takeWhile isPathChar
  if name.isEmpty then none else some (String.ofList name, text.dropWhile isPathChar)

/-- The index in front of a text, blanks around it skipped, and the text after its bracket. -/
def pathIndex? (text : List Char) : Option (Int × List Char) :=
  let isSpace (c : Char) := c = ' ' || c = '\t'
  let trimmed := text.dropWhile isSpace
  let (minus, unsigned) :=
    match trimmed with
    | '-' :: rest => (true, rest)
    | _ => (false, trimmed)
  let digits := unsigned.takeWhile Char.isDigit
  match (String.ofList digits).toNat?, (unsigned.dropWhile Char.isDigit).dropWhile isSpace with
  | some n, ']' :: rest =>
    if n < Nat.pow 2 63 ∨ (minus ∧ n = Nat.pow 2 63) then
      some (if minus then -(n : Int) else n, rest)
    else none
  | _, _ => none

/-- The steps that a text spells, of which there are at most `fuel`. -/
def pathSteps? : Nat → List Char → Option (List PathStep)
  | _, [] => some []
  | 0, _ => none
  | fuel + 1, '.' :: rest => do
    let (name, after) ← pathName? rest
    return .child name :: (← pathSteps? fuel after)
  | fuel + 1, '[' :: rest => do
    let (index, after) ← pathIndex? rest
    return .item index :: (← pathSteps? fuel after)
  | _, _ => none

/-- The path that a key spells, in lower case; one that spells none is the name of an entry. -/
def Path.ofKey (key : String) : Path :=
  let key := Text.lowerCase key
  let spelled? : Option Path := do
    let (root, rest) ← pathName? key.toList
    return ⟨root, ← pathSteps? rest.length rest⟩
  spelled?.getD ⟨key, []⟩

end TypedQuery.Settings
