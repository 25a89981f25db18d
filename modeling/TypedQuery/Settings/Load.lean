import TypedQuery.Json.Tree
import TypedQuery.Settings.Basic
import TypedQuery.Toml.Document

/-!
# Where settings come from

Settings come from a file and from the environment, which has the last word. The extension of the
file says what format it is in. A variable of the environment is a setting if its name starts with
the name of the program; two underscores in the rest of it stand for the point of a path. Its value
is a text.
-/

namespace TypedQuery.Settings

/-- A file of settings. -/
inductive File where
  /-- No file is asked for. -/
  | unasked
  /-- The file that is asked for is not there. -/
  | missing
  | present (extension text : String)

/-! ## Trees of JSON documents -/

/-- The text of a part of a document that has been checked. -/
def checkedText (text : Except Json.Fault (List Char)) : String :=
  String.ofList (text.toOption.getD [])

/-- A number: an integer if it fits 64 bits with a sign. -/
def treeOfNumber : Json.Number → Tree
  | .natural n => if n < Nat.pow 2 63 then .integer (Int64.ofNat n) else .real n.toUInt64.toFloat
  | .negative i => .integer (Int64.ofInt i)
  | .real x => .real x

mutual

/-- The tree of a document that has been checked. Of entries with the same key the last one counts.
-/
def treeOfJson : Json → Tree
  | .null => .null
  | .bool b => .bool b
  | .number (.ok n) => treeOfNumber n
  | .number (.error _) => .null
  | .text s => .text (checkedText s)
  | .array items => .list (treesOfItems items)
  | .object entries => .table (treesOfEntries [] entries)
  | .broken _ => .null

/-- The trees of the items of an array. -/
def treesOfItems : Json.Items → List Tree
  | .done | .cut _ => []
  | .item value rest => treeOfJson value :: treesOfItems rest

/-- The trees of the entries of an object, put after those before them. -/
def treesOfEntries (before : List (String × Tree)) : Json.Entries → List (String × Tree)
  | .done | .cut _ => before
  | .entry key value rest =>
    treesOfEntries (Tree.setEntry (checkedText key) (treeOfJson value) before) rest

end

/-- The tree of a JSON text, unless the text is none. -/
def readJson? (text : String) : Option Tree :=
  let read (json : Json) : Except Json.Fault Tree :=
    match Json.fault? Json.depthLimit json with
    | some fault => .error fault
    | none => .ok (treeOfJson json)
  (Json.readWhole read text).toOption

/-! ## Sources -/

/-- The entries that a file gives. -/
def File.read : File → Except SettingsFault (List (String × Tree))
  | .unasked => .ok []
  | .missing => .error .fileMissing
  | .present "toml" text => rootOf (Toml.read? text)
  | .present "json" text => rootOf (readJson? text)
  | .present _ _ => .error .unknownFormat
where
  rootOf : Option Tree → Except SettingsFault (List (String × Tree))
    | some (.table entries) => .ok entries
    | _ => .error .malformedFile

/-- A text with points in place of two underscores. -/
def withPoints : List Char → List Char
  | '_' :: '_' :: rest => '.' :: withPoints rest
  | c :: rest => c :: withPoints rest
  | [] => []

/-- How the names of variables start that are settings, in lower case. -/
def variableStart : List Char := "northwind_".toList

/-- The key of the setting that a variable is. -/
def keyOfVariable? (name : String) : Option String :=
  let name := (Text.lowerCase name).toList
  if variableStart.isPrefixOf name then
    some (String.ofList (withPoints (name.drop variableStart.length)))
  else none

/-- The entries that the environment gives. -/
def ofEnvironment (environment : List (String × String)) : List (String × Tree) :=
  environment.filterMap fun (name, value) => (keyOfVariable? name).map (·, .text value)

/-- A tree after entries have been set by their keys, one after another, if there can be such
places. -/
def withEntries? (tree : Tree) (entries : List (String × Tree)) : Option Tree :=
  entries.foldlM (fun tree (key, value) => tree.setAt (Path.ofKey key) value) tree

/-- The settings of a file and an environment. There is no answer at all if one of their keys asks
for a place that there cannot be. -/
def load (file : File) (environment : List (String × String)) :
    Option (Except QueryError Settings) :=
  match file.read with
  | .error fault => some (.error (.settings fault))
  | .ok entries =>
    (withEntries? (.table []) (entries ++ ofEnvironment environment)).map fun tree =>
      (ofTree tree).mapError .settings

end TypedQuery.Settings
