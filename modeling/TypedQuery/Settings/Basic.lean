import TypedQuery.Error
import TypedQuery.Settings.Tree
import TypedQuery.Decimal.Layout

/-!
# Settings

What can be set: where the database is and how it is opened, how many rows a stream holds back, and
how much is logged. Every setting has a value that holds if it is not given.

Settings are read from a tree by a lenient rule. A count may be given as a number, as a truth value
or as a text that spells one of these; a text may be given as a number or a truth value. A section
may be a list of its settings in their order. What is not known is passed over.
-/

namespace TypedQuery

/-- The settings of a program. -/
structure Settings where
  /-- The file of the database, or the name that stands for memory. -/
  path : String := "datapack/_sqlite.db"
  busyTimeoutMs : UInt64 := 5000
  /-- How many connections may be open at a time. -/
  maxConnections : UInt64 := 8
  /-- A file with statements to run when the database has been opened. -/
  migrations : Option String := none
  /-- How many rows a stream holds back. -/
  streamBuffer : UInt64 := 64
  logLevel : String := "info"

namespace Settings

/-- Whether the database is to be in memory. -/
def inMemory (settings : Settings) : Bool := settings.path = ":memory:"

/-- The largest count. -/
def maxCount : Nat := Nat.pow 2 64 - 1

/-- A real number as a count: the nearest integer, a half going up, or the end of the range. What is
no number counts as zero. -/
def countOfReal (x : Float) : UInt64 := x.round.toUInt64

/-- The count that a text spells: a word that says yes or no, or digits, with a plus in front or
none. -/
def countOfText? (text : String) : Option UInt64 :=
  let word := Text.lowerCase text
  if ["true", "on", "yes"].contains word then some 1
  else if ["false", "off", "no"].contains word then some 0
  else
    let digits := match text.toList with
      | '+' :: rest => rest
      | all => all
    if digits.isEmpty ∨ !digits.all Char.isDigit then none
    else
      let n := Nat.ofDigitChars 10 digits 0
      if n ≤ maxCount then some (UInt64.ofNat n) else none

/-- The count that a tree stands for. -/
def countOf? : Tree → Option UInt64
  | .integer i => if 0 ≤ i then some i.toUInt64 else none
  | .real x => some (countOfReal x)
  | .bool b => some (if b then 1 else 0)
  | .text s => countOfText? s
  | .null | .list _ | .table _ => none

/-- The text that a tree stands for. -/
def textOf? : Tree → Option String
  | .text s => some s
  | .integer i => some (toString i.toInt)
  | .real x => some (String.ofList (Decimal.Layout.plain.write x))
  | .bool b => some (if b then "true" else "false")
  | .null | .list _ | .table _ => none

/-- A text that need not be there. -/
def optionalTextOf? : Tree → Option (Option String)
  | .null => some none
  | tree => (textOf? tree).map some

/-- A part of a section, by its name or its position, if it is given. -/
def part? (group : Tree) (name : String) (position : Nat) : Option Tree :=
  match group with
  | .table entries => entries.lookup name
  | .list items => items[position]?
  | _ => none

/-- A section, which is empty if it is not given and otherwise has to have parts. -/
def sectionOf (root : Tree) (name : String) : Except SettingsFault Tree :=
  match root.entries.lookup name with
  | none => .ok (.table [])
  | some (.table entries) => .ok (.table entries)
  | some (.list items) => .ok (.list items)
  | some _ => .error (.unfitValue name)

/-- A setting of a section, or the value that holds if it is not given. -/
def setting {α : Type} (read? : Tree → Option α) (fallback : α) (group : Tree) (name : String)
    (position : Nat) : Except SettingsFault α :=
  match part? group name position with
  | none => .ok fallback
  | some tree =>
    match read? tree with
    | some value => .ok value
    | none => .error (.unfitValue name)

/-- Refuses settings that nothing could run with. -/
def validated (settings : Settings) : Except SettingsFault Settings :=
  if settings.streamBuffer = 0 then .error .noStreamBuffer
  else if settings.maxConnections = 0 then .error .noConnections
  else .ok settings

/-- The settings that a tree holds. -/
def ofTree (root : Tree) : Except SettingsFault Settings := do
  let database ← sectionOf root "database"
  let queries ← sectionOf root "query"
  let logging ← sectionOf root "log"
  let defaults : Settings := {}
  validated {
    path := ← setting textOf? defaults.path database "path" 0
    busyTimeoutMs := ← setting countOf? defaults.busyTimeoutMs database "busy_timeout_ms" 1
    maxConnections := ← setting countOf? defaults.maxConnections database "max_connections" 2
    migrations := ← setting optionalTextOf? defaults.migrations database "migrations" 3
    streamBuffer := ← setting countOf? defaults.streamBuffer queries "stream_buffer" 0
    logLevel := ← setting textOf? defaults.logLevel logging "level" 0 }

end Settings

end TypedQuery
