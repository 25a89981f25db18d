import TypedQuery.Json.Token

/-!
# JSON values

The value in front of a list of tokens, read by one pass that keeps the open arrays and objects on a
stack. A text that breaks off is read as far as it goes: the place where it breaks is a part of the
value, and the arrays and objects that were open there end with it. A reader that wants a value of
some kind goes through the parts in the order of the text, and what it meets first decides whether
the text is of the wrong kind or no JSON at all.
-/

namespace TypedQuery

mutual

/-- A JSON value, up to the place where its text breaks off. -/
inductive Json where
  | null
  | bool (b : Bool)
  | number (value : Except Json.Fault Json.Number)
  | text (value : Except Json.Fault (List Char))
  | array (items : Json.Items)
  | object (entries : Json.Entries)
  /-- No value can be read here. -/
  | broken (stop : Json.Break)

/-- The items of an array. -/
inductive Json.Items where
  | done
  /-- Neither a comma nor the end of the array can be read here. -/
  | cut (stop : Json.Break)
  | item (value : Json) (rest : Json.Items)

/-- The entries of an object, a key for each value. -/
inductive Json.Entries where
  | done
  /-- Neither a key nor the end of the object can be read here. -/
  | cut (stop : Json.Break)
  | entry (key : Except Json.Fault (List Char)) (value : Json) (rest : Json.Entries)

end

namespace Json

/-- A key, or the fault of its spelling. -/
abbrev Key := Except Fault (List Char)

/-- An array or an object whose end has not been read, with its parts so far, the last one first. -/
inductive Frame where
  | array (items : List Json)
  /-- An object with the key of the value that is being read. -/
  | object (entries : List (Key × Json)) (key : Key)

/-- What is wanted next. -/
inductive Need where
  | value
  /-- The first item of an array, or its end. -/
  | itemOrEnd
  /-- A comma, or the end of what is open. -/
  | comma
  | key
  /-- The first key of an object, or its end. -/
  | keyOrEnd
  | colon

/-- The items of an array from its parts, the last one first. -/
def itemsOf (items : List Json) (last : Items) : Items :=
  items.foldl (fun rest item => .item item rest) last

/-- The entries of an object from its parts, the last one first. -/
def entriesOf (entries : List (Key × Json)) (last : Entries) : Entries :=
  entries.foldl (fun rest entry => .entry entry.1 entry.2 rest) last

/-- The whole value when one of its parts is the last that can be read. -/
def closeAll (value : Json) : List Frame → Json
  | [] => value
  | .array items :: outer => closeAll (.array (itemsOf items (.item value .done))) outer
  | .object entries key :: outer =>
    closeAll (.object (entriesOf entries (.entry key value .done))) outer

/-- The whole value when reading stops at a place where something is wanted. -/
def breakOff (need : Need) (stop : Break) (frames : List Frame) : Json :=
  match need, frames with
  | .value, _ | .colon, _ => closeAll (.broken stop) frames
  | _, .array items :: outer => closeAll (.array (itemsOf items (.cut stop))) outer
  | _, .object entries _ :: outer => closeAll (.object (entriesOf entries (.cut stop))) outer
  | _, [] => .broken stop

/-- The state of the pass. -/
inductive State where
  | reading (need : Need) (frames : List Frame)
  | finished (value : Json)

/-- The state after a value has been read inside of what is open. -/
def State.after (value : Json) : List Frame → State
  | [] => .finished value
  | .array items :: outer => .reading .comma (.array (value :: items) :: outer)
  | .object entries key :: outer => .reading .comma (.object ((key, value) :: entries) key :: outer)

/-- The state after a token where a value is wanted. -/
def State.begin (token : Token) (frames : List Frame) : State :=
  match token with
  | .null => .after .null frames
  | .bool b => .after (.bool b) frames
  | .number value => .after (.number value) frames
  | .text value => .after (.text value) frames
  | .mark '[' => .reading .itemOrEnd (.array [] :: frames)
  | .mark '\x7b' => .reading .keyOrEnd (.object [] (.ok []) :: frames)
  | .mark _ => .finished (breakOff .value (.same .spelling) frames)
  | .bad stop | .badText stop => .finished (breakOff .value stop frames)

/-- The break when a token is not what is wanted and no value is wanted either: a string that does
not end breaks off a key, and everything else is misplaced. A reader that wants a word reads the
first key as every reader does, but looks no further than the comma in front of a second. -/
def misplaced (need : Need) (token : Token) : Break :=
  match need, token with
  | .key, .badText stop => { stop with choosing := .spelling }
  | .keyOrEnd, .badText stop => stop
  | _, _ => .same .spelling

/-- The break when the text ends before what is wanted. -/
def missing : Need → Break
  | .key => ⟨.ending, .ending, .spelling⟩
  | _ => .same .ending

/-- The state after one more token. -/
def State.step (need : Need) (frames : List Frame) (token : Token) : State :=
  match need, token, frames with
  | .value, token, frames => .begin token frames
  | .itemOrEnd, .mark ']', .array items :: outer => .after (.array (itemsOf items .done)) outer
  | .itemOrEnd, token, frames => .begin token frames
  | .comma, .mark ',', .array items :: outer => .reading .value (.array items :: outer)
  | .comma, .mark ']', .array items :: outer => .after (.array (itemsOf items .done)) outer
  | .comma, .mark ',', .object entries key :: outer =>
    .reading .key (.object entries key :: outer)
  | .comma, .mark '\x7d', .object entries _ :: outer =>
    .after (.object (entriesOf entries .done)) outer
  | .keyOrEnd, .mark '\x7d', .object entries _ :: outer =>
    .after (.object (entriesOf entries .done)) outer
  | .keyOrEnd, .text key, .object entries _ :: outer =>
    .reading .colon (.object entries key :: outer)
  | .key, .text key, .object entries _ :: outer => .reading .colon (.object entries key :: outer)
  | .colon, .mark ':', frames => .reading .value frames
  | need, token, frames => .finished (breakOff need (misplaced need token) frames)

/-- The value in front of a list of tokens, and the tokens after it. -/
def run (need : Need) (frames : List Frame) : List Token → Json × List Token
  | [] => (breakOff need (missing need) frames, [])
  | token :: rest =>
    match State.step need frames token with
    | .finished value => (value, rest)
    | .reading need frames => run need frames rest

/-! ## Readers that go through a whole value -/

/-- How deep arrays and objects may lie in each other, plus one. -/
def depthLimit : Nat := 128

mutual

/-- The first fault for a reader that takes in a whole value of any kind, which may not lie too
deep. -/
def fault? (depth : Nat) : Json → Option Fault
  | .null | .bool _ => none
  | .number (.ok _) | .text (.ok _) => none
  | .number (.error fault) | .text (.error fault) => some fault
  | .array items => if depth ≤ 1 then some .spelling else itemsFault? (depth - 1) items
  | .object entries => if depth ≤ 1 then some .spelling else entriesFault? (depth - 1) entries
  | .broken stop => some stop.reading

/-- The first fault among the items of an array. -/
def itemsFault? (depth : Nat) : Items → Option Fault
  | .done => none
  | .cut stop => some stop.reading
  | .item value rest => (fault? depth value).or (itemsFault? depth rest)

/-- The first fault among the entries of an object. -/
def entriesFault? (depth : Nat) : Entries → Option Fault
  | .done => none
  | .cut stop => some stop.reading
  | .entry (.error fault) _ _ => some fault
  | .entry (.ok _) value rest => (fault? depth value).or (entriesFault? depth rest)

end

mutual

/-- The first fault for a reader that skips a value, however deep it is and whatever it means. -/
def skipFault? : Json → Option Fault
  | .null | .bool _ | .number _ | .text _ => none
  | .array items => skipItemsFault? items
  | .object entries => skipEntriesFault? entries
  | .broken stop => some stop.skipping

/-- The first fault when the items of an array are skipped. -/
def skipItemsFault? : Items → Option Fault
  | .done => none
  | .cut stop => some stop.skipping
  | .item value rest => (skipFault? value).or (skipItemsFault? rest)

/-- The first fault when the entries of an object are skipped. -/
def skipEntriesFault? : Entries → Option Fault
  | .done => none
  | .cut stop => some stop.skipping
  | .entry _ value rest => (skipFault? value).or (skipEntriesFault? rest)

end

/-! ## Documents -/

/-- A text as a JSON value with a flag for text after it. -/
structure Document where
  root : Json
  /-- Whether anything but space follows the value. -/
  trailing : Bool

/-- Reads a text. -/
def Document.ofChars (text : List Char) : Document :=
  let (root, rest) := run .value [] (tokens text)
  ⟨root, !rest.isEmpty⟩

/-- Reads a text that is one value and nothing else. A value of the wrong kind is refused before the
text after it is looked at. -/
def readWhole {α : Type} (read : Json → Except Fault α) (text : String) : Except Fault α := do
  let document := Document.ofChars text.toList
  let value ← read document.root
  if document.trailing then throw .spelling else return value

end Json

end TypedQuery
