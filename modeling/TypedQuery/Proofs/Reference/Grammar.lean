import Mathlib.Data.List.TakeWhile
import TypedQuery.Proofs.Text.Legible
import TypedQuery.Reference

/-!
# The grammar of references

The texts that are references, as trees of their parts. A `ColumnText` is a way to take a text apart
into blanks, a scope, a star or a name, and an alias; `ColumnText.chars` is the text and
`ColumnText.spec` what it says. Tables have `TableText`. The parts carry what the grammar asks of
their characters, so there is no tree of a text that is not a reference.

No text can be taken apart in two ways: `ColumnText.chars_injective`, `TableText.chars_injective`.
Blanks and names take as many characters as they can, since what is behind them starts with a
character of another kind (`Stops`), and a word `as` between blanks cannot be blanks alone.
-/

namespace TypedQuery.Reference

/-! ## Characters -/

/-- A space, a tab or a line end. -/
def IsBlank (c : Char) : Prop :=
  c = ' ' ∨ c = '\t' ∨ c = '\r' ∨ c = '\n'

/-- An ASCII letter or an underscore. -/
def IsNameStart (c : Char) : Prop :=
  ('a' ≤ c ∧ c ≤ 'z') ∨ ('A' ≤ c ∧ c ≤ 'Z') ∨ c = '_'

/-- A letter or a number of any script, or an underscore. -/
def IsNamePart (c : Char) : Prop :=
  Text.isAlphanumeric c = true ∨ c = '_'

/-- The blanks of the reader are those of the grammar. -/
theorem isSpace_iff {c : Char} : isSpace c = true ↔ IsBlank c := by
  simp [isSpace, IsBlank, or_assoc]

/-- A name of the reader starts as one of the grammar. -/
theorem startsName_iff {c : Char} : startsName c = true ↔ IsNameStart c := by
  have small {last : Char} (le : c ≤ last) (ascii : last.toNat < 128) : c.toNat < 128 :=
    Nat.lt_of_le_of_lt le ascii
  have upper : c.isUpper = true ↔ 'A' ≤ c ∧ c ≤ 'Z' := decide_eq_true_iff
  have lower : c.isLower = true ↔ 'a' ≤ c ∧ c ≤ 'z' :=
    Bool.and_eq_true_iff.trans (and_congr decide_eq_true_iff decide_eq_true_iff)
  have letter : c.isAlpha = true ↔ ('A' ≤ c ∧ c ≤ 'Z') ∨ ('a' ≤ c ∧ c ≤ 'z') :=
    Bool.or_eq_true_iff.trans (or_congr upper lower)
  simp only [startsName, IsNameStart, Bool.or_eq_true, Bool.and_eq_true, decide_eq_true_eq, letter]
  constructor
  · rintro (⟨-, upper | lower⟩ | low)
    · exact .inr (.inl upper)
    · exact .inl lower
    · exact .inr (.inr low)
  · rintro (lower | upper | low)
    · exact .inl ⟨small lower.2 (by decide), .inr lower⟩
    · exact .inl ⟨small upper.2 (by decide), .inl upper⟩
    · exact .inr low

/-- A name of the reader goes on as one of the grammar. -/
theorem isWordChar_iff {c : Char} : Text.isWordChar c = true ↔ IsNamePart c := by
  simp [Text.isWordChar, IsNamePart]

/-- A blank is neither the start nor a part of a name. -/
theorem IsBlank.not_name {c : Char} (blank : IsBlank c) :
    startsName c = false ∧ Text.isWordChar c = false := by
  rcases blank with rfl | rfl | rfl | rfl <;> decide

/-- The start of a name is not a blank. -/
theorem IsNameStart.not_blank {c : Char} (starts : IsNameStart c) : isSpace c = false := by
  rw [Bool.eq_false_iff]
  intro space
  have none := (isSpace_iff.1 space).not_name.1
  rw [startsName_iff.2 starts] at none
  cases none

/-! ## Parts -/

/-- Blanks, or nothing. -/
@[ext]
structure Blanks where
  chars : List Char
  blank : ∀ c ∈ chars, IsBlank c

/-- At least one blank. -/
@[ext]
structure Gap where
  first : Char
  rest : Blanks
  blank : IsBlank first

/-- A name. -/
@[ext]
structure Name where
  first : Char
  rest : List Char
  starts : IsNameStart first
  continues : ∀ c ∈ rest, IsNamePart c

/-- The word `as`, each letter of which may be a capital. -/
@[ext]
structure AsWord where
  a : Char
  s : Char
  isA : a = 'a' ∨ a = 'A'
  isS : s = 's' ∨ s = 'S'

/-- An alias with the word `as` in front of it and the blanks around the word. -/
@[ext]
structure AliasText where
  before : Gap
  word : AsWord
  after : Gap
  name : Name

/-- The end of a reference: an alias or none, and blanks. -/
@[ext]
structure Ending where
  aliased : Option AliasText
  back : Blanks

/-- What a column reference names: a star or a name. -/
inductive ColumnPart where
  | star
  | named (name : Name)

/-- A text that refers to columns. -/
@[ext]
structure ColumnText where
  front : Blanks
  qualifier : Option Name
  column : ColumnPart
  ending : Ending

/-- A text that refers to a table. -/
@[ext]
structure TableText where
  front : Blanks
  table : Name
  ending : Ending

/-- The characters of a gap. -/
def Gap.chars (gap : Gap) : List Char := gap.first :: gap.rest.chars

/-- The characters of a name. -/
def Name.chars (name : Name) : List Char := name.first :: name.rest

/-- The name as a text. -/
def Name.text (name : Name) : String := String.ofList name.chars

/-- The two letters of the word. -/
def AsWord.chars (word : AsWord) : List Char := [word.a, word.s]

/-- The characters of an alias and of what is in front of it. -/
def AliasText.chars (text : AliasText) : List Char :=
  text.before.chars ++ (text.word.chars ++ (text.after.chars ++ text.name.chars))

/-- The characters of an end. -/
def Ending.chars (ending : Ending) : List Char :=
  match ending.aliased with
  | some text => text.chars ++ ending.back.chars
  | none => ending.back.chars

/-- The alias in an end. -/
def Ending.name (ending : Ending) : Option String := ending.aliased.map (·.name.text)

/-- A scope with its point, or nothing. -/
def qualifierChars : Option Name → List Char
  | some scope => scope.chars ++ ['.']
  | none => []

/-- The star or the characters of the name. -/
def ColumnPart.chars : ColumnPart → List Char
  | .star => ['*']
  | .named name => name.chars

/-- What a star or a name stands for. -/
def ColumnPart.name : ColumnPart → ColumnName
  | .star => .star
  | .named name => .named name.text

/-- The text from its first to its last character. -/
def ColumnText.chars (text : ColumnText) : List Char :=
  text.front.chars ++ (qualifierChars text.qualifier ++ (text.column.chars ++ text.ending.chars))

/-- What the text says. -/
def ColumnText.spec (text : ColumnText) : ColumnSpec :=
  ⟨text.qualifier.map Name.text, text.column.name, text.ending.name⟩

/-- The text from its first to its last character. -/
def TableText.chars (text : TableText) : List Char :=
  text.front.chars ++ (text.table.chars ++ text.ending.chars)

/-- What the text says. -/
def TableText.spec (text : TableText) : TableSpec :=
  ⟨text.table.text, text.ending.name⟩

/-! ## Where parts end -/

/-- A text that does not go on with a character of a kind. -/
def Stops (p : Char → Bool) (rest : List Char) : Prop :=
  ∀ c ∈ rest.head?, p c = false

/-- A text goes on with its first character. -/
theorem stops_cons {p : Char → Bool} {c : Char} {rest : List Char} :
    Stops p (c :: rest) ↔ p c = false := by
  simp [Stops]

/-- Characters of a kind are all that there are of the kind in front of a text just if taking the
longest such front finds them. -/
theorem span_iff {p : Char → Bool} {text front rest : List Char} :
    (text = front ++ rest ∧ (∀ c ∈ front, p c = true) ∧ Stops p rest) ↔
      front = text.takeWhile p ∧ rest = text.dropWhile p := by
  constructor
  · rintro ⟨rfl, all, stops⟩
    rw [List.takeWhile_append_of_pos all, List.dropWhile_append_of_pos all]
    cases rest with
    | nil => simp
    | cons c rest => simp [stops_cons.1 stops]
  · rintro ⟨rfl, rfl⟩
    refine ⟨List.takeWhile_append_dropWhile.symm, fun c mem => List.mem_takeWhile_imp mem, ?_⟩
    intro c mem
    have first := List.head?_dropWhile_not p text
    rw [Option.mem_def.1 mem] at first
    exact first

/-- A name goes on with the start of a name. -/
theorem Name.stops (name : Name) (rest : List Char) : Stops isSpace (name.chars ++ rest) :=
  stops_cons.2 name.starts.not_blank

/-- The word `as` starts with a letter. -/
theorem AsWord.not_blank (word : AsWord) : isSpace word.a = false := by
  rcases word.isA with same | same <;> rw [same] <;> decide

/-- The word `as` goes on with a letter. -/
theorem AsWord.stops (word : AsWord) (rest : List Char) : Stops isSpace (word.chars ++ rest) :=
  stops_cons.2 word.not_blank

/-- A column goes on with a star or the start of a name. -/
theorem ColumnPart.stops (column : ColumnPart) (rest : List Char) :
    Stops isSpace (column.chars ++ rest) := by
  cases column with
  | star => exact stops_cons.2 (by decide)
  | named name => exact name.stops rest

/-- Behind the blanks in front a column reference goes on with a star or the start of a name. -/
theorem stops_qualifierChars (qualifier : Option Name) (column : ColumnPart) (rest : List Char) :
    Stops isSpace (qualifierChars qualifier ++ (column.chars ++ rest)) := by
  cases qualifier with
  | some scope =>
    rw [qualifierChars, List.append_assoc]
    exact scope.stops _
  | none => exact column.stops rest

/-- An alias is not blank. -/
theorem AliasText.exists_not_blank (text : AliasText) : ∃ c ∈ text.chars, ¬IsBlank c := by
  refine ⟨text.word.a, by simp [AliasText.chars, AsWord.chars], fun blank => ?_⟩
  have none := text.word.not_blank
  rw [isSpace_iff.2 blank] at none
  cases none

/-- An end starts with a blank, if it has a character. -/
theorem Ending.blank_of_cons {ending : Ending} {c : Char} {rest : List Char}
    (same : ending.chars = c :: rest) : IsBlank c := by
  obtain ⟨aliased, back⟩ := ending
  cases aliased with
  | some text =>
    have first : text.before.first = c := (List.cons.inj same).1
    exact first ▸ text.before.blank
  | none =>
    change back.chars = c :: rest at same
    exact back.blank c (same ▸ List.mem_cons_self)

/-- A name does not go on with an end. -/
theorem Ending.stops (ending : Ending) : Stops Text.isWordChar ending.chars := by
  intro c mem
  obtain ⟨rest, same⟩ := List.head?_eq_some_iff.1 mem
  exact (blank_of_cons same).not_name.2

/-! ## Unique parts -/

/-- Characters of a kind end where what is behind them is of another kind. -/
theorem append_inj_of_stops {p : Char → Bool} {a b r s : List Char} (ha : ∀ c ∈ a, p c = true)
    (hb : ∀ c ∈ b, p c = true) (hr : Stops p r) (hs : Stops p s) (same : a ++ r = b ++ s) :
    a = b ∧ r = s := by
  obtain ⟨first, rest⟩ := span_iff.1 ⟨rfl, ha, hr⟩
  obtain ⟨first', rest'⟩ := span_iff.1 ⟨same, hb, hs⟩
  exact ⟨first.trans first'.symm, rest.trans rest'.symm⟩

open Text (Legible)

/-- Blanks are legible in front of anything but a blank. -/
theorem legible_blanks : Legible (fun _ => True) Blanks.chars id (Stops isSpace) := by
  intro a b r s _ _ hr hs same
  obtain ⟨chars, rest⟩ := append_inj_of_stops (fun c mem => isSpace_iff.2 (a.blank c mem))
    (fun c mem => isSpace_iff.2 (b.blank c mem)) hr hs same
  exact ⟨Blanks.ext chars, rest⟩

/-- A gap is legible in front of anything but a blank. -/
theorem legible_gap : Legible (fun _ => True) Gap.chars id (Stops isSpace) := by
  intro a b r s _ _ hr hs same
  obtain ⟨first, same⟩ := List.cons.inj same
  obtain ⟨chars, rest⟩ := legible_blanks trivial trivial hr hs same
  exact ⟨Gap.ext first chars, rest⟩

/-- A name is legible in front of anything that it does not go on with. -/
theorem legible_name : Legible (fun _ => True) Name.chars id (Stops Text.isWordChar) := by
  intro a b r s _ _ hr hs same
  obtain ⟨first, same⟩ := List.cons.inj same
  obtain ⟨chars, rest⟩ := append_inj_of_stops (fun c mem => isWordChar_iff.2 (a.continues c mem))
    (fun c mem => isWordChar_iff.2 (b.continues c mem)) hr hs same
  exact ⟨Name.ext first chars, rest⟩

/-- The word `as` has two letters. -/
theorem legible_asWord : Legible (fun _ => True) AsWord.chars id fun _ => True := by
  intro a b r s _ _ _ _ same
  obtain ⟨first, same⟩ := List.cons.inj same
  obtain ⟨second, rest⟩ := List.cons.inj same
  exact ⟨AsWord.ext first second, rest⟩

/-- An alias is legible in front of anything that its name does not go on with. -/
theorem legible_alias : Legible (fun _ => True) AliasText.chars id (Stops Text.isWordChar) := by
  intro a b r s _ _ hr hs same
  simp only [AliasText.chars, List.append_assoc] at same
  obtain ⟨before, same⟩ := legible_gap trivial trivial (a.word.stops _) (b.word.stops _) same
  obtain ⟨word, same⟩ := legible_asWord trivial trivial trivial trivial same
  obtain ⟨after, same⟩ := legible_gap trivial trivial (a.name.stops _) (b.name.stops _) same
  obtain ⟨name, rest⟩ := legible_name trivial trivial hr hs same
  exact ⟨AliasText.ext before word after name, rest⟩

/-- An end can be taken apart in one way. -/
theorem Ending.chars_injective : Function.Injective Ending.chars := by
  -- Blanks are not an alias with blanks behind it.
  have apart (blanks back : Blanks) (text : AliasText) :
      blanks.chars ≠ text.chars ++ back.chars := by
    intro same
    obtain ⟨c, mem, unblank⟩ := text.exists_not_blank
    exact unblank (blanks.blank c (same ▸ List.mem_append_left _ mem))
  have stops (blanks : Blanks) : Stops Text.isWordChar blanks.chars :=
    Ending.stops ⟨none, blanks⟩
  rintro ⟨aliased, back⟩ ⟨aliased', back'⟩ same
  cases aliased with
  | some text =>
    cases aliased' with
    | some text' =>
      obtain ⟨texts, backs⟩ := legible_alias trivial trivial (stops back) (stops back') same
      exact Ending.ext (congrArg some texts) (Blanks.ext backs)
    | none => exact absurd same.symm (apart back' back text)
  | none =>
    cases aliased' with
    | some text' => exact absurd same (apart back back' text')
    | none => exact Ending.ext rfl (Blanks.ext same)

/-- A star or a name is legible in front of anything that a name does not go on with. -/
theorem legible_column : Legible (fun _ => True) ColumnPart.chars id (Stops Text.isWordChar) := by
  -- A star is not the start of a name.
  have apart {name : Name} {r s : List Char} (same : '*' :: r = name.chars ++ s) : False := by
    have starts := name.starts
    rw [← (List.cons.inj same).1, ← startsName_iff] at starts
    exact absurd starts (by decide)
  intro a b r s _ _ hr hs same
  cases a with
  | star =>
    cases b with
    | star => exact ⟨rfl, (List.cons.inj same).2⟩
    | named name => exact (apart same).elim
  | named name =>
    cases b with
    | star => exact (apart same.symm).elim
    | named name' =>
      obtain ⟨names, rest⟩ := legible_name trivial trivial hr hs same
      exact ⟨congrArg ColumnPart.named names, rest⟩

/-- A column with an end does not start as a scope with its point does. -/
theorem qualifier_ne_column {scope : Name} {column : ColumnPart} {ending : Ending}
    {rest : List Char} : scope.chars ++ '.' :: rest ≠ column.chars ++ ending.chars := by
  intro same
  have point : Stops Text.isWordChar ('.' :: rest) := stops_cons.2 (by decide)
  obtain ⟨-, same⟩ := legible_column (a := .named scope) trivial trivial point ending.stops same
  rcases Ending.blank_of_cons same.symm with impossible | impossible | impossible | impossible <;>
    exact absurd impossible (by decide)

/-- What is behind the blanks in front of a column reference can be taken apart in one way. -/
theorem qualifier_column_inj {qualifier qualifier' : Option Name} {column column' : ColumnPart}
    {ending ending' : Ending}
    (same : qualifierChars qualifier ++ (column.chars ++ ending.chars) =
      qualifierChars qualifier' ++ (column'.chars ++ ending'.chars)) :
    qualifier = qualifier' ∧ column = column' ∧ ending = ending' := by
  have scopes : qualifier = qualifier' ∧
      column.chars ++ ending.chars = column'.chars ++ ending'.chars := by
    cases qualifier with
    | none =>
      cases qualifier' with
      | none => exact ⟨rfl, same⟩
      | some scope' =>
        simp only [qualifierChars, List.append_assoc, List.cons_append, List.nil_append] at same
        exact absurd same.symm qualifier_ne_column
    | some scope =>
      simp only [qualifierChars, List.append_assoc, List.cons_append, List.nil_append] at same
      cases qualifier' with
      | none => exact absurd same qualifier_ne_column
      | some scope' =>
        simp only [List.append_assoc, List.cons_append, List.nil_append] at same
        obtain ⟨names, rest⟩ := legible_name trivial trivial (stops_cons.2 (by decide))
          (stops_cons.2 (by decide)) same
        exact ⟨congrArg some names, (List.cons.inj rest).2⟩
  obtain ⟨columns, endings⟩ := legible_column trivial trivial ending.stops ending'.stops scopes.2
  exact ⟨scopes.1, columns, Ending.chars_injective endings⟩

/-- A text is a column reference in one way. -/
theorem ColumnText.chars_injective : Function.Injective ColumnText.chars := by
  intro a b same
  obtain ⟨fronts, same⟩ := legible_blanks trivial trivial (stops_qualifierChars _ _ _)
    (stops_qualifierChars _ _ _) same
  obtain ⟨qualifiers, columns, endings⟩ := qualifier_column_inj same
  exact ColumnText.ext fronts qualifiers columns endings

/-- A text is a table reference in one way. -/
theorem TableText.chars_injective : Function.Injective TableText.chars := by
  intro a b same
  obtain ⟨fronts, same⟩ := legible_blanks trivial trivial (a.table.stops _) (b.table.stops _) same
  obtain ⟨tables, endings⟩ := legible_name trivial trivial a.ending.stops b.ending.stops same
  exact TableText.ext fronts tables (Ending.chars_injective endings)

end TypedQuery.Reference
