import TypedQuery.Plan.Draft
import TypedQuery.Proofs.Reference.Grammar

/-!
# Reading references

The readers of column and table references accept just the texts of the grammar, and what they
return are the parts of the text: `Reference.reads_references`. Reading never goes back, so each
reader is shown to find just the part of the grammar that is in front of a text, where the text
behind it does not go on with the part (`name?_eq_some_iff` and so on).

A reference that was read can be written again without the blanks that say nothing. Reading it
yields the same reference, and an aggregate of a text that names a column and an alias is the
aggregate of that column, written again, under the alias.
-/

namespace TypedQuery

namespace Reference

variable {text rest : List Char}

/-! ## Parts in front of a text -/

/-- The blanks in front of a text are taken off. -/
theorem exists_append_skipSpaces (text : List Char) :
    ∃ front : Blanks, text = front.chars ++ skipSpaces text := by
  obtain ⟨same, all, -⟩ := span_iff.2 ⟨rfl, (rfl : text.dropWhile isSpace = _)⟩
  exact ⟨⟨_, fun c mem => isSpace_iff.1 (all c mem)⟩, same⟩

/-- No more than the blanks is taken off. -/
theorem skipSpaces_append (front : Blanks) (stops : Stops isSpace rest) :
    skipSpaces (front.chars ++ rest) = rest :=
  (span_iff.1 ⟨rfl, fun c mem => isSpace_iff.2 (front.blank c mem), stops⟩).2.symm

/-- Nothing is left behind the blanks of a text just if it has nothing else. -/
theorem isEmpty_skipSpaces_iff :
    (skipSpaces text).isEmpty = true ↔ ∃ blanks : Blanks, blanks.chars = text := by
  rw [List.isEmpty_iff, skipSpaces, List.dropWhile_eq_nil_iff]
  constructor
  · exact fun all => ⟨⟨text, fun c mem => isSpace_iff.1 (all c mem)⟩, rfl⟩
  · rintro ⟨blanks, rfl⟩ c mem
    exact isSpace_iff.2 (blanks.blank c mem)

/-- A name is read just if it is in front of a text that does not go on with it. -/
theorem name?_eq_some_iff {found : String} : name? text = some (found, rest) ↔
    ∃ name : Name, name.text = found ∧ text = name.chars ++ rest ∧
      Stops Text.isWordChar rest := by
  constructor
  · intro read
    cases text with
    | nil => cases read
    | cons c tail =>
      rw [name?] at read
      split at read
      · next starts =>
        rw [Option.some.injEq, Prod.mk.injEq] at read
        obtain ⟨rfl, rfl⟩ := read
        obtain ⟨same, all, stops⟩ := span_iff.2 ⟨rfl, (rfl : tail.dropWhile Text.isWordChar = _)⟩
        exact ⟨⟨c, _, startsName_iff.1 starts, fun d mem => isWordChar_iff.1 (all d mem)⟩, rfl,
          congrArg (c :: ·) same, stops⟩
      · cases read
  · rintro ⟨⟨first, more, starts, continues⟩, rfl, rfl, stops⟩
    obtain ⟨taken, left⟩ := span_iff.1
      ⟨rfl, fun c mem => isWordChar_iff.2 (continues c mem), stops⟩
    simp only [Name.chars, Name.text, List.cons_append, name?]
    rw [if_pos (startsName_iff.2 starts), ← taken, ← left]

/-- At least one blank is read just if there is one, and all blanks are. -/
theorem spaces?_eq_some_iff : spaces? text = some rest ↔
    ∃ gap : Gap, text = gap.chars ++ rest ∧ Stops isSpace rest := by
  constructor
  · intro read
    cases text with
    | nil => cases read
    | cons c tail =>
      rw [spaces?] at read
      split at read
      · next space =>
        rw [Option.some.injEq] at read
        obtain ⟨same, all, stops⟩ := span_iff.2 ⟨rfl, (rfl : tail.dropWhile isSpace = _)⟩
        rw [skipSpaces] at read
        rw [read] at same stops
        exact ⟨⟨c, ⟨_, fun d mem => isSpace_iff.1 (all d mem)⟩, isSpace_iff.1 space⟩,
          congrArg (c :: ·) same, stops⟩
      · cases read
  · rintro ⟨⟨first, more, blank⟩, rfl, stops⟩
    simp only [Gap.chars, List.cons_append, spaces?]
    rw [if_pos (isSpace_iff.2 blank), skipSpaces_append more stops]

/-- The word `as` is read just if it is there. -/
theorem asWord?_eq_some_iff : asWord? text = some rest ↔
    ∃ word : AsWord, text = word.chars ++ rest := by
  constructor
  · intro read
    unfold asWord? at read
    split at read
    · next a s tail =>
      split at read
      · next letters =>
        simp only [Bool.and_eq_true, Bool.or_eq_true, decide_eq_true_eq] at letters
        cases read
        exact ⟨⟨a, s, letters.1, letters.2⟩, rfl⟩
      · cases read
    · cases read
  · rintro ⟨⟨a, s, isA, isS⟩, rfl⟩
    simp [AsWord.chars, asWord?, isA, isS]

/-- An alias is read just if it is in front of a text that does not go on with its name. -/
theorem alias?_eq_some_iff {found : String} : alias? text = some (found, rest) ↔
    ∃ aliased : AliasText, aliased.name.text = found ∧ text = aliased.chars ++ rest ∧
      Stops Text.isWordChar rest := by
  simp only [alias?, Option.bind_eq_bind, Option.bind_eq_some_iff, spaces?_eq_some_iff,
    asWord?_eq_some_iff, name?_eq_some_iff]
  constructor
  · rintro ⟨_, ⟨before, rfl, -⟩, _, ⟨word, rfl⟩, _, ⟨after, rfl, -⟩, name, rfl, rfl, stops⟩
    exact ⟨⟨before, word, after, name⟩, rfl, by simp only [AliasText.chars, List.append_assoc],
      stops⟩
  · -- Either gap ends where a letter follows, and so does not take too much.
    rintro ⟨⟨before, word, after, name⟩, rfl, rfl, stops⟩
    simp only [AliasText.chars, List.append_assoc]
    exact ⟨_, ⟨before, rfl, word.stops _⟩, _, ⟨word, rfl⟩, _, ⟨after, rfl, name.stops _⟩,
      name, rfl, rfl, stops⟩

/-- The alias in a text that is the end of a reference. -/
def ending? (text : List Char) : Option (Option String) :=
  let (found, rest) := optionalAlias text
  if (skipSpaces rest).isEmpty then some found else none

/-- An end is read just if the text is one. -/
theorem ending?_eq_some_iff {found : Option String} : ending? text = some found ↔
    ∃ ending : Ending, ending.name = found ∧ text = ending.chars := by
  unfold ending? optionalAlias
  constructor
  · intro read
    cases aliasRead : alias? text with
    | some parts =>
      obtain ⟨name, rest⟩ := parts
      simp only [aliasRead, Option.ite_none_right_eq_some, isEmpty_skipSpaces_iff,
        Option.some.injEq] at read
      obtain ⟨⟨back, rfl⟩, rfl⟩ := read
      obtain ⟨aliased, rfl, rfl, -⟩ := alias?_eq_some_iff.1 aliasRead
      exact ⟨⟨some aliased, back⟩, rfl, rfl⟩
    | none =>
      simp only [aliasRead, Option.ite_none_right_eq_some, isEmpty_skipSpaces_iff,
        Option.some.injEq] at read
      obtain ⟨⟨back, rfl⟩, rfl⟩ := read
      exact ⟨⟨none, back⟩, rfl, rfl⟩
  · rintro ⟨⟨aliased, back⟩, rfl, rfl⟩
    have blank : (skipSpaces back.chars).isEmpty = true := isEmpty_skipSpaces_iff.2 ⟨back, rfl⟩
    cases aliased with
    | some aliased =>
      have read : alias? (aliased.chars ++ back.chars) = some (aliased.name.text, back.chars) :=
        alias?_eq_some_iff.2 ⟨aliased, rfl, rfl, Ending.stops ⟨none, back⟩⟩
      simp [Ending.chars, Ending.name, read, blank]
    | none =>
      -- Blanks could start an alias, but they are not one.
      have none : alias? back.chars = none := by
        by_contra some
        obtain ⟨⟨name, rest⟩, read⟩ := Option.ne_none_iff_exists'.1 some
        obtain ⟨aliased, -, same, -⟩ := alias?_eq_some_iff.1 read
        obtain ⟨c, mem, unblank⟩ := aliased.exists_not_blank
        exact unblank (back.blank c (same ▸ List.mem_append_left _ mem))
      simp [Ending.chars, Ending.name, none, blank]

/-- A star or a name is read just if it is in front of a text that no name goes on with. -/
theorem columnName?_eq_some_iff {column : ColumnName} (stops : Stops Text.isWordChar rest) :
    columnName? text = some (column, rest) ↔
      ∃ part : ColumnPart, part.name = column ∧ text = part.chars ++ rest := by
  unfold columnName?
  constructor
  · intro read
    split at read
    · cases read
      exact ⟨.star, rfl, rfl⟩
    · obtain ⟨⟨found, left⟩, named, same⟩ := Option.map_eq_some_iff.1 read
      cases same
      obtain ⟨name, rfl, rfl, -⟩ := name?_eq_some_iff.1 named
      exact ⟨.named name, rfl, rfl⟩
  · rintro ⟨part, rfl, rfl⟩
    cases part with
    | star => rfl
    | named name =>
      have read : name? (name.chars ++ rest) = some (name.text, rest) :=
        name?_eq_some_iff.2 ⟨name, rfl, rfl, stops⟩
      split
      · next tail same =>
        -- A star is not the start of a name.
        have starts := startsName_iff.2 name.starts
        rw [(List.cons.inj same).1] at starts
        exact absurd starts (by decide)
      · exact Option.map_eq_some_iff.2 ⟨_, read, rfl⟩

/-- A scope that is found is in front of the text with its point. -/
theorem exists_qualifier (text : List Char) :
    ∃ qualifier : Option Name, qualifier.map Name.text = (optionalQualifier text).1 ∧
      text = qualifierChars qualifier ++ (optionalQualifier text).2 := by
  unfold optionalQualifier
  split
  · next name left named =>
    obtain ⟨scope, rfl, rfl, -⟩ := name?_eq_some_iff.1 named
    exact ⟨some scope, rfl, by simp [qualifierChars]⟩
  · exact ⟨none, rfl, rfl⟩

/-- The scope of a column reference is found, if it has one. -/
theorem optionalQualifier_append (qualifier : Option Name) (column : ColumnPart)
    (ending : Ending) :
    optionalQualifier (qualifierChars qualifier ++ (column.chars ++ ending.chars)) =
      (qualifier.map Name.text, column.chars ++ ending.chars) := by
  unfold optionalQualifier
  cases qualifier with
  | some scope =>
    have read : name? (scope.chars ++ '.' :: (column.chars ++ ending.chars)) =
        some (scope.text, '.' :: (column.chars ++ ending.chars)) :=
      name?_eq_some_iff.2 ⟨scope, rfl, rfl, stops_cons.2 (by decide)⟩
    simp [qualifierChars, read]
  | none =>
    rw [qualifierChars, List.nil_append]
    split
    · -- A name with a point would be the start of the column, which goes on with an end.
      next name left named =>
      obtain ⟨scope, -, same, -⟩ := name?_eq_some_iff.1 named
      exact absurd same.symm qualifier_ne_column
    · rfl

/-! ## References -/

/-- A column reference is a star or a name behind blanks and a scope, with an end behind it. -/
theorem column?_eq (text : List Char) : column? text =
    let (qualifier, afterQualifier) := optionalQualifier (skipSpaces text)
    (columnName? afterQualifier).bind fun (column, afterColumn) =>
      (ending? afterColumn).map fun outputAlias => ⟨qualifier, column, outputAlias⟩ := by
  unfold column? ending?
  dsimp only
  cases columnName? (optionalQualifier (skipSpaces text)).2 with
  | none => rfl
  | some parts => simp

/-- A text is read as a column reference just if it is one. -/
theorem column?_eq_some_iff {spec : ColumnSpec} : column? text = some spec ↔
    ∃ reference : ColumnText, reference.chars = text ∧ reference.spec = spec := by
  rw [column?_eq]
  simp only [Option.bind_eq_some_iff, Option.map_eq_some_iff]
  constructor
  · rintro ⟨⟨column, afterColumn⟩, named, outputAlias, ended, rfl⟩
    obtain ⟨ending, rfl, rfl⟩ := ending?_eq_some_iff.1 ended
    obtain ⟨part, rfl, same⟩ := (columnName?_eq_some_iff ending.stops).1 named
    obtain ⟨qualifier, scopes, same'⟩ := exists_qualifier (skipSpaces text)
    obtain ⟨front, whole⟩ := exists_append_skipSpaces text
    refine ⟨⟨front, qualifier, part, ending⟩, ?_, ?_⟩
    · rw [ColumnText.chars, ← same, ← same', ← whole]
    · rw [ColumnText.spec, scopes]
  · rintro ⟨⟨front, qualifier, part, ending⟩, rfl, rfl⟩
    rw [ColumnText.chars, skipSpaces_append front (stops_qualifierChars _ _ _),
      optionalQualifier_append]
    exact ⟨_, (columnName?_eq_some_iff ending.stops).2 ⟨part, rfl, rfl⟩, _,
      ending?_eq_some_iff.2 ⟨ending, rfl, rfl⟩, rfl⟩

/-- A table reference is a name behind blanks, with an end behind it. -/
theorem table?_eq (text : List Char) : table? text =
    (name? (skipSpaces text)).bind fun (table, afterTable) =>
      (ending? afterTable).map fun scopeAlias => ⟨table, scopeAlias⟩ := by
  unfold table? ending?
  cases name? (skipSpaces text) with
  | none => rfl
  | some parts => simp

/-- A text is read as a table reference just if it is one. -/
theorem table?_eq_some_iff {spec : TableSpec} : table? text = some spec ↔
    ∃ reference : TableText, reference.chars = text ∧ reference.spec = spec := by
  rw [table?_eq]
  simp only [Option.bind_eq_some_iff, Option.map_eq_some_iff]
  constructor
  · rintro ⟨⟨table, afterTable⟩, named, scopeAlias, ended, rfl⟩
    obtain ⟨ending, rfl, rfl⟩ := ending?_eq_some_iff.1 ended
    obtain ⟨name, rfl, same, -⟩ := name?_eq_some_iff.1 named
    obtain ⟨front, whole⟩ := exists_append_skipSpaces text
    refine ⟨⟨front, name, ending⟩, ?_, rfl⟩
    rw [TableText.chars, ← same, ← whole]
  · rintro ⟨⟨front, name, ending⟩, rfl, rfl⟩
    rw [TableText.chars, skipSpaces_append front (name.stops _)]
    exact ⟨_, name?_eq_some_iff.2 ⟨name, rfl, rfl, ending.stops⟩, _,
      ending?_eq_some_iff.2 ⟨ending, rfl, rfl⟩, rfl⟩

/-! ## Writing references -/

/-- An alias behind the word `as`, or nothing. -/
def aliasText : Option String → String
  | some name => " as " ++ name
  | none => ""

/-- No blanks. -/
def Blanks.none : Blanks := ⟨[], fun _ mem => absurd mem List.not_mem_nil⟩

/-- One space. -/
def Gap.space : Gap := ⟨' ', .none, .inl rfl⟩

/-- The end with no more than a space where there have to be blanks. -/
def Ending.plain (ending : Ending) : Ending where
  aliased := ending.aliased.map fun text =>
    ⟨.space, ⟨'a', 's', .inl rfl, .inl rfl⟩, .space, text.name⟩
  back := .none

/-- The alias stays. -/
theorem Ending.name_plain (ending : Ending) : ending.plain.name = ending.name := by
  simp only [name, plain, Option.map_map]
  rfl

/-- A plain end is its alias behind the word `as`. -/
theorem Ending.chars_plain (ending : Ending) :
    ending.plain.chars = (aliasText ending.name).toList := by
  obtain ⟨aliased, back⟩ := ending
  cases aliased with
  | none => rfl
  | some text =>
    simp [chars, plain, name, aliasText, AliasText.chars, Gap.chars, Gap.space, Blanks.none,
      AsWord.chars, Name.text]

end Reference

/-- The star or the name as a text. -/
def ColumnName.text : ColumnName → String
  | .star => "*"
  | .named name => name

/-- The scope of a column with a point, or nothing. -/
def ColumnSpec.scopeText (spec : ColumnSpec) : String :=
  match spec.qualifier with
  | some scope => scope ++ "."
  | none => ""

/-- A column reference as a text. -/
def ColumnSpec.text (spec : ColumnSpec) : String :=
  spec.scopeText ++ (spec.column.text ++ Reference.aliasText spec.outputAlias)

/-- A table reference as a text. -/
def TableSpec.text (spec : TableSpec) : String :=
  spec.table ++ Reference.aliasText spec.scopeAlias

namespace Reference

/-- The text of a column reference is plain. -/
theorem ColumnText.exists_plain (text : ColumnText) :
    ∃ plain : ColumnText, plain.chars = text.spec.text.toList ∧ plain.spec = text.spec := by
  refine ⟨⟨.none, text.qualifier, text.column, text.ending.plain⟩, ?_, ?_⟩
  · have scopes : qualifierChars text.qualifier = text.spec.scopeText.toList := by
      unfold ColumnSpec.scopeText qualifierChars spec
      cases text.qualifier <;> simp [Name.text]
    have columns : text.column.chars = text.column.name.text.toList := by
      cases text.column <;> simp [ColumnPart.chars, ColumnPart.name, ColumnName.text, Name.text]
    rw [ColumnText.chars, ColumnSpec.text, String.toList_append, String.toList_append, scopes,
      columns, Ending.chars_plain]
    rfl
  · rw [spec, spec, Ending.name_plain]

/-- The text of a table reference is plain. -/
theorem TableText.exists_plain (text : TableText) :
    ∃ plain : TableText, plain.chars = text.spec.text.toList ∧ plain.spec = text.spec := by
  refine ⟨⟨.none, text.table, text.ending.plain⟩, ?_, ?_⟩
  · rw [TableText.chars, TableSpec.text, String.toList_append, Ending.chars_plain]
    simp [Blanks.none, spec, Name.text]
  · rw [spec, spec, Ending.name_plain]

/-! ## What is read -/

/-- A reader accepts just the texts of a grammar. It returns what the text says, of which there is
only one way to take it apart, and refuses any other text with a fault of the plan that names it.
What was read can be written and read again. -/
structure Reads {T S : Type} (read : String → Except QueryError S) (chars : T → List Char)
    (meaning : T → S) (write : S → String) (fault : String → PlanFault) : Prop where
  ok_iff : ∀ raw spec, read raw = .ok spec ↔ ∃ text, chars text = raw.toList ∧ meaning text = spec
  error_iff : ∀ raw e, read raw = .error e ↔
    (∀ text, chars text ≠ raw.toList) ∧ e = .invalidPlan (fault raw)
  unique : Function.Injective chars
  written : ∀ raw spec, read raw = .ok spec → read (write spec) = .ok spec

/-- A reader that returns what is found among the characters, if they are a text of the grammar, or
else refuses them. -/
theorem reads_of_eq_some_iff {T S : Type} {read : String → Except QueryError S}
    {find : List Char → Option S} {chars : T → List Char} {meaning : T → S} {write : S → String}
    {fault : String → PlanFault}
    (read_eq : ∀ raw, read raw = (find raw.toList).elim (.error (.invalidPlan (fault raw))) .ok)
    (eq_some_iff : ∀ {text spec}, find text = some spec ↔ ∃ t, chars t = text ∧ meaning t = spec)
    (unique : Function.Injective chars)
    (exists_plain : ∀ t, ∃ t', chars t' = (write (meaning t)).toList ∧ meaning t' = meaning t) :
    Reads read chars meaning write fault := by
  have ok_iff (raw : String) (spec : S) : read raw = .ok spec ↔
      ∃ t, chars t = raw.toList ∧ meaning t = spec := by
    rw [read_eq, ← eq_some_iff]
    cases find raw.toList <;> simp
  refine ⟨ok_iff, fun raw e => ?_, unique, fun raw spec done => ?_⟩
  · cases found : find raw.toList with
    | some spec =>
      obtain ⟨t, same, -⟩ := eq_some_iff.1 found
      rw [read_eq, found]
      simp only [Option.elim_some, reduceCtorEq, false_iff, not_and]
      exact fun other => absurd same (other t)
    | none =>
      have other (t : T) : chars t ≠ raw.toList := fun same => by
        rw [eq_some_iff.2 ⟨t, same, rfl⟩] at found
        cases found
      rw [read_eq, found, Option.elim_none, Except.error.injEq, and_iff_right other, eq_comm]
  · obtain ⟨t, -, rfl⟩ := (ok_iff raw spec).1 done
    exact (ok_iff _ _).2 (exists_plain t)

/-- Column references are read exactly. -/
theorem reads_column :
    Reads ColumnSpec.ofString ColumnText.chars ColumnText.spec ColumnSpec.text
      .malformedColumn := by
  refine reads_of_eq_some_iff (fun raw => ?_) column?_eq_some_iff ColumnText.chars_injective
    ColumnText.exists_plain
  unfold ColumnSpec.ofString
  cases column? raw.toList <;> rfl

/-- Table references are read exactly. -/
theorem reads_table :
    Reads TableSpec.ofString TableText.chars TableText.spec TableSpec.text .malformedTable := by
  refine reads_of_eq_some_iff (fun raw => ?_) table?_eq_some_iff TableText.chars_injective
    TableText.exists_plain
  unfold TableSpec.ofString
  cases table? raw.toList <;> rfl

end Reference

/-- An aggregate of a text that names a column and an alias is the aggregate of the column under the
alias. -/
theorem Draft.aggregateSpec_eq {raw name outputAlias : String} {qualifier : Option String}
    (parsed : ColumnSpec.ofString raw = .ok ⟨qualifier, .named name, some outputAlias⟩)
    (draft : Draft) (kind : AggregateKind) :
    draft.aggregateSpec kind raw =
      draft.aggregate kind [(⟨qualifier, .named name, none⟩ : ColumnSpec).text] outputAlias := by
  rw [aggregateSpec, parsed]
  -- The text of the column alone is what the scope and the name are put together to.
  cases qualifier with
  | some scope =>
    change draft.aggregate kind [scope ++ "." ++ name] outputAlias = _
    simp [ColumnSpec.text, ColumnSpec.scopeText, ColumnName.text, Reference.aliasText]
  | none =>
    change draft.aggregate kind [name] outputAlias = _
    simp [ColumnSpec.text, ColumnSpec.scopeText, ColumnName.text, Reference.aliasText]

namespace Reference

/-- References to columns and to tables are read exactly. An aggregate of a text with a column and
an alias does what the aggregate of the column, written again, does under the alias. -/
theorem reads_references :
    Reads ColumnSpec.ofString ColumnText.chars ColumnText.spec ColumnSpec.text .malformedColumn ∧
      Reads TableSpec.ofString TableText.chars TableText.spec TableSpec.text .malformedTable ∧
      ∀ (raw : String) (qualifier : Option String) (name outputAlias : String),
        ColumnSpec.ofString raw = .ok ⟨qualifier, .named name, some outputAlias⟩ →
          ∀ (draft : Draft) (kind : AggregateKind), draft.aggregateSpec kind raw =
            draft.aggregate kind [(⟨qualifier, .named name, none⟩ : ColumnSpec).text]
              outputAlias :=
  ⟨reads_column, reads_table, fun _ _ _ _ parsed => Draft.aggregateSpec_eq parsed⟩

/-- A column, its scope and its alias may all be called `as`, but an alias that is not there is
none. -/
theorem reads_as :
    ColumnSpec.ofString "\tas.as As  as\r\n" = .ok ⟨some "as", .named "as", some "as"⟩ ∧
      ColumnSpec.ofString "assets" = .ok ⟨none, .named "assets", none⟩ ∧
      TableSpec.ofString "as as_" = .error (.invalidPlan (.malformedTable "as as_")) ∧
      (∀ text : ColumnText, text.chars ≠ "id as ".toList) ∧
      ColumnSpec.ofString "as.as as as" = .ok ⟨some "as", .named "as", some "as"⟩ := by
  obtain ⟨columns, -, -⟩ := reads_references
  have found : ColumnSpec.ofString "\tas.as As  as\r\n" =
      .ok ⟨some "as", .named "as", some "as"⟩ := rfl
  exact ⟨found, rfl, rfl, ((columns.error_iff "id as " _).1 rfl).1, columns.written _ _ found⟩

end Reference

end TypedQuery
