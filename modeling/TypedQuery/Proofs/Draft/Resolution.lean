import TypedQuery.Proofs.Draft.Scoping

/-!
# What a name is resolved to

A name without a scope is resolved just if one scope alone has a column of it, and a name with a
scope just if the scope is there and has one; where a name fails, the error tells which scopes were
in the way (`Draft.Body.Exact`). Nothing is ever taken from the first of several scopes.

A join adds a scope under a name that no other scope has. A name that could be resolved before is
resolved as before, or is ambiguous now that the new scope has such a column as well; it is never
resolved to another scope. And a name that could not be resolved before can be resolved now only to
the scope of the join (`Draft.Body.KeepsNames`). `Draft.exact_of_foldlM` says both for every draft
that steps lead to.
-/

namespace TypedQuery

/-- A list without repetitions is filtered to one member just if no other member passes. -/
theorem filter_eq_singleton_iff {α : Type} {p : α → Bool} {l : List α} (nodup : l.Nodup) {a : α}
    (mem : a ∈ l.filter p) : l.filter p = [a] ↔ ∀ b ∈ l, p b = true → b = a := by
  constructor
  · intro only b listed passes
    have filtered : b ∈ l.filter p := List.mem_filter.2 ⟨listed, passes⟩
    rwa [only, List.mem_singleton] at filtered
  · intro only
    have same : l.filter p = List.replicate (l.filter p).length a := by
      apply List.eq_replicate_of_mem
      intro b filtered
      obtain ⟨listed, passes⟩ := List.mem_filter.1 filtered
      exact only b listed passes
    have once : (l.filter p).length ≤ 1 := by
      have distinct := nodup.filter p
      rwa [same, List.nodup_replicate] at distinct
    have some := List.length_pos_of_mem mem
    rw [same, show (l.filter p).length = 1 by omega]
    rfl

/-- A reference is to the first column of a name in the table of a scope, and carries what the
table says of it. -/
def ColumnRef.IsIn (ref : ColumnRef) (scope : String × Table) (name : String) : Prop :=
  ∃ column, scope.2.column? name = some column ∧
    ref = ⟨scope.1, scope.2.name, name, column.dataType, column.nullable⟩

/-- A table without a column of a name misses it. -/
theorem Table.columnRef_eq_error {table : Table} {name : String}
    (without : table.hasColumn name = false) (scope : String) :
    table.columnRef scope name = .error (.unknownColumn scope name) := by
  rw [hasColumn, Option.isSome_eq_false_iff, Option.isNone_iff_eq_none] at without
  rw [columnRef, without]

/-- The scope that a step brings into a draft, if it is a join. -/
def Step.target? : Step → Option TableScope
  | .join _ target _ _ => some target
  | .joinSpec _ spec _ _ =>
    match TableSpec.ofString spec with
    | .ok parts => some ⟨parts.table, parts.scopeAlias⟩
    | .error _ => none
  | _ => none

namespace Draft.Body

variable {body : Body}

/-- The scopes that have a column of a name, in order. -/
def holders (body : Body) (name : String) : List (String × Table) :=
  body.scopes.filter (·.2.hasColumn name)

/-- A scope has a column of a name just if it is one of those. -/
theorem mem_holders {name : String} {entry : String × Table} :
    entry ∈ body.holders name ↔ entry ∈ body.scopes ∧ entry.2.hasColumn name = true :=
  List.mem_filter

/-- A name that no scope has a column of is missed in the primary table. -/
theorem resolve_of_holders_nil {name : String} (empty : body.holders name = []) :
    body.resolve none name = .error (.unknownColumn body.source.name name) := by
  unfold holders at empty
  rw [resolve, empty]

/-- A name that one scope has a column of is looked up in its table. -/
theorem resolve_of_holders_singleton {name scope : String} {table : Table}
    (only : body.holders name = [(scope, table)]) :
    body.resolve none name = table.columnRef scope name := by
  unfold holders at only
  rw [resolve, only]

/-- A name that several scopes have a column of is ambiguous. -/
theorem resolve_of_holders_cons_cons {name : String} {first second : String × Table}
    {rest : List (String × Table)} (several : body.holders name = first :: second :: rest) :
    body.resolve none name = .error (.ambiguousColumn name ((body.holders name).map (·.1))) := by
  unfold holders at several ⊢
  rw [resolve, several]

/-- A name in a scope that is there is looked up in its table. -/
theorem resolve_of_scopeTable? {scope : String} {table : Table}
    (found : body.scopeTable? scope = some table) (name : String) :
    body.resolve (some scope) name = table.columnRef scope name := by
  simp only [resolve, found]

/-- Of a name in a scope that is not there the scope is missed. -/
theorem resolve_of_scopeTable?_eq_none {scope : String} (missing : body.scopeTable? scope = none)
    (name : String) : body.resolve (some scope) name = .error (.unknownTable scope) := by
  simp only [resolve, missing]

/-! ## Resolution is exact -/

/-- How a body resolves names. -/
structure Exact (body : Body) : Prop where
  /-- A name without a scope is resolved just if one scope alone has a column of it. -/
  plain : ∀ name ref, body.resolve none name = .ok ref ↔
    ∃ entry ∈ body.scopes, ref.IsIn entry name ∧
      ∀ other ∈ body.scopes, other.2.hasColumn name = true → other = entry
  /-- If no scope has one, the column is missed in the primary table. -/
  unknown : ∀ name, (∀ entry ∈ body.scopes, entry.2.hasColumn name = false) →
    body.resolve none name = .error (.unknownColumn body.source.name name)
  /-- If two scopes have one, the error names the scopes that have one, in their order. -/
  ambiguous : ∀ name, ∀ first ∈ body.scopes, ∀ second ∈ body.scopes, first ≠ second →
    first.2.hasColumn name = true → second.2.hasColumn name = true →
    ∃ names, body.resolve none name = .error (.ambiguousColumn name names) ∧
      names.Sublist (body.scopes.map (·.1)) ∧
      ∀ entry ∈ body.scopes, entry.1 ∈ names ↔ entry.2.hasColumn name = true
  /-- A name with a scope is resolved just if the scope is there and has a column of it. -/
  qualified : ∀ scope name ref, body.resolve (some scope) name = .ok ref ↔
    ∃ entry ∈ body.scopes, entry.1 = scope ∧ ref.IsIn entry name
  /-- If the scope is not there, it is the table that is missed. -/
  unknownScope : ∀ scope name, (∀ entry ∈ body.scopes, entry.1 ≠ scope) →
    body.resolve (some scope) name = .error (.unknownTable scope)
  /-- If the scope has no column of the name, the column is missed in the scope. -/
  unknownInScope : ∀ name, ∀ entry ∈ body.scopes, entry.2.hasColumn name = false →
    body.resolve (some entry.1) name = .error (.unknownColumn entry.1 name)

/-- The column of a listed scope that a reference is to is the one that its table refers to. -/
theorem columnRef_eq_ok_iff {table : Table} {scope name : String} {ref : ColumnRef} :
    table.columnRef scope name = .ok ref ↔ ref.IsIn (scope, table) name :=
  Table.columnRef_eq_ok

/-- A scope that a reference is to a column of has a column of the name. -/
theorem hasColumn_of_isIn {ref : ColumnRef} {entry : String × Table} {name : String}
    (own : ref.IsIn entry name) : entry.2.hasColumn name = true := by
  obtain ⟨column, found, -⟩ := own
  rw [Table.hasColumn, found, Option.isSome_some]

/-- Where scopes have distinct names, a scope is found under its name. -/
theorem scopeTable?_of_mem (distinct : (body.scopes.map (·.1)).Nodup) {entry : String × Table}
    (listed : entry ∈ body.scopes) : body.scopeTable? entry.1 = some entry.2 := by
  have named : (body.scopeTable? entry.1).isSome := by
    by_contra missing
    exact ne_of_scopeTable?_eq_none missing entry listed rfl
  obtain ⟨table, found⟩ := Option.isSome_iff_exists.1 named
  have same := List.inj_on_of_nodup_map distinct (mem_scopes_of_scopeTable? found) listed rfl
  rw [found, ← same]

/-- Resolution is exact where scopes have distinct names. -/
theorem exact_of_nodup (distinct : (body.scopes.map (·.1)).Nodup) : body.Exact where
  plain := by
    intro name ref
    constructor
    · intro done
      match holds : body.holders name with
      | [] =>
        rw [resolve_of_holders_nil holds] at done
        cases done
      | [(scope, table)] =>
        have mem : (scope, table) ∈ body.holders name := holds ▸ List.mem_singleton_self _
        rw [resolve_of_holders_singleton holds] at done
        exact ⟨(scope, table), (mem_holders.1 mem).1, columnRef_eq_ok_iff.1 done,
          (filter_eq_singleton_iff distinct.of_map mem).1 holds⟩
      | first :: second :: rest =>
        rw [resolve_of_holders_cons_cons holds] at done
        cases done
    · rintro ⟨⟨scope, table⟩, listed, own, only⟩
      have mem := mem_holders.2 ⟨listed, hasColumn_of_isIn own⟩
      rw [resolve_of_holders_singleton ((filter_eq_singleton_iff distinct.of_map mem).2 only)]
      exact columnRef_eq_ok_iff.2 own
  unknown := by
    intro name without
    refine resolve_of_holders_nil (List.filter_eq_nil_iff.2 fun entry listed => ?_)
    rw [without entry listed]
    exact Bool.false_ne_true
  ambiguous := by
    intro name first listed second listed' different has has'
    have mem := mem_holders.2 ⟨listed, has⟩
    have mem' := mem_holders.2 ⟨listed', has'⟩
    match holds : body.holders name with
    | [] =>
      rw [holds] at mem
      cases mem
    | [entry] =>
      rw [holds, List.mem_singleton] at mem mem'
      exact absurd (mem.trans mem'.symm) different
    | _ :: _ :: _ =>
      refine ⟨_, resolve_of_holders_cons_cons holds, List.filter_sublist.map _,
        fun entry own => ⟨fun named => ?_, fun has => ?_⟩⟩
      · -- The scope of the name that is listed is the only one of the name.
        obtain ⟨other, holds, same⟩ := List.mem_map.1 named
        obtain ⟨there, has⟩ := mem_holders.1 holds
        exact List.inj_on_of_nodup_map distinct there own same ▸ has
      · exact List.mem_map_of_mem (mem_holders.2 ⟨own, has⟩)
  qualified := by
    intro scope name ref
    constructor
    · intro done
      cases found : body.scopeTable? scope with
      | none =>
        rw [resolve_of_scopeTable?_eq_none found] at done
        cases done
      | some table =>
        rw [resolve_of_scopeTable? found] at done
        exact ⟨(scope, table), mem_scopes_of_scopeTable? found, rfl, columnRef_eq_ok_iff.1 done⟩
    · rintro ⟨entry, listed, rfl, own⟩
      rw [resolve_of_scopeTable? (scopeTable?_of_mem distinct listed)]
      exact columnRef_eq_ok_iff.2 own
  unknownScope := by
    intro scope name missing
    cases found : body.scopeTable? scope with
    | none => exact resolve_of_scopeTable?_eq_none found name
    | some table => exact absurd rfl (missing _ (mem_scopes_of_scopeTable? found))
  unknownInScope := by
    intro name entry listed without
    rw [resolve_of_scopeTable? (scopeTable?_of_mem distinct listed)]
    exact Table.columnRef_eq_error without entry.1

/-! ## Joins keep names -/

/-- What is kept of names when a body becomes another with one more scope. -/
structure KeepsNames (body wider : Body) (scope : String) : Prop where
  /-- What a name was resolved to it is resolved to, unless it is ambiguous now. -/
  resolved : ∀ qualifier name ref, body.resolve qualifier name = .ok ref →
    wider.resolve qualifier name = .ok ref ∨
      ∃ names, wider.resolve qualifier name = .error (.ambiguousColumn name names)
  /-- A name that could not be resolved is resolved to the new scope if at all. -/
  failed : ∀ qualifier name e ref, body.resolve qualifier name = .error e →
    wider.resolve qualifier name = .ok ref → ref.scope = scope
  /-- The same holds of a text that names a column. -/
  resolvedText : ∀ text ref, body.resolvePlain text = .ok ref →
    wider.resolvePlain text = .ok ref ∨
      ∃ name names, wider.resolvePlain text = .error (.ambiguousColumn name names)
  failedText : ∀ text e ref, body.resolvePlain text = .error e →
    wider.resolvePlain text = .ok ref → ref.scope = scope

/-- A text is either a name to every body or refused by every body. -/
theorem resolvePlain_cases (text : String) :
    (∃ qualifier name, ∀ body : Body, body.resolvePlain text = body.resolve qualifier name) ∨
      ∃ e, ∀ body : Body, body.resolvePlain text = .error e := by
  unfold resolvePlain
  cases ColumnSpec.ofString text with
  | error e => exact .inr ⟨e, fun _ => rfl⟩
  | ok parts =>
    obtain ⟨qualifier, column, outputAlias⟩ := parts
    match column, outputAlias with
    | .named name, none => exact .inl ⟨qualifier, name, fun _ => rfl⟩
    | .named name, some _ => exact .inr ⟨_, fun _ => rfl⟩
    | .star, _ => exact .inr ⟨_, fun _ => rfl⟩

section Joins

variable {wider : Body} {scope : String} {table : Table}

/-- A name that is resolved is resolved to the same column in front of one more scope, unless that
has a column of the name as well. -/
theorem Exact.resolve_wider (exact : body.Exact) (exact' : wider.Exact)
    (scopes : wider.scopes = body.scopes ++ [(scope, table)])
    (fresh : ∀ entry ∈ body.scopes, entry.1 ≠ scope) {qualifier : Option String} {name : String}
    {ref : ColumnRef} (done : body.resolve qualifier name = .ok ref) :
    wider.resolve qualifier name = .ok ref ∨
      ∃ names, wider.resolve qualifier name = .error (.ambiguousColumn name names) := by
  have more {entry : String × Table} (listed : entry ∈ body.scopes) : entry ∈ wider.scopes :=
    scopes ▸ List.mem_append_left _ listed
  cases qualifier with
  | some qualifier =>
    obtain ⟨entry, listed, same, own⟩ := (exact.qualified _ _ _).1 done
    exact .inl ((exact'.qualified _ _ _).2 ⟨entry, more listed, same, own⟩)
  | none =>
    obtain ⟨entry, listed, own, only⟩ := (exact.plain _ _).1 done
    cases has : table.hasColumn name with
    | true =>
      -- The scope that had the column and the new one are two.
      have last : (scope, table) ∈ wider.scopes := by simp [scopes]
      have apart : entry ≠ (scope, table) := fun same => fresh entry listed (by rw [same])
      obtain ⟨names, failed, -⟩ := exact'.ambiguous name entry (more listed) _ last apart
        (hasColumn_of_isIn own) has
      exact .inr ⟨names, failed⟩
    | false =>
      refine .inl ((exact'.plain _ _).2 ⟨entry, more listed, own, fun other there holds => ?_⟩)
      rw [scopes, List.mem_append, List.mem_singleton] at there
      rcases there with before | rfl
      · exact only other before holds
      · rw [has] at holds
        cases holds

/-- A name that is not resolved is resolved in front of one more scope only to a column of it. -/
theorem Exact.scope_eq_of_resolve (exact : body.Exact) (exact' : wider.Exact)
    (scopes : wider.scopes = body.scopes ++ [(scope, table)]) {qualifier : Option String}
    {name : String} {e : QueryError} {ref : ColumnRef}
    (failed : body.resolve qualifier name = .error e)
    (done : wider.resolve qualifier name = .ok ref) : ref.scope = scope := by
  -- A scope that was there already would have resolved the name.
  have new {entry : String × Table} (there : entry ∈ wider.scopes) (own : ref.IsIn entry name)
      (before : entry ∈ body.scopes → body.resolve qualifier name = .ok ref) :
      ref.scope = scope := by
    rw [scopes, List.mem_append, List.mem_singleton] at there
    rcases there with listed | rfl
    · rw [before listed] at failed
      cases failed
    · obtain ⟨column, -, rfl⟩ := own
      rfl
  cases qualifier with
  | some qualifier =>
    obtain ⟨entry, there, same, own⟩ := (exact'.qualified _ _ _).1 done
    exact new there own fun listed => (exact.qualified _ _ _).2 ⟨entry, listed, same, own⟩
  | none =>
    obtain ⟨entry, there, own, only⟩ := (exact'.plain _ _).1 done
    refine new there own fun listed => (exact.plain _ _).2 ⟨entry, listed, own, ?_⟩
    exact fun other mem holds => only other (scopes ▸ List.mem_append_left _ mem) holds

/-- One more scope of a new name keeps names. -/
theorem Exact.keepsNames (exact : body.Exact) (exact' : wider.Exact)
    (scopes : wider.scopes = body.scopes ++ [(scope, table)])
    (fresh : ∀ entry ∈ body.scopes, entry.1 ≠ scope) : body.KeepsNames wider scope where
  resolved _ _ _ done := exact.resolve_wider exact' scopes fresh done
  failed _ _ _ _ failed done := exact.scope_eq_of_resolve exact' scopes failed done
  resolvedText := by
    intro text ref done
    rcases resolvePlain_cases text with ⟨qualifier, name, same⟩ | ⟨e, refused⟩
    · rw [same] at done
      rw [same]
      exact (exact.resolve_wider exact' scopes fresh done).imp id fun failed => ⟨name, failed⟩
    · rw [refused] at done
      cases done
  failedText := by
    intro text e ref failed done
    rcases resolvePlain_cases text with ⟨qualifier, name, same⟩ | ⟨e', refused⟩
    · rw [same] at failed done
      exact exact.scope_eq_of_resolve exact' scopes failed done
    · rw [refused] at done
      cases done

end Joins

/-- A join brings the scope of its target, whose table is registered and whose name is new. -/
theorem scopes_join {registry : Registry} {kind : JoinKind} {target : TableScope}
    {left right : String} {next : Body}
    (done : body.join registry kind target left right = .ok next) :
    ∃ table, registry.table? target.table = some table ∧
      next.scopes = body.scopes ++ [(target.name, table)] ∧
      ∀ entry ∈ body.scopes, entry.1 ≠ target.name := by
  simp only [Body.join, bind_eq_ok, guard_eq_ok, pure_eq_ok] at done
  obtain ⟨table, found, fresh, -, -, -, -, -, rfl⟩ := done
  exact ⟨table, Registry.lookup_eq_ok.1 found, rfl, ne_of_scopeTable?_eq_none fresh⟩

end Draft.Body

namespace Draft

/-- A step that brings a scope is a join with it. -/
theorem join_of_target? (draft : Draft) {step : Step} {target : TableScope}
    (joins : step.target? = some target) :
    ∃ kind left right, draft.apply step = draft.join kind target left right := by
  cases step with
  | join kind target' left right =>
    rw [Step.target?, Option.some.injEq] at joins
    exact ⟨kind, left, right, joins ▸ rfl⟩
  | joinSpec kind spec left right =>
    cases read : TableSpec.ofString spec with
    | error e => simp [Step.target?, read] at joins
    | ok parts =>
      simp only [Step.target?, read, Option.some.injEq] at joins
      refine ⟨kind, left, right, ?_⟩
      rw [apply, joinSpec, read, ← joins]
      rfl
  | _ => cases joins

/-- Resolution is exact in every draft that steps lead to and that has its primary table, and every
join that succeeds in it brings a scope and keeps names. -/
theorem exact_of_foldlM {registry : Registry} {steps : List Step} {draft : Draft} {body : Body}
    (led : steps.foldlM Draft.apply (Draft.new registry) = .ok draft)
    (found : draft.body = some body) :
    body.Exact ∧ ∀ step next target, step.target? = some target →
      draft.apply step = .ok next → ∃ wider table, next.body = some wider ∧
        registry.table? target.table = some table ∧
        wider.scopes = body.scopes ++ [(target.name, table)] ∧
        body.KeepsNames wider target.name := by
  have grown := isGrown_of_foldlM led
  have exact := Body.exact_of_nodup (Body.nodup_scopes (grown.body body found))
  refine ⟨exact, ?_⟩
  intro step next target joins applied
  obtain ⟨kind, left, right, same⟩ := join_of_target? draft joins
  rw [same, join, grown.registry_eq] at applied
  obtain ⟨before, wider, found', joined, rfl⟩ := extend_eq_ok applied
  rw [found, Option.some.injEq] at found'
  subst found'
  obtain ⟨table, registered, scopes, fresh⟩ := Body.scopes_join joined
  have exact' := Body.exact_of_nodup
    (Body.nodup_scopes (Body.grown_join (grown.body body found) joined))
  exact ⟨wider, table, rfl, registered, scopes, exact.keepsNames exact' scopes fresh⟩

end Draft

namespace Office

/-- The draft of the staff under one name. -/
def loneBody : Draft.Body where
  source := ⟨"staff", some "e"⟩
  sourceTable := {
    name := "staff"
    columns := [⟨"id", .integer, false⟩, ⟨"boss", .integer, true⟩, ⟨"name", .text, true⟩] }

/-- The draft of the staff with their bosses. -/
def pairBody : Draft.Body :=
  loneBody.joining
    ⟨.left, ⟨"staff", some "b"⟩, staff "b" "id" .integer false, staff "e" "boss" .integer true⟩
    loneBody.sourceTable

/-- When the staff is joined with itself a name that was resolved becomes ambiguous, and a scope
that was not there can be named. -/
theorem keepsNames_pairBody :
    [Step.selectFrom "staff as e"].foldlM Draft.apply (Draft.new registry) =
        .ok { registry := registry, body := some loneBody } ∧
      Draft.apply { registry := registry, body := some loneBody }
        (.joinSpec .left "staff AS b" "b.id" "boss") =
          .error (.ambiguousColumn "boss" ["e", "b"]) ∧
      Draft.apply { registry := registry, body := some loneBody }
        (.joinSpec .left "staff AS b" "b.id" "e.boss") =
          .ok { registry := registry, body := some pairBody } ∧
      loneBody.Exact ∧ loneBody.KeepsNames pairBody "b" ∧
      loneBody.resolvePlain "name" = .ok (staff "e" "name" .text true) ∧
      pairBody.resolvePlain "name" = .error (.ambiguousColumn "name" ["e", "b"]) ∧
      loneBody.resolvePlain "b.name" = .error (.unknownTable "b") ∧
      pairBody.resolvePlain "b.name" = .ok (staff "b" "name" .text true) := by
  have led : [Step.selectFrom "staff as e"].foldlM Draft.apply (Draft.new registry) =
      .ok { registry := registry, body := some loneBody } := rfl
  have applied : Draft.apply { registry := registry, body := some loneBody }
      (.joinSpec .left "staff AS b" "b.id" "e.boss") =
        .ok { registry := registry, body := some pairBody } := rfl
  obtain ⟨exact, joins⟩ := Draft.exact_of_foldlM led rfl
  obtain ⟨wider, table, same, -, -, keeps⟩ :=
    joins _ _ ⟨"staff", some "b"⟩ rfl applied
  rw [Option.some.injEq] at same
  exact ⟨led, rfl, applied, exact, same ▸ keeps, rfl, rfl, rfl, rfl⟩

end Office

end TypedQuery
