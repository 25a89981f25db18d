import TypedQuery.Proofs.Text.Scanning

/-!
# Texts in brackets

A text can stand in brackets without a doubt about which bracket closes them if it is
`SelfContained`: it ends outside quotes, and outside quotes its brackets balance and none of them
closes one that it did not open. A scanner decides this from the open quote and the number of open
brackets (`selfContained_iff`). A reader of a text that starts behind an opening bracket takes what
is before the bracket that closes it (`enclosed?`), and it takes just the self-contained texts
(`enclosed?_eq_some_iff`).
-/

namespace TypedQuery.Text

/-- The number of brackets of one kind outside quotes. -/
def bracketCount (quote : Option Char) (bracket : Char) (text : List Char) : Nat :=
  (unquoted quote text).countP fun place => place.1 = bracket

/-- A text that leaves no quote and no bracket open and closes no bracket that it did not open. -/
structure SelfContained (text : List Char) : Prop where
  closed : IsClosed text
  opened : ∀ before, before <+: text →
    bracketCount none ')' before ≤ bracketCount none '(' before
  balanced : bracketCount none ')' text = bracketCount none '(' text

/-- Where in quotes and brackets a position of a text is. -/
structure Nest where
  quote : Option Char
  depth : Nat
  deriving DecidableEq

namespace Nest

/-- The position outside all quotes and brackets. -/
def outside : Nest := ⟨none, 0⟩

/-- The position after one more character, unless it closes a bracket that is not open. -/
def after? (nest : Nest) (c : Char) : Option Nest :=
  if nest.quote = none ∧ c = '(' then some ⟨none, nest.depth + 1⟩
  else if nest.quote = none ∧ c = ')' then
    if nest.depth = 0 then none else some ⟨none, nest.depth - 1⟩
  else some ⟨quoteAfter nest.quote c, nest.depth⟩

/-- The position after a text, unless the text closes a bracket that is not open. -/
def afterText? (nest : Nest) (text : List Char) : Option Nest :=
  text.foldlM after? nest

/-- The position after two texts is the one after the second, from the one after the first. -/
theorem afterText?_append (nest : Nest) (s t : List Char) :
    nest.afterText? (s ++ t) = (nest.afterText? s).bind (·.afterText? t) :=
  List.foldlM_append

/-- The position after a text is the one after all but its first character, from the one after
it. -/
theorem afterText?_cons (nest : Nest) (c : Char) (text : List Char) :
    nest.afterText? (c :: text) = (nest.after? c).bind (·.afterText? text) :=
  List.foldlM_cons

/-- Only a closing bracket outside quotes and brackets has no position after it. -/
theorem after?_eq_none_iff {nest : Nest} {c : Char} :
    nest.after? c = none ↔ nest = outside ∧ c = ')' := by
  obtain ⟨quote, depth⟩ := nest
  simp only [after?, outside, Nest.mk.injEq]
  split
  · next opening => simp [opening.2]
  · split
    · next closing => split <;> simp_all
    · next other => simp_all

end Nest

/-- One if a character is a bracket of one kind outside quotes, else zero. -/
def bracketAt (quote : Option Char) (bracket c : Char) : Nat :=
  if quote = none ∧ c = bracket then 1 else 0

/-- A character in front adds itself to the brackets, if it is one. -/
theorem bracketCount_cons (quote : Option Char) {bracket : Char}
    (plain : isQuoteMark bracket = false) (c : Char) (text : List Char) :
    bracketCount quote bracket (c :: text) =
      bracketAt quote bracket c + bracketCount (quoteAfter quote c) bracket text := by
  cases quote with
  | some mark => simp [bracketCount, bracketAt, unquoted, quoteAfter]
  | none =>
    by_cases mark : isQuoteMark c
    · -- A quote mark opens a quote and is no bracket.
      have other : c ≠ bracket := by
        rintro rfl
        simp [mark] at plain
      simp [bracketCount, bracketAt, unquoted, quoteAfter, mark, other]
    · by_cases same : c = bracket
      · simp [bracketCount, bracketAt, unquoted, quoteAfter, same, plain, Nat.add_comm]
      · simp [bracketCount, bracketAt, unquoted, quoteAfter, mark, same]

/-- One character changes the number of open brackets by what it opens or closes. -/
theorem Nest.after?_eq_some_iff {nest next : Nest} {c : Char} :
    nest.after? c = some next ↔ next.quote = quoteAfter nest.quote c ∧
      bracketAt nest.quote ')' c ≤ nest.depth ∧
      next.depth + bracketAt nest.quote ')' c = nest.depth + bracketAt nest.quote '(' c := by
  obtain ⟨quote, depth⟩ := nest
  obtain ⟨quote', depth'⟩ := next
  have unmarked : quoteAfter none '(' = none ∧ quoteAfter none ')' = none := by decide
  by_cases opening : quote = none ∧ c = '('
  · obtain ⟨rfl, rfl⟩ := opening
    simp [after?, bracketAt, unmarked, eq_comm]
  · by_cases closing : quote = none ∧ c = ')'
    · obtain ⟨rfl, rfl⟩ := closing
      by_cases ground : depth = 0
      · simp [after?, bracketAt, ground]
      · simp [after?, bracketAt, unmarked, ground, eq_comm]
        omega
    · simp [after?, bracketAt, opening, closing, eq_comm]

/-- A text can be scanned if no text in front of it closes more brackets than are open and it opens,
and it leaves open what it opens and does not close. -/
theorem Nest.afterText?_eq_some_iff {nest next : Nest} {text : List Char} :
    nest.afterText? text = some next ↔ quoteAtEnd nest.quote text = next.quote ∧
      (∀ before, before <+: text →
        bracketCount nest.quote ')' before ≤ nest.depth + bracketCount nest.quote '(' before) ∧
      next.depth + bracketCount nest.quote ')' text =
        nest.depth + bracketCount nest.quote '(' text := by
  induction text generalizing nest with
  | nil =>
    obtain ⟨quote, depth⟩ := nest
    obtain ⟨quote', depth'⟩ := next
    simp [afterText?, quoteAtEnd, bracketCount, unquoted, eq_comm]
  | cons c text ih =>
    have opens := bracketCount_cons nest.quote (show isQuoteMark '(' = false from rfl) c
    have closes := bracketCount_cons nest.quote (show isQuoteMark ')' = false from rfl) c
    rw [afterText?_cons, Option.bind_eq_some_iff]
    simp only [after?_eq_some_iff, ih, List.prefix_cons_iff, forall_eq_or_imp]
    constructor
    · -- A text in front is empty, or the first character in front of a text in front of the rest.
      rintro ⟨middle, ⟨quote, allowed, depth⟩, ends, opened, balanced⟩
      rw [quote] at ends opened balanced
      refine ⟨ends, ⟨by simp [bracketCount, unquoted], ?_⟩, ?_⟩
      · rintro _ ⟨before, rfl, isPrefix⟩
        have here := opened before isPrefix
        rw [opens, closes]
        omega
      · rw [opens, closes]
        omega
    · rintro ⟨ends, ⟨-, opened⟩, balanced⟩
      -- The first character alone is a text in front, so it closes only what is open.
      have first := opened [c] ⟨[], rfl, List.nil_prefix⟩
      rw [opens, closes] at balanced first
      have notBoth : bracketAt nest.quote ')' c = 0 ∨ bracketAt nest.quote '(' c = 0 := by
        by_cases closing : c = ')' <;> simp [bracketAt, closing]
      have allowed : bracketAt nest.quote ')' c ≤ nest.depth := by
        simp only [bracketCount, unquoted, List.countP_nil] at first
        omega
      refine ⟨⟨quoteAfter nest.quote c,
        nest.depth + bracketAt nest.quote '(' c - bracketAt nest.quote ')' c⟩,
        ⟨rfl, allowed, Nat.sub_add_cancel (by omega)⟩, ends, ?_, ?_⟩
      · intro before isPrefix
        have here := opened (c :: before) ⟨before, rfl, isPrefix⟩
        rw [opens, closes] at here
        dsimp only
        omega
      · dsimp only
        omega

/-- A text is self-contained if the scanner comes out of it where it went in, outside quotes and
brackets. -/
theorem selfContained_iff {text : List Char} :
    SelfContained text ↔ Nest.outside.afterText? text = some .outside := by
  rw [Nest.afterText?_eq_some_iff]
  simp only [Nest.outside, Nat.zero_add]
  exact ⟨fun ⟨closed, opened, balanced⟩ => ⟨closed, opened, balanced⟩,
    fun ⟨closed, opened, balanced⟩ => ⟨closed, opened, balanced⟩⟩

instance (text : List Char) : Decidable (SelfContained text) :=
  decidable_of_iff' _ selfContained_iff

/-- From any position outside quotes the scanner comes out of a self-contained text where it went
in. -/
theorem SelfContained.afterText? {text : List Char} (contained : SelfContained text)
    (depth : Nat) : Nest.afterText? ⟨none, depth⟩ text = some ⟨none, depth⟩ := by
  obtain ⟨closed, opened, balanced⟩ := contained
  refine Nest.afterText?_eq_some_iff.2 ⟨closed, fun before isPrefix => ?_, ?_⟩
  · exact Nat.le_trans (opened before isPrefix) (Nat.le_add_left ..)
  · dsimp only
    omega

/-- The empty text is self-contained. -/
theorem selfContained_nil : SelfContained [] := by
  decide

/-- Two self-contained texts make a self-contained text. -/
theorem SelfContained.append {s t : List Char} (hs : SelfContained s) (ht : SelfContained t) :
    SelfContained (s ++ t) := by
  rw [selfContained_iff, Nest.afterText?_append, selfContained_iff.1 hs]
  exact selfContained_iff.1 ht

/-- Behind a self-contained text the scanner is where it would be without it. -/
theorem SelfContained.afterText?_take_append {s : List Char} (contained : SelfContained s)
    (t : List Char) {k : Nat} (behind : s.length ≤ k) :
    Nest.outside.afterText? ((s ++ t).take k) =
      Nest.outside.afterText? (t.take (k - s.length)) := by
  rw [List.take_append, List.take_of_length_le behind, Nest.afterText?_append,
    selfContained_iff.1 contained]
  rfl

/-- A self-contained text in brackets is self-contained. -/
theorem SelfContained.enclose {text : List Char} (contained : SelfContained text) :
    SelfContained ('(' :: text ++ [')']) := by
  have opening : Nest.outside.after? '(' = some ⟨none, 1⟩ := rfl
  rw [selfContained_iff, List.cons_append, Nest.afterText?_cons, opening, Option.bind_some,
    Nest.afterText?_append, contained.afterText? 1]
  rfl

/-- A closed text without brackets outside quotes is self-contained. -/
theorem selfContained_of_forall_unquoted {text : List Char} (closed : IsClosed text)
    (bare : ∀ place ∈ unquoted none text, place.1 ≠ '(' ∧ place.1 ≠ ')') :
    SelfContained text := by
  -- What is outside quotes in a text in front is outside quotes in the whole text.
  have nothing : ∀ before, before <+: text →
      bracketCount none '(' before = 0 ∧ bracketCount none ')' before = 0 := by
    rintro before ⟨rest, rfl⟩
    rw [unquoted_append] at bare
    have inside (place : Char × List Char) (mem : place ∈ unquoted none before) :=
      bare _ (List.mem_append_left _ (List.mem_map_of_mem mem))
    simp only [bracketCount, List.countP_eq_zero, decide_eq_true_eq]
    exact ⟨fun place mem => (inside place mem).1, fun place mem => (inside place mem).2⟩
  refine ⟨closed, fun before isPrefix => ?_, ?_⟩
  · obtain ⟨-, closes⟩ := nothing before isPrefix
    omega
  · obtain ⟨opens, closes⟩ := nothing text List.prefix_rfl
    omega

/-- A quoted name is self-contained. -/
theorem selfContained_quotedName (name : String) : SelfContained (quotedName name) := by
  have outside := unquoted_quotedName_append name []
  rw [List.append_nil] at outside
  refine selfContained_of_forall_unquoted (isClosed_quotedName name) fun place mem => ?_
  simp [outside, unquoted] at mem

/-- The text before the bracket that closes what is open at a position, and the text after it. -/
def enclosed? (nest : Nest) : List Char → Option (List Char × List Char)
  | [] => none
  | c :: rest =>
    match nest.after? c with
    | none => some ([], rest)
    | some next => (enclosed? next rest).map fun (inner, rest) => (c :: inner, rest)

/-- The text before the closing bracket is the one that leads outside quotes and brackets. -/
theorem enclosed?_eq_some_iff {nest : Nest} {text inner rest : List Char} :
    enclosed? nest text = some (inner, rest) ↔
      nest.afterText? inner = some .outside ∧ text = inner ++ ')' :: rest := by
  induction text generalizing nest inner with
  | nil => simp [enclosed?]
  | cons c text ih =>
    simp only [enclosed?]
    split
    · next closes =>
      obtain ⟨rfl, rfl⟩ := Nest.after?_eq_none_iff.1 closes
      cases inner with
      | nil => simp [Nest.afterText?]
      | cons d inner =>
        -- The text would have closed a bracket that is not open.
        refine iff_of_false (by simp) ?_
        rintro ⟨scanned, same⟩
        obtain ⟨rfl, -⟩ := List.cons.inj same
        rw [Nest.afterText?_cons, closes] at scanned
        simp at scanned
    · next next after =>
      cases inner with
      | nil =>
        -- The first character would be the closing bracket, which has no position after it.
        refine iff_of_false (by simp) ?_
        rintro ⟨scanned, same⟩
        obtain ⟨rfl, -⟩ := List.cons.inj same
        obtain rfl := Option.some.inj scanned
        simp [Nest.after?_eq_none_iff.2 ⟨rfl, rfl⟩] at after
      | cons d inner =>
        simp only [Option.map_eq_some_iff, Prod.mk.injEq, Prod.exists, List.cons.injEq,
          List.cons_append, Nest.afterText?_cons]
        constructor
        · rintro ⟨_, _, found, ⟨rfl, rfl⟩, rfl⟩
          rw [after]
          exact ⟨(ih.1 found).1, rfl, (ih.1 found).2⟩
        · rintro ⟨scanned, rfl, same⟩
          rw [after] at scanned
          exact ⟨inner, rest, ih.2 ⟨scanned, same⟩, ⟨rfl, rfl⟩, rfl⟩

end TypedQuery.Text
