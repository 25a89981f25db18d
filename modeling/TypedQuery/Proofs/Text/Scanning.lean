import TypedQuery.Text.Quoting

/-!
# Scanning texts that are put together

The scanner for quotes reads a text of several parts as it reads the parts one by one, if each of
them ends outside quotes (`IsClosed`). Then the placeholders of the whole are those of the parts,
each moved by what stands before its part (`placeholders_append`). A quoted name ends outside quotes
and has no placeholders, whatever characters it holds (`unquoted_quotedName_append`).
-/

namespace TypedQuery.Text

/-- A text that ends outside quotes if it starts outside. -/
def IsClosed (text : List Char) : Prop :=
  quoteAtEnd none text = none

instance (text : List Char) : Decidable (IsClosed text) :=
  inferInstanceAs (Decidable (quoteAtEnd none text = none))

/-- The positions of the placeholders of a text, from its start on. -/
def placeholders (text : List Char) : List Nat :=
  ((unquoted none text).filter fun place => place.1 = '?').map fun place =>
    text.length - place.2.length - 1

/-- The empty text is closed. -/
theorem isClosed_nil : IsClosed [] := rfl

/-- Two closed texts make a closed text. -/
theorem IsClosed.append {s t : List Char} (hs : IsClosed s) (ht : IsClosed t) :
    IsClosed (s ++ t) := by
  unfold IsClosed at hs ht ⊢
  rw [quoteAtEnd_append, hs, ht]

/-- What lies outside quotes in two texts is what lies outside in the first, followed by the second,
and what lies outside in the second after the first. -/
theorem unquoted_append (quote : Option Char) (s t : List Char) :
    unquoted quote (s ++ t) = (unquoted quote s).map (fun place => (place.1, place.2 ++ t)) ++
      unquoted (quoteAtEnd quote s) t := by
  induction s generalizing quote with
  | nil => rfl
  | cons c s ih =>
    -- The first character decides the quote that the rest is read in, of one text as of both.
    cases quote with
    | none =>
      by_cases mark : isQuoteMark c
      · simp [unquoted, quoteAtEnd, quoteAfter, mark, ih]
      · simp [unquoted, quoteAtEnd, quoteAfter, mark, ih]
    | some mark =>
      by_cases ends : c = mark
      · simp [unquoted, quoteAtEnd, quoteAfter, ends, ih]
      · simp [unquoted, quoteAtEnd, quoteAfter, ends, ih]

/-- A character outside quotes stands in the text in front of what follows it. -/
theorem exists_append_of_mem_unquoted {quote : Option Char} {text : List Char}
    {place : Char × List Char} (mem : place ∈ unquoted quote text) :
    ∃ before, text = before ++ place.1 :: place.2 := by
  induction text generalizing quote with
  | nil => simp [unquoted] at mem
  | cons c rest ih =>
    have later (quote : Option Char) (mem : place ∈ unquoted quote rest) :
        ∃ before, c :: rest = before ++ place.1 :: place.2 := by
      obtain ⟨before, same⟩ := ih mem
      exact ⟨c :: before, by rw [same, List.cons_append]⟩
    simp only [unquoted] at mem
    split at mem
    · split at mem
      · exact later _ mem
      · rcases List.mem_cons.1 mem with rfl | mem
        · exact ⟨[], rfl⟩
        · exact later _ mem
    · exact later _ mem

/-- What follows a character of a text is shorter than the text. -/
theorem length_lt_of_mem_unquoted {quote : Option Char} {text : List Char}
    {place : Char × List Char} (mem : place ∈ unquoted quote text) :
    place.2.length < text.length := by
  obtain ⟨before, rfl⟩ := exists_append_of_mem_unquoted mem
  rw [List.length_append, List.length_cons]
  omega

/-- A text has as many positions of placeholders as placeholders. -/
theorem length_placeholders (text : String) :
    (placeholders text.toList).length = placeholderCount text := by
  rw [placeholders, List.length_map, placeholderCount, List.countP_eq_length_filter]

/-- A placeholder stands inside its text. -/
theorem lt_length_of_mem_placeholders {text : List Char} {position : Nat}
    (mem : position ∈ placeholders text) : position < text.length := by
  obtain ⟨place, listed, rfl⟩ := List.mem_map.1 mem
  have shorter := length_lt_of_mem_unquoted (List.mem_filter.1 listed).1
  omega

/-- The placeholders after a closed text are its own and those of what follows, moved by its
length. -/
theorem placeholders_append {s : List Char} (closed : IsClosed s) (t : List Char) :
    placeholders (s ++ t) = placeholders s ++ (placeholders t).map (s.length + ·) := by
  unfold placeholders
  rw [unquoted_append, closed, List.filter_append, List.map_append, List.filter_map, List.map_map,
    List.map_map]
  -- A position is counted from the end, so what is behind it is longer by the second text.
  congr 1
  · refine List.map_congr_left fun place _ => ?_
    simp only [Function.comp_apply, List.length_append]
    omega
  · refine List.map_congr_left fun place mem => ?_
    have shorter := length_lt_of_mem_unquoted (List.mem_filter.1 mem).1
    simp only [Function.comp_apply, List.length_append]
    omega

/-- A text without quote marks is closed, and all of it lies outside quotes. -/
theorem isClosed_of_forall {text : List Char} (bare : ∀ c ∈ text, isQuoteMark c = false) :
    IsClosed text := by
  induction text with
  | nil => rfl
  | cons c rest ih =>
    have first := bare c List.mem_cons_self
    have others := ih fun d mem => bare d (List.mem_cons_of_mem _ mem)
    simpa [IsClosed, quoteAtEnd, quoteAfter, first] using others

/-- A text without question marks has no placeholders. -/
theorem placeholders_eq_nil_of_forall {text : List Char} (unmarked : ∀ c ∈ text, c ≠ '?') :
    placeholders text = [] := by
  rw [placeholders, List.map_eq_nil_iff, List.filter_eq_nil_iff]
  intro place mem
  obtain ⟨before, same⟩ := exists_append_of_mem_unquoted mem
  have listed : place.1 ∈ text := by simp [same]
  simpa using unmarked _ listed

/-! ## Quoted names -/

/-- Between the quotes of a name nothing lies outside quotes: a doubled mark leaves them and comes
back at once. -/
theorem unquoted_doubleQuotes_append (name rest : List Char) :
    unquoted (some '"') (doubleQuotes name ++ rest) = unquoted (some '"') rest := by
  induction name with
  | nil => rfl
  | cons c name ih =>
    by_cases mark : c = '"'
    · simpa [doubleQuotes, mark, unquoted, isQuoteMark] using ih
    · simpa [doubleQuotes, mark, unquoted] using ih

/-- A quoted name hides itself and nothing of what follows. -/
theorem unquoted_quotedName_append (name : String) (rest : List Char) :
    unquoted none (quotedName name ++ rest) = unquoted none rest := by
  have inside := unquoted_doubleQuotes_append name.toList ('"' :: rest)
  simpa [quotedName, unquoted, isQuoteMark] using inside

/-- Between the quotes of a name its quote stays open. -/
theorem quoteAtEnd_doubleQuotes (name : List Char) :
    quoteAtEnd (some '"') (doubleQuotes name) = some '"' := by
  induction name with
  | nil => rfl
  | cons c name ih =>
    by_cases mark : c = '"'
    · simpa [doubleQuotes, mark, quoteAtEnd, quoteAfter, isQuoteMark] using ih
    · simpa [doubleQuotes, mark, quoteAtEnd, quoteAfter] using ih

/-- A quoted name is closed. -/
theorem isClosed_quotedName (name : String) : IsClosed (quotedName name) := by
  have inside := quoteAtEnd_doubleQuotes name.toList
  unfold IsClosed quotedName
  rw [quoteAtEnd_append]
  simp only [quoteAtEnd, List.foldl_cons] at inside ⊢
  rw [show quoteAfter none '"' = some '"' from rfl, inside]
  rfl

/-- A quoted name has no placeholders. -/
theorem placeholders_quotedName (name : String) : placeholders (quotedName name) = [] := by
  have outside := unquoted_quotedName_append name []
  rw [List.append_nil] at outside
  rw [placeholders, outside]
  rfl

end TypedQuery.Text
