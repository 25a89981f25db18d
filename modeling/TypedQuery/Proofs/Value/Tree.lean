import TypedQuery.Proofs.Decimal.Layout
import TypedQuery.Proofs.Value.Json

/-!
# Values inside of JSON

What is written for a value is one JSON value, also inside of an object (`Value.spells_tree`):
whatever a text or a number holds, nothing of it is taken for a mark of the object around it. This
includes real numbers, which are written as numbers or as null.
-/

namespace TypedQuery

/-- The digits of an integer are a number of JSON. -/
theorem exists_spelling_intChars (i : Int) :
    ∃ s : Json.Spelling, s.IsLawful ∧ intChars i = s.chars := by
  cases i with
  | ofNat n =>
    have digits : Nat.toDigits 10 n = Nat.toDigits 10 n ++ [] := (List.append_nil _).symm
    exact ⟨_, Json.isLawful_toDigits false n, digits⟩
  | negSucc n =>
    have digits : Nat.toDigits 10 (n + 1) = Nat.toDigits 10 (n + 1) ++ [] :=
      (List.append_nil _).symm
    exact ⟨_, Json.isLawful_toDigits true (n + 1), congrArg (List.cons '-') digits⟩

namespace Value

/-- What the JSON of a value is read as. -/
def tree (value : Value) : Json :=
  (Json.Document.ofChars value.jsonChars).root

/-- What is written for a value spells a JSON value. -/
theorem exists_spells (value : Value) : ∃ tree, Json.Spells value.jsonChars tree := by
  cases value with
  | null => exact ⟨_, Json.spells_writeNull⟩
  | integer i =>
    obtain ⟨s, lawful, written⟩ := exists_spelling_intChars i.toInt
    rw [jsonChars, written]
    exact ⟨_, Json.spells_number lawful⟩
  | real x =>
    rw [jsonChars]
    rcases Decimal.Layout.json_write_cases x with written | ⟨s, lawful, written⟩
    · rw [written]
      exact ⟨_, Json.spells_writeNull⟩
    · rw [written]
      exact ⟨_, Json.spells_number lawful⟩
  | text s => exact ⟨_, Json.spells_writeText s.toList⟩
  | boolean b => exact ⟨_, Json.spells_writeBool b⟩
  | date d => exact ⟨_, Json.spells_writeText d.chars⟩
  | blob bytes => exact ⟨_, Json.spells_bytes bytes⟩

/-- What is written for a value spells what it is read as by itself. -/
theorem spells_tree (value : Value) : Json.Spells value.jsonChars value.tree := by
  obtain ⟨json, spells⟩ := value.exists_spells
  rw [tree, spells.document]
  exact spells

end Value

end TypedQuery
