import TypedQuery.Decimal.Layout
import TypedQuery.Proofs.Json.Tokens

/-!
# Real numbers in JSON

A real number is written as JSON wants a number, or as null if it is not finite
(`Layout.json_write_cases`). What has to be seen is that no zero is written in front of other
digits. The digits to be written are those of a natural number other than zero, whatever grid they
were found on, so they do not start with one, and a zero that is put in front of them has a point
behind it.
-/

namespace TypedQuery.Decimal

open Json (IsDigits Spelling isDigits_toDigits head?_toDigits_ne)

/-! ## The digits are not those of zero -/

/-- Zero is not taken for a number on any grid. -/
theorem Binary.onGrid?_ne_zero {x : Binary} {tie : Tie} {exponent : Int} {decimal : Digits}
    (found : x.onGrid? tie exponent = some decimal) : decimal.digits ≠ 0 := by
  unfold onGrid? at found
  dsimp only at found
  split at found
  · next below _ =>
    obtain rfl := Option.some.inj found
    exact of_decide_eq_true (Bool.and_eq_true_iff.1 below).1
  · obtain rfl := Option.some.inj found
    exact Nat.succ_ne_zero _
  · contradiction
  · next below _ =>
    -- Both neighbours read back, and the one below has been seen not to be zero.
    obtain rfl := Option.some.inj found
    dsimp only
    split
    · exact Nat.succ_ne_zero _
    · exact of_decide_eq_true (Bool.and_eq_true_iff.1 below).1

/-- The shortest decimal of a number other than zero is not zero. -/
theorem Binary.digits_shortest_ne_zero {x : Binary} (tie : Tie) (pos : x.mantissa ≠ 0) :
    (x.shortest tie).digits ≠ 0 := by
  unfold shortest
  cases found : grids.findSome? (x.onGrid? tie) with
  | none => exact pos
  | some decimal =>
    obtain ⟨exponent, -, here⟩ := List.exists_of_findSome?_eq_some found
    exact onGrid?_ne_zero here

/-- A number other than zero is not zero without the zeros at its end. -/
theorem stripZeros_ne_zero {n : Nat} (pos : n ≠ 0) (count : Nat) : (stripZeros n count).1 ≠ 0 := by
  induction count generalizing n with
  | zero => exact pos
  | succ count ih =>
    rw [stripZeros]
    split
    · next zero =>
      have multiple : n % 10 = 0 := of_decide_eq_true (Bool.and_eq_true_iff.1 zero).1
      exact ih (by omega)
    · exact pos

/-! ## The digits in their places -/

namespace Layout

variable {digits : List Char}

/-- A zero is a digit. -/
theorem isDigits_zero : IsDigits ['0'] := ⟨List.cons_ne_nil _ _, List.forall_mem_singleton.2 rfl⟩

/-- Digits with zeros behind them are digits. -/
theorem isDigits_append_replicate (number : IsDigits digits) (count : Nat) :
    IsDigits (digits ++ List.replicate count '0') := by
  refine ⟨List.append_ne_nil_of_left_ne_nil number.1 _, fun c mem => ?_⟩
  rcases List.mem_append.1 mem with digit | zero
  · exact number.2 c digit
  · rw [List.eq_of_mem_replicate zero]
    rfl

/-- Digits with zeros in front of them are digits. -/
theorem isDigits_replicate_append (number : IsDigits digits) (count : Nat) :
    IsDigits (List.replicate count '0' ++ digits) := by
  refine ⟨List.append_ne_nil_of_right_ne_nil _ number.1, fun c mem => ?_⟩
  rcases List.mem_append.1 mem with zero | digit
  · rw [List.eq_of_mem_replicate zero]
    rfl
  · exact number.2 c digit

/-- Digits on both sides of a point are a number of JSON, if no zero is in front of others. -/
theorem isLawful_point {places : List Char} (whole : IsDigits digits)
    (leading : digits.head? = some '0' → digits = ['0']) (behind : IsDigits places) :
    (Spelling.mk false digits (some places) none).IsLawful where
  whole := whole
  leading := leading
  fraction := by
    intro given same
    obtain rfl := Option.some.inj same
    exact behind
  exponent := by simp

/-- Digits that are written out are a number of JSON. -/
theorem exists_spelling_positional (number : IsDigits digits) (leading : digits.head? ≠ some '0')
    (exponent : Int) :
    ∃ s : Spelling, s.IsLawful ∧ s.unsignedChars = json.writePositional digits exponent := by
  obtain ⟨first, rest, rfl⟩ := List.exists_cons_of_ne_nil number.1
  unfold writePositional
  split
  · next count =>
    -- A whole number, and a zero behind its point.
    exact ⟨_, isLawful_point (isDigits_append_replicate number count)
      (fun zero => absurd zero leading) isDigits_zero, rfl⟩
  · next n =>
    dsimp only
    split
    · next inside =>
      -- The point stands among the digits, behind the first one or later.
      obtain ⟨front, shape⟩ : ∃ front, (first :: rest).length - (n + 1) = front + 1 :=
        ⟨(first :: rest).length - (n + 1) - 1, by omega⟩
      rw [shape]
      have whole : IsDigits ((first :: rest).take (front + 1)) :=
        ⟨List.cons_ne_nil _ _, fun c mem => number.2 c (List.mem_of_mem_take mem)⟩
      have behind : IsDigits ((first :: rest).drop (front + 1)) := by
        refine ⟨fun empty => ?_, fun c mem => number.2 c (List.mem_of_mem_drop mem)⟩
        have short := List.drop_eq_nil_iff.1 empty
        omega
      refine ⟨_, isLawful_point whole (fun zero => absurd zero leading) behind, ?_⟩
      simp [Spelling.unsignedChars, Json.fractionChars, Json.exponentChars]
    · -- Only zeros stand in front of the digits.
      refine ⟨_, isLawful_point isDigits_zero (fun _ => rfl) (isDigits_replicate_append number
        (n + 1 - (first :: rest).length)), ?_⟩
      simp [Spelling.unsignedChars, Json.fractionChars, Json.exponentChars]

/-- Digits with an exponent are a number of JSON. -/
theorem exists_spelling_scientific (number : IsDigits digits) (exponent : Int) :
    ∃ s : Spelling, s.IsLawful ∧ s.unsignedChars = json.writeScientific digits exponent := by
  obtain ⟨first, rest, rfl⟩ := List.exists_cons_of_ne_nil number.1
  have start : IsDigits [first] := ⟨List.cons_ne_nil _ _, by simpa using number.2 first (by simp)⟩
  have alone : [first].head? = some '0' → [first] = ['0'] := fun zero => by
    rw [Option.some.inj zero]
  have width (power : Nat) : 1 - (Nat.toDigits 10 power).length = 0 := by
    have some := List.length_pos_iff.2 (isDigits_toDigits power).1
    omega
  have power : ∀ e ∈ some (decide (exponent + (first :: rest).length - 1 < 0),
      Nat.toDigits 10 (exponent + (first :: rest).length - 1).natAbs), IsDigits e.2 := by
    intro e given
    obtain rfl := Option.some.inj given
    exact isDigits_toDigits _
  cases rest with
  | nil =>
    refine ⟨⟨false, [first], none, _⟩, ⟨start, alone, by simp, power⟩, ?_⟩
    simp [Spelling.unsignedChars, Json.fractionChars, Json.exponentChars, writeScientific, json,
      width]
  | cons second rest =>
    refine ⟨⟨false, [first], some (second :: rest), _⟩, ⟨start, alone, ?_, power⟩, ?_⟩
    · intro places given
      obtain rfl := Option.some.inj given
      exact ⟨List.cons_ne_nil _ _, fun c mem => number.2 c (List.mem_cons_of_mem _ mem)⟩
    · simp [Spelling.unsignedChars, Json.fractionChars, Json.exponentChars, writeScientific, json,
        width]

/-- The decimal that is written in JSON is not zero. -/
theorem digits_json_decimal_ne_zero {x : Binary} (pos : x.mantissa ≠ 0) :
    (json.decimal x).digits ≠ 0 := by
  have decimal : json.decimal x = x.shortest .toEven := by rw [json]
  rw [decimal]
  exact x.digits_shortest_ne_zero .toEven pos

/-- What is written for a finite number: a zero, or else the digits of the layout's decimal without
the zeros at its end, in one of two ways. -/
theorem writeFinite_cases (layout : Layout) (x : Binary) :
    x.mantissa = 0 ∧ layout.writeFinite x = '0' :: layout.wholeEnd ∨
      x.mantissa ≠ 0 ∧ ∃ exponent,
        let digits := Nat.toDigits 10 (stripZeros (layout.decimal x).digits 20).1
        layout.writeFinite x = layout.writePositional digits exponent ∨
          layout.writeFinite x = layout.writeScientific digits exponent := by
  unfold writeFinite
  by_cases zero : x.mantissa = 0
  · exact .inl ⟨zero, if_pos zero⟩
  · rw [if_neg zero]
    dsimp only
    refine .inr ⟨zero,
      (layout.decimal x).exponent + (stripZeros (layout.decimal x).digits 20).2, ?_⟩
    split
    · exact .inl rfl
    · exact .inr rfl

/-- A finite number without its sign is a number of JSON. -/
theorem exists_spelling_finite (x : Binary) :
    ∃ s : Spelling, s.IsLawful ∧ s.unsignedChars = json.writeFinite x := by
  rcases json.writeFinite_cases x with ⟨-, written⟩ | ⟨pos, exponent, written⟩
  · rw [written]
    exact ⟨_, isLawful_point isDigits_zero (fun _ => rfl) isDigits_zero, rfl⟩
  · have stripped := stripZeros_ne_zero (digits_json_decimal_ne_zero pos) 20
    rcases written with positional | scientific
    · rw [positional]
      exact exists_spelling_positional (isDigits_toDigits _)
        (head?_toDigits_ne (Nat.pos_of_ne_zero stripped)) exponent
    · rw [scientific]
      exact exists_spelling_scientific (isDigits_toDigits _) exponent

/-- A real number is written as a number of JSON, or as null. -/
theorem json_write_cases (x : Float) :
    json.write x = Json.writeNull ∨ ∃ s : Spelling, s.IsLawful ∧ json.write x = s.chars := by
  unfold write writeBits
  dsimp only
  split
  · next finite _ =>
    obtain ⟨s, lawful, written⟩ := exists_spelling_finite finite
    rw [← written]
    split
    · exact .inr ⟨{ s with negative := true }, ⟨lawful.whole, lawful.leading, lawful.fraction,
        lawful.exponent⟩, rfl⟩
    · exact .inr ⟨{ s with negative := false }, ⟨lawful.whole, lawful.leading, lawful.fraction,
        lawful.exponent⟩, rfl⟩
  · refine .inl ?_
    split
    · rfl
    · split <;> rfl

end Layout

end TypedQuery.Decimal
