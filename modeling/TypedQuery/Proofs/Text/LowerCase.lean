import Mathlib.Data.List.Basic
import TypedQuery.Text.LowerCase
import TypedQuery.Text.Occurrence

/-!
# Lower case within and beyond ASCII

The full lower-case form of a text has no ASCII capital left, and is not shorter than the text
(`Text.lowerCase_small`). It is the text with only its ASCII capitals made small just if no other
character of the text has a lower-case form of its own (`Text.lowerCase_eq_iff`). If one has, the
form is another text, and too long to occur in that one (`Text.occursIn_lowerCase_iff`).

All of this is one induction, in which a character adds some characters to the front
(`Text.exists_lowerFrom_cons`).
-/

namespace TypedQuery.Text

/-- Whether a character has no lower-case form but the one that ASCII gives it: the small letter of
an ASCII capital, and otherwise the character itself. -/
def HasAsciiCase (c : Char) : Prop :=
  lowerChar c = [c.toLower]

/-! ## Characters -/

/-- The small letters of all runs come after the ASCII capitals. -/
theorem le_small_of_mem_caseRuns : ∀ run ∈ caseRuns, 91 ≤ run.small := by
  decide +kernel

/-- A character after the ASCII capitals is none of them. -/
theorem toLower_of_le {c : Char} (after : 91 ≤ c.toNat) : c.toLower = c := by
  unfold Char.toLower
  refine dif_neg ?_
  rintro ⟨-, low⟩
  have bound : c.toNat ≤ 90 := low
  omega

/-- A capital that was made small stays as it is. -/
theorem toLower_toLower (c : Char) : c.toLower.toLower = c.toLower := by
  by_cases capital : c.val ≥ 'A'.val ∧ c.val ≤ 'Z'.val
  · apply toLower_of_le
    have first : 65 ≤ c.toNat := capital.1
    have last : c.toNat ≤ 90 := capital.2
    have small : c.toLower.toNat = (c.toNat + 32) % UInt32.size := by
      unfold Char.toLower
      rw [dif_pos capital]
      rfl
    rw [small, Nat.mod_eq_of_lt (by simp only [UInt32.size]; omega)]
    omega
  · have same : c.toLower = c := by
      unfold Char.toLower
      exact dif_neg capital
    rw [same, same]

/-- The character of a code point after the ASCII capitals is none of them. -/
theorem toLower_ofNat {point : Nat} (after : 91 ≤ point) :
    (Char.ofNat point).toLower = Char.ofNat point := by
  by_cases valid : point.isValidChar
  · apply toLower_of_le
    rw [Char.ofNat, dif_pos valid]
    exact after
  · rw [Char.ofNat, dif_neg valid]
    rfl

/-- The small letter that a run has for a capital comes after the ASCII capitals. -/
theorem le_of_findSome?_lower? {point small : Nat}
    (found : caseRuns.findSome? (·.lower? point) = some small) : 91 ≤ small := by
  obtain ⟨run, listed, lower⟩ := List.exists_of_findSome?_eq_some found
  have first := le_small_of_mem_caseRuns run listed
  unfold CaseRun.lower? at lower
  split at lower
  · rw [Option.some.injEq] at lower
    omega
  · simp at lower

/-- The lower-case form of a character has characters, and none of them is an ASCII capital. -/
theorem lowerChar_small (c : Char) : lowerChar c ≠ [] ∧ ∀ d ∈ lowerChar c, d.toLower = d := by
  unfold lowerChar
  split
  · exact ⟨List.cons_ne_nil _ _, List.forall_mem_singleton.2 (toLower_toLower c)⟩
  · next high =>
    split
    · have dot : (Char.ofNat 0x307).toLower = Char.ofNat 0x307 := toLower_ofNat (by decide)
      exact ⟨List.cons_ne_nil _ _,
        List.forall_mem_cons.2 ⟨rfl, List.forall_mem_singleton.2 dot⟩⟩
    · split
      · next small found =>
        have letter := toLower_ofNat (le_of_findSome?_lower? found)
        exact ⟨List.cons_ne_nil _ _, List.forall_mem_singleton.2 letter⟩
      · have own : c.toLower = c := toLower_of_le (by omega)
        exact ⟨List.cons_ne_nil _ _, List.forall_mem_singleton.2 own⟩

/-! ## Texts -/

/-- What a character adds to the lower-case form of a text: characters of which none is an ASCII
capital, and only what ASCII has for it if it has no other form. -/
theorem exists_lowerFrom_cons (before : List Char) (c : Char) (rest : List Char) :
    ∃ front, lowerFrom before (c :: rest) = front ++ lowerFrom (c :: before) rest ∧
      front ≠ [] ∧ (∀ d ∈ front, d.toLower = d) ∧ (front = [c.toLower] ↔ HasAsciiCase c) := by
  by_cases sigma : c.toNat = 0x3A3
  · -- Neither of the two small sigmas is what ASCII has for the capital.
    have capital : c = 'Σ' := Char.toNat_inj.1 sigma
    refine ⟨[Char.ofNat (if casedFirst before && !casedFirst rest then 0x3C2 else 0x3C3)],
      by rw [lowerFrom, if_pos sigma]; rfl, List.cons_ne_nil _ _, ?_, ?_⟩
    · rw [List.forall_mem_singleton]
      split <;> decide
    · refine iff_of_false ?_ ?_
      · rw [capital]
        split <;> decide
      · rw [capital]
        unfold HasAsciiCase
        decide +kernel
  · obtain ⟨some, small⟩ := lowerChar_small c
    exact ⟨lowerChar c, by rw [lowerFrom, if_neg sigma], some, small, Iff.rfl⟩

/-- What characters add is not shorter than they are, and has no ASCII capital. -/
theorem lowerFrom_small (before text : List Char) :
    text.length ≤ (lowerFrom before text).length ∧
      ∀ d ∈ lowerFrom before text, d.toLower = d := by
  induction text generalizing before with
  | nil => simp [lowerFrom]
  | cons c rest ih =>
    obtain ⟨front, same, some, small, -⟩ := exists_lowerFrom_cons before c rest
    obtain ⟨length, others⟩ := ih (c :: before)
    have first := List.length_pos_of_ne_nil some
    rw [same, List.length_append, List.length_cons]
    exact ⟨by omega, List.forall_mem_append.2 ⟨small, others⟩⟩

/-- What characters add is what ASCII has for them just if none of them has another form. -/
theorem lowerFrom_eq_map_iff (before : List Char) {text : List Char} :
    lowerFrom before text = text.map Char.toLower ↔ ∀ c ∈ text, HasAsciiCase c := by
  induction text generalizing before with
  | nil => simp [lowerFrom]
  | cons c rest ih =>
    obtain ⟨front, same, some, -, ascii⟩ := exists_lowerFrom_cons before c rest
    obtain ⟨length, -⟩ := lowerFrom_small (c :: before) rest
    rw [same, List.map_cons, List.forall_mem_cons, ← ascii, ← ih (c :: before)]
    constructor
    · intro whole
      -- The rest leaves no room for a second character in front.
      have lengths := congrArg List.length whole
      rw [List.length_append, List.length_cons, List.length_map] at lengths
      obtain ⟨d, rfl⟩ := List.length_eq_one_iff.1
        (show front.length = 1 by have := List.length_pos_of_ne_nil some; omega)
      obtain ⟨rfl, others⟩ := List.cons.inj whole
      exact ⟨rfl, others⟩
    · rintro ⟨rfl, others⟩
      rw [others]
      rfl

/-- The lower-case form of a text is not shorter, and none of its characters is an ASCII capital. -/
theorem lowerCase_small (text : String) : text.toList.length ≤ (lowerCase text).toList.length ∧
    ∀ d ∈ (lowerCase text).toList, d.toLower = d := by
  rw [lowerCase, String.toList_ofList]
  exact lowerFrom_small [] text.toList

/-- The lower-case form of a text is the text with its ASCII capitals made small just if no
character has another form. -/
theorem lowerCase_eq_iff {text : String} :
    (lowerCase text).toList = text.toList.map Char.toLower ↔ ∀ c ∈ text.toList, HasAsciiCase c := by
  rw [lowerCase, String.toList_ofList]
  exact lowerFrom_eq_map_iff []

/-- The lower-case form of a text occurs in the text with its ASCII capitals made small just if no
character has another form. -/
theorem occursIn_lowerCase_iff {text : String} :
    occursIn (lowerCase text).toList (text.toList.map Char.toLower) = true ↔
      ∀ c ∈ text.toList, HasAsciiCase c := by
  rw [← lowerCase_eq_iff, occursIn_iff]
  constructor
  · rintro ⟨before, after, whole⟩
    -- What occurs is as long as the whole, so there is nothing around it.
    have length := (lowerCase_small text).1
    have lengths := congrArg List.length whole
    simp only [List.length_append, List.length_map] at lengths
    obtain rfl : before = [] := List.eq_nil_of_length_eq_zero (by omega)
    obtain rfl : after = [] := List.eq_nil_of_length_eq_zero (by omega)
    rw [whole, List.nil_append, List.append_nil]
  · intro same
    exact ⟨[], [], by rw [List.nil_append, List.append_nil, same]⟩

end TypedQuery.Text
