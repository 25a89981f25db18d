import Mathlib.Data.List.Basic
import TypedQuery.Proofs.Json.Values
import TypedQuery.Value.Json

/-!
# Values are read back from their JSON

JSON keeps values apart: reading the JSON of a value gives the value again (`Value.ofJson_toJson`),
but for a date, which is read as the text that it is written as. Real numbers are left out, since
not every one of them has a number in JSON.

The kind of a value is lost when it is written, so the reader finds it from the token that the text
starts with. No two kinds but texts and dates start with the same one, and an array holds bytes
only. A written array of any length is read by `Json.spells_bytes`, one item after another.
-/

namespace TypedQuery

namespace Json

/-- A byte as an item of an array. -/
def byteItem (byte : UInt8) : Json :=
  .number (.ok (.natural byte.toNat))

/-- The bytes of an array behind the first, each with the comma in front of it, and the end of the
array. -/
def byteTail (bytes : List UInt8) : List Char :=
  bytes.flatMap (fun byte => ',' :: Nat.toDigits 10 byte.toNat) ++ [']']

/-- An array of bytes is written as its first byte and a tail. -/
theorem writeArray_bytes (byte : UInt8) (bytes : List UInt8) :
    writeArray ((byte :: bytes).map fun byte => Nat.toDigits 10 byte.toNat) =
      '[' :: (Nat.toDigits 10 byte.toNat ++ byteTail bytes) := by
  rw [writeArray, List.map_cons, intercalate_cons, List.flatMap_map, List.cons_append,
    List.append_assoc]
  rfl

/-- Behind a byte in an array there is a comma or the end of the array. -/
theorem endsNumber_byteTail (bytes : List UInt8) (rest : List Char) :
    EndsNumber (byteTail bytes ++ rest) := by
  intro c first
  cases bytes with
  | nil =>
    obtain rfl : ']' = c := by simpa [byteTail] using first
    decide
  | cons byte bytes =>
    obtain rfl : ',' = c := by simpa [byteTail] using first
    decide

/-- The digits of a byte are one token. -/
theorem tokens_byte_append (byte : UInt8) {rest : List Char} (ends : EndsNumber rest) :
    tokens (Nat.toDigits 10 byte.toNat ++ rest) =
      .number (.ok (.natural byte.toNat)) :: tokens rest := by
  have small : byte.toNat ≤ maxWord := Nat.le_trans (Nat.le_of_lt byte.toNat_lt) (by decide)
  exact tokens_digits_append small ends

/-- Behind items that have been read, the tail of an array is read to its end. -/
theorem run_byteTail (bytes : List UInt8) (items : List Json) (outer : List Frame)
    (rest : List Char) :
    run .comma (.array items :: outer) (tokens (byteTail bytes ++ rest)) =
      resume (.after (.array (itemsOf ((bytes.map byteItem).reverse ++ items) .done)) outer)
        (tokens rest) := by
  induction bytes generalizing items with
  | nil =>
    show run .comma (.array items :: outer) (tokens (']' :: rest)) = _
    rw [tokens_mark_append (by decide), run_cons]
    rfl
  | cons byte bytes ih =>
    have shape : byteTail (byte :: bytes) ++ rest =
        ',' :: (Nat.toDigits 10 byte.toNat ++ (byteTail bytes ++ rest)) := by
      simp [byteTail]
    rw [shape, tokens_mark_append (by decide),
      tokens_byte_append byte (endsNumber_byteTail bytes rest)]
    show run .comma (.array (byteItem byte :: items) :: outer) _ = _
    rw [ih, List.map_cons, List.reverse_cons, List.append_assoc, List.singleton_append]

/-- A written array of bytes spells the array of its items. -/
theorem spells_bytes (bytes : List UInt8) :
    Spells (writeArray (bytes.map fun byte => Nat.toDigits 10 byte.toNat))
      (.array (itemsOf (bytes.map byteItem).reverse .done)) := by
  intro frames rest _
  cases bytes with
  | nil =>
    show run .value frames (tokens ('[' :: ']' :: rest)) = _
    rw [tokens_mark_append (by decide), tokens_mark_append (by decide), run_cons]
    show run .itemOrEnd (.array [] :: frames) _ = _
    rw [run_cons]
    rfl
  | cons byte bytes =>
    rw [writeArray_bytes, List.cons_append, List.append_assoc, tokens_mark_append (by decide),
      tokens_byte_append byte (endsNumber_byteTail bytes rest)]
    show run .comma (.array [byteItem byte] :: frames) _ = _
    rw [run_byteTail, List.map_cons, List.reverse_cons]

/-- The items of an array from the first one on. -/
theorem itemsOf_reverse_cons (item : Json) (items : List Json) (last : Items) :
    itemsOf (item :: items).reverse last = .item item (itemsOf items.reverse last) := by
  unfold itemsOf
  rw [List.foldl_reverse, List.foldl_reverse, List.foldr_cons]

/-- Bytes are items without faults. -/
theorem itemsFault?_bytes (depth : Nat) (bytes : List UInt8) :
    itemsFault? depth (itemsOf (bytes.map byteItem).reverse .done) = none := by
  induction bytes with
  | nil => rfl
  | cons byte bytes ih =>
    rw [List.map_cons, itemsOf_reverse_cons, itemsFault?, ih]
    rfl

end Json

namespace Value

/-- The items of an array of bytes are the bytes. -/
theorem bytes?_itemsOf (bytes : List UInt8) :
    bytes? (Json.itemsOf (bytes.map Json.byteItem).reverse .done) = some bytes := by
  induction bytes with
  | nil => rfl
  | cons byte bytes ih =>
    rw [List.map_cons, Json.itemsOf_reverse_cons, Json.byteItem, bytes?, if_pos byte.toNat_lt, ih]
    simp

/-- A text that is one JSON value is read as that value. -/
theorem ofJson_of_run {chars : List Char} {root : Json}
    (read : Json.run .value [] (Json.tokens chars) = (root, [])) :
    ofJson (String.ofList chars) = readJson root := by
  unfold ofJson Json.readWhole
  rw [String.toList_ofList, Json.document_of_run read]
  show (readJson root >>= fun value => pure value) = readJson root
  exact bind_pure _

/-- A text that is one token is read as the value that starts with it. -/
theorem ofJson_of_tokens {chars : List Char} {token : Json.Token} {root : Json}
    (cut : Json.tokens chars = [token])
    (begins : Json.State.begin token [] = .finished root) :
    ofJson (String.ofList chars) = readJson root := by
  refine ofJson_of_run ?_
  rw [cut, Json.run]
  simp [Json.State.step, begins]

/-- Text is read back from a string. -/
theorem ofJson_writeText (text : List Char) :
    ofJson (String.ofList (Json.writeText text)) = .ok (.text (String.ofList text)) := by
  rw [ofJson_of_run (Json.spells_writeText text).run]
  rfl

/-- An integer is read back from its digits. -/
theorem ofJson_intChars (i : Int64) :
    ofJson (String.ofList (intChars i.toInt)) = .ok (.integer i) := by
  have ends : Json.EndsNumber [] := fun c none => by simp at none
  have low := i.le_toInt
  have high := i.toInt_lt
  have back := i.ofInt_toInt
  -- The writer and the reader both treat a number below zero apart.
  cases number : i.toInt with
  | ofNat n =>
    rw [number] at high back
    have fits : n < 2 ^ 63 := by
      simp only [Int.ofNat_eq_natCast] at high
      omega
    have word : n ≤ Json.maxWord := Nat.le_trans (Nat.le_of_lt fits) (by decide)
    have cut : Json.tokens (Nat.toDigits 10 n) = [.number (.ok (.natural n))] := by
      have front := Json.tokens_digits_append word ends
      rwa [List.append_nil, Json.tokens] at front
    have kind : ofNumber (.natural n) = .integer (.ofNat n) := if_pos fits
    rw [intChars, ofJson_of_tokens cut rfl]
    show Except.ok (ofNumber (.natural n)) = _
    rw [kind, ← back]
    rfl
  | negSucc n =>
    rw [number] at low back
    have fits : n + 1 ≤ 2 ^ 63 := by
      rw [Int.negSucc_eq] at low
      omega
    have cut : Json.tokens ('-' :: Nat.toDigits 10 (n + 1)) =
        [.number (.ok (.negative (-(n + 1 : Nat))))] := by
      have front := Json.tokens_negative_append (Nat.succ_pos n) fits ends
      rwa [List.append_nil, Json.tokens] at front
    rw [intChars, ofJson_of_tokens cut rfl, ← back]
    rfl

/-- Bytes are read back from an array. -/
theorem ofJson_bytes (bytes : List UInt8) :
    ofJson (Value.blob bytes).toJson = .ok (.blob bytes) := by
  rw [toJson, jsonChars, ofJson_of_run (Json.spells_bytes bytes).run]
  have sound : (Json.array (Json.itemsOf (bytes.map Json.byteItem).reverse .done)).fault?
      Json.depthLimit = none := by
    rw [Json.fault?, if_neg (by decide), Json.itemsFault?_bytes]
  unfold readJson
  rw [sound]
  simp only [ofTree?, bytes?_itemsOf, Option.map_some]

/-- What is left of a value in JSON: a date is a text there, and every other value is itself. -/
def inJson : Value → Value
  | .date d => .text d.text
  | value => value

/-- A value that is no real number is read back from its JSON as itself, or, if it is a date, as the
text of its written form. -/
theorem ofJson_toJson (value : Value) (exact : ∀ x, value ≠ .real x) :
    ofJson value.toJson = .ok value.inJson := by
  cases value with
  | null =>
    have cut : Json.tokens Json.writeNull = [.null] := by
      have front := Json.tokens_writeNull_append []
      rwa [List.append_nil, Json.tokens] at front
    exact ofJson_of_tokens cut rfl
  | integer i => exact ofJson_intChars i
  | real x => exact absurd rfl (exact x)
  | text s =>
    show ofJson (String.ofList (Json.writeText s.toList)) = .ok (.text s)
    rw [ofJson_writeText, String.ofList_toList]
  | boolean b =>
    have cut : Json.tokens (Json.writeBool b) = [.bool b] := by
      have front := Json.tokens_writeBool_append b []
      rwa [List.append_nil, Json.tokens] at front
    exact ofJson_of_tokens cut rfl
  | date d => exact ofJson_writeText d.chars
  | blob bytes => exact ofJson_bytes bytes

/-- The least integer keeps its value, and a text that spells a date stays a text. -/
theorem ofJson_toJson_least_and_text :
    (∀ x, Value.integer Int64.minValue ≠ .real x) ∧ (∀ x, Value.text "1996-07-04" ≠ .real x) ∧
      ofJson (Value.integer Int64.minValue).toJson = .ok (.integer Int64.minValue) ∧
      ofJson (Value.text "1996-07-04").toJson = .ok (.text "1996-07-04") :=
  have integer : ∀ x, Value.integer Int64.minValue ≠ .real x := fun _ => nofun
  have text : ∀ x, Value.text "1996-07-04" ≠ .real x := fun _ => nofun
  ⟨integer, text, ofJson_toJson _ integer, ofJson_toJson _ text⟩

end Value

end TypedQuery
