import TypedQuery.Json.Tree
import TypedQuery.Proofs.Json.Tokens

/-!
# Texts that spell values

A text spells a JSON value if it is read as that value wherever one is wanted, inside of whatever
arrays and objects are open (`Spells`). A text that is one token does, and so does an object of
spelled values (`spells_writeObject`): its keys are read as the names that were written, one for
each value and in the same order. A document that spells a value is that value and nothing else
(`Spells.document`).
-/

namespace TypedQuery.Json

/-- Items with a separator between them are the first one and each other one behind a
separator. -/
theorem intercalate_cons {α : Type} (separator first : List α) (others : List (List α)) :
    separator.intercalate (first :: others) = first ++ others.flatMap (separator ++ ·) := by
  induction others generalizing first with
  | nil => simp [List.intercalate]
  | cons second others ih =>
    rw [List.intercalate_cons_cons, ih, List.flatMap_cons]
    simp only [List.append_assoc]

/-- What is read from a state on with the tokens that are left. -/
def resume : State → List Token → Json × List Token
  | .finished value, rest => (value, rest)
  | .reading need frames, rest => run need frames rest

/-- The pass takes one token and goes on from the state after it. -/
theorem run_cons (need : Need) (frames : List Frame) (token : Token) (rest : List Token) :
    run need frames (token :: rest) = resume (.step need frames token) rest := by
  rw [run]
  cases State.step need frames token with
  | finished value => rfl
  | reading need frames => rfl

/-- The text of a value: where a value is wanted, it is read as that value, whatever follows it but
what could go on a number. -/
def Spells (chars : List Char) (value : Json) : Prop :=
  ∀ (frames : List Frame) (rest : List Char), EndsNumber rest →
    run .value frames (tokens (chars ++ rest)) = resume (.after value frames) (tokens rest)

/-- A text that is one token spells the value that starts and ends with the token. -/
theorem spells_of_token {chars : List Char} {token : Token} {value : Json}
    (cut : ∀ rest, EndsNumber rest → tokens (chars ++ rest) = token :: tokens rest)
    (begins : ∀ frames, State.begin token frames = .after value frames) : Spells chars value := by
  intro frames rest ends
  rw [cut rest ends, run_cons]
  exact congrArg (resume · (tokens rest)) (begins frames)

/-- The word for the absence of a value spells it. -/
theorem spells_writeNull : Spells writeNull .null :=
  spells_of_token (fun rest _ => tokens_writeNull_append rest) fun _ => rfl

/-- The word for a truth value spells it. -/
theorem spells_writeBool (b : Bool) : Spells (writeBool b) (.bool b) :=
  spells_of_token (fun rest _ => tokens_writeBool_append b rest) fun _ => rfl

/-- A written string spells the text, whatever characters are in it. -/
theorem spells_writeText (text : List Char) : Spells (writeText text) (.text (.ok text)) :=
  spells_of_token (fun rest _ => tokens_writeText_append text rest) fun _ => rfl

/-- A number that is spelled as JSON wants it spells its value. -/
theorem spells_number {s : Spelling} (lawful : s.IsLawful) : Spells s.chars (.number s.value) :=
  spells_of_token (fun _ ends => tokens_chars_append lawful ends) fun _ => rfl

/-- A text that spells a value is read as the value, and nothing is left. -/
theorem Spells.run {chars : List Char} {value : Json} (spells : Spells chars value) :
    Json.run .value [] (tokens chars) = (value, []) := by
  have ends : EndsNumber [] := fun c none => by simp at none
  have whole := spells [] [] ends
  rwa [List.append_nil, tokens] at whole

/-- A text that is read as a value with nothing left is a document of the value alone. -/
theorem document_of_run {chars : List Char} {value : Json}
    (read : run .value [] (tokens chars) = (value, [])) :
    Document.ofChars chars = ⟨value, false⟩ := by
  simp only [Document.ofChars, read]
  rfl

/-- A document that spells a value is that value and nothing else. -/
theorem Spells.document {chars : List Char} {value : Json} (spells : Spells chars value) :
    Document.ofChars chars = ⟨value, false⟩ :=
  document_of_run spells.run

/-! ## Objects -/

/-- The entries of an object that has values under names. -/
def Entries.ofList (members : List (String × Json)) : Entries :=
  members.foldr (fun (name, value) rest => .entry (.ok name.toList) value rest) .done

/-- Members that have been read, the last one first, are in the order of the text again. -/
theorem entriesOf_reverse (members : List (String × Json)) :
    entriesOf (members.map fun (name, value) => ((.ok name.toList : Key), value)).reverse .done =
      .ofList members := by
  unfold entriesOf Entries.ofList
  rw [List.foldl_reverse, List.foldr_map]

section Objects

variable {α : Type} {chars : α → List Char} {tree : α → Json}

/-- A member of an object. -/
def memberChars (chars : α → List Char) (member : String × α) : List Char :=
  writeText member.1.toList ++ ':' :: chars member.2

/-- The members of an object behind the first, each with the comma in front of it, and the end of
the object. -/
def memberTail (chars : α → List Char) (members : List (String × α)) : List Char :=
  members.flatMap (fun member => ',' :: memberChars chars member) ++ ['\x7d']

/-- Behind a member there is a comma or the end of the object. -/
theorem endsNumber_memberTail (members : List (String × α)) (rest : List Char) :
    EndsNumber (memberTail chars members ++ rest) := by
  intro c first
  cases members with
  | nil =>
    obtain rfl : '\x7d' = c := by simpa [memberTail] using first
    decide
  | cons member members =>
    obtain rfl : ',' = c := by simpa [memberTail] using first
    decide

/-- A member of a list as it is read. -/
def readMember (tree : α → Json) (member : String × α) : Key × Json :=
  (.ok member.1.toList, tree member.2)

/-- Where a key is wanted, a member is read, and its value stands under its name. -/
theorem run_memberChars (spells : ∀ a, Spells (chars a) (tree a)) (member : String × α)
    {need : Need} (wanted : need = .key ∨ need = .keyOrEnd) (read : List (Key × Json)) (key : Key)
    (outer : List Frame) {rest : List Char} (ends : EndsNumber rest) :
    run need (.object read key :: outer) (tokens (memberChars chars member ++ rest)) =
      run .comma (.object (readMember tree member :: read) (.ok member.1.toList) :: outer)
        (tokens rest) := by
  have shape : memberChars chars member ++ rest =
      writeText member.1.toList ++ ':' :: (chars member.2 ++ rest) := by
    simp [memberChars]
  have named : State.step need (.object read key :: outer) (.text (.ok member.1.toList)) =
      .reading .colon (.object read (.ok member.1.toList) :: outer) := by
    rcases wanted with rfl | rfl <;> rfl
  rw [shape, tokens_writeText_append, tokens_mark_append (by decide), run_cons, named]
  exact spells member.2 _ rest ends

/-- Behind members that have been read, the tail of an object is read to its end. -/
theorem run_memberTail (spells : ∀ a, Spells (chars a) (tree a)) (members : List (String × α))
    (read : List (Key × Json)) (key : Key) (outer : List Frame) (rest : List Char) :
    run .comma (.object read key :: outer) (tokens (memberTail chars members ++ rest)) =
      resume (.after (.object (entriesOf ((members.map (readMember tree)).reverse ++ read) .done))
        outer) (tokens rest) := by
  induction members generalizing read key with
  | nil =>
    show run .comma (.object read key :: outer) (tokens ('\x7d' :: rest)) = _
    rw [tokens_mark_append (by decide), run_cons]
    rfl
  | cons member members ih =>
    have shape : memberTail chars (member :: members) ++ rest =
        ',' :: (memberChars chars member ++ (memberTail chars members ++ rest)) := by
      simp [memberTail]
    rw [shape, tokens_mark_append (by decide), run_cons]
    show run .key (.object read key :: outer) _ = _
    rw [run_memberChars spells member (.inl rfl) read key outer
      (endsNumber_memberTail members rest), ih, List.map_cons, List.reverse_cons,
      List.append_assoc, List.singleton_append]

/-- An object is written as its first member and a tail. -/
theorem writeObject_cons (member : String × α) (members : List (String × α)) :
    writeObject ((member :: members).map fun (name, a) => (name, chars a)) =
      '\x7b' :: (memberChars chars member ++ memberTail chars members) := by
  rw [writeObject, List.map_map, List.map_cons, intercalate_cons, List.flatMap_map,
    List.cons_append, List.append_assoc]
  rfl

/-- A written object spells the object of what its values spell, each under its name. -/
theorem spells_writeObject (spells : ∀ a, Spells (chars a) (tree a))
    (members : List (String × α)) :
    Spells (writeObject (members.map fun (name, a) => (name, chars a)))
      (.object (.ofList (members.map fun (name, a) => (name, tree a)))) := by
  intro frames rest _
  have entries : entriesOf (members.map (readMember tree)).reverse .done =
      .ofList (members.map fun (name, a) => (name, tree a)) := by
    rw [← entriesOf_reverse, List.map_map]
    rfl
  rw [← entries]
  cases members with
  | nil =>
    show run .value frames (tokens ('\x7b' :: '\x7d' :: rest)) = _
    rw [tokens_mark_append (by decide), tokens_mark_append (by decide), run_cons]
    show run .keyOrEnd (.object [] (.ok []) :: frames) _ = _
    rw [run_cons]
    rfl
  | cons member members =>
    rw [writeObject_cons, List.cons_append, List.append_assoc, tokens_mark_append (by decide),
      run_cons]
    show run .keyOrEnd (.object [] (.ok []) :: frames) _ = _
    rw [run_memberChars spells member (.inr rfl) [] (.ok []) frames
      (endsNumber_memberTail members rest), run_memberTail spells, List.map_cons, List.reverse_cons]

end Objects

end TypedQuery.Json
