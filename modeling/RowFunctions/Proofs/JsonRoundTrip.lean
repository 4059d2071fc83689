import RowFunctions.Proofs.JsonTokens

/-!
# Printed documents are read back

Every document whose strings all have a text is read back from its print, however
deep it nests.  The proof follows the printer through elements and members; the
reader's fuel stays above the length of the text that is left.
-/

namespace RowFunctions

namespace Json

mutual

/-- Every string in a document, also every key, has a text. -/
def HasTexts : Json → Prop
  | .string contents => contents.isSome
  | .array elements => AllHaveTexts elements
  | .object members => MembersHaveTexts members
  | _ => True

def AllHaveTexts : List Json → Prop
  | [] => True
  | element :: elements => HasTexts element ∧ AllHaveTexts elements

/-- Every key and every string in the values of members has a text. -/
def MembersHaveTexts : List (Option String × Json) → Prop
  | [] => True
  | (key, entry) :: members => key.isSome ∧ HasTexts entry ∧ MembersHaveTexts members

end

end Json

namespace JsonReader

open JsonPrinter

theorem skipBlanks_cons {character : Char} (visible : isBlank character = false)
    (text : List Char) : skipBlanks (character :: text) = character :: text := by
  simp [skipBlanks, visible]

@[simp]
theorem skipBlanks_newLine (level : Nat) (text : List Char) :
    skipBlanks (newLine level ++ text) = skipBlanks text := by
  have blank : ∀ character ∈ newLine level, isBlank character = true := by
    intro character member
    rw [newLine, List.mem_cons, List.mem_replicate] at member
    rcases member with rfl | ⟨-, rfl⟩ <;> rfl
  exact List.dropWhile_append_of_pos blank

theorem length_newLine (level : Nat) : (newLine level).length = 2 * level + 1 := by
  simp [newLine]

theorem followsValue_newLine (level : Nat) (text : List Char) :
    FollowsValue (newLine level ++ text) := by
  intro character head
  exact .inr (Option.some.inj head).symm

theorem followsValue_moreElements (level : Nat) (elements : List Json) {text : List Char}
    (follows : FollowsValue text) : FollowsValue (moreElements level elements text) := by
  cases elements with
  | nil => exact follows
  | cons element elements =>
      intro character head
      exact .inl (Option.some.inj head).symm

theorem followsValue_moreMembers (level : Nat) (members : List (Option String × Json))
    {text : List Char} (follows : FollowsValue text) :
    FollowsValue (moreMembers level members text) := by
  cases members with
  | nil => exact follows
  | cons member members =>
      intro character head
      exact .inl (Option.some.inj head).symm

theorem value_eq_cons (level : Nat) (document : Json) (rest : List Char) :
    ∃ character more, value level document rest = character :: more ∧
      isBlank character = false ∧ character ≠ ']' := by
  cases document with
  | null => exact ⟨_, _, rfl, rfl, by decide⟩
  | boolean truth => cases truth <;> exact ⟨_, _, rfl, rfl, by decide⟩
  | number literal =>
      obtain ⟨character, more, printed, visible, start⟩ := number_eq_cons literal
      refine ⟨character, more ++ rest, by rw [value, printed]; rfl, visible, ?_⟩
      rintro rfl
      exact start (by decide)
  | string contents => exact ⟨_, _, rfl, rfl, by decide⟩
  | array elements => cases elements <;> exact ⟨_, _, rfl, rfl, by decide⟩
  | object members => cases members <;> exact ⟨_, _, rfl, rfl, by decide⟩

mutual

theorem length_lt_value (level : Nat) (document : Json) (rest : List Char) :
    rest.length < (value level document rest).length := by
  cases document with
  | null =>
      simp only [value, List.length_cons]
      omega
  | boolean truth =>
      cases truth <;> simp only [value, List.length_cons] <;> omega
  | number literal =>
      obtain ⟨character, more, printed, -⟩ := number_eq_cons literal
      simp only [value, printed, List.length_append, List.length_cons]
      omega
  | string contents =>
      simp only [value, quoted, List.length_append, List.length_cons]
      omega
  | array elements =>
      cases elements with
      | nil =>
          simp only [value, List.length_cons]
          omega
      | cons element elements =>
          have first := length_lt_value (level + 1) element
            (moreElements (level + 1) elements (newLine level ++ ']' :: rest))
          have others := length_le_moreElements (level + 1) elements
            (newLine level ++ ']' :: rest)
          simp only [value, List.length_cons, List.length_append] at first others ⊢
          omega
  | object members =>
      cases members with
      | nil =>
          simp only [value, List.length_cons]
          omega
      | cons member members =>
          obtain ⟨key, entry⟩ := member
          have first := length_lt_value (level + 1) entry
            (moreMembers (level + 1) members (newLine level ++ '\x7d' :: rest))
          have others := length_le_moreMembers (level + 1) members
            (newLine level ++ '\x7d' :: rest)
          simp only [value, List.length_cons, List.length_append] at first others ⊢
          omega

theorem length_le_moreElements (level : Nat) (elements : List Json) (rest : List Char) :
    rest.length ≤ (moreElements level elements rest).length := by
  cases elements with
  | nil => exact Nat.le_refl _
  | cons element elements =>
      have first := length_lt_value level element (moreElements level elements rest)
      have others := length_le_moreElements level elements rest
      simp only [moreElements, List.length_cons, List.length_append]
      omega

theorem length_le_moreMembers (level : Nat) (members : List (Option String × Json))
    (rest : List Char) : rest.length ≤ (moreMembers level members rest).length := by
  cases members with
  | nil => exact Nat.le_refl _
  | cons member members =>
      obtain ⟨key, entry⟩ := member
      have first := length_lt_value level entry (moreMembers level members rest)
      have others := length_le_moreMembers level members rest
      simp only [moreMembers, List.length_cons, List.length_append]
      omega

end

theorem skipBlanks_value (level : Nat) (document : Json) (rest : List Char) :
    skipBlanks (value level document rest) = value level document rest := by
  obtain ⟨character, more, printed, visible, -⟩ := value_eq_cons level document rest
  rw [printed, skipBlanks_cons visible]

/-- Blanks before a value do not matter. -/
theorem readValue_of_skipBlanks {text other : List Char}
    (same : skipBlanks text = skipBlanks other) (fuel : Nat) :
    readValue fuel text = readValue fuel other := by
  cases fuel with
  | zero => rfl
  | succ fuel => simp only [readValue, same]

theorem readElements_newLine (fuel level : Nat) (text : List Char) :
    readElements fuel (newLine level ++ text) = readElements fuel text := by
  cases fuel with
  | zero => rfl
  | succ fuel =>
      have same := readValue_of_skipBlanks (skipBlanks_newLine level text) fuel
      simp only [readElements, same]

theorem readMembers_newLine (fuel level : Nat) (text : List Char) :
    readMembers fuel (newLine level ++ text) = readMembers fuel text := by
  cases fuel with
  | zero => rfl
  | succ fuel => simp only [readMembers, skipBlanks_newLine]

theorem readValue_number (fuel : Nat) (literal : NumberLiteral) {rest : List Char}
    (follows : FollowsValue rest) :
    readValue (fuel + 1) (number literal ++ rest) = some (.number literal, rest) := by
  have read := readNumber_number literal follows
  obtain ⟨character, more, printed, visible, start⟩ := number_eq_cons literal
  rw [printed, List.cons_append] at read ⊢
  rw [readValue, skipBlanks_cons visible]
  split <;> simp_all

theorem readValue_string (fuel : Nat) (text : String) (rest : List Char) :
    readValue (fuel + 1) (quoted text.toList ++ rest) = some (.string text, rest) := by
  rw [quoted, List.cons_append, readValue, skipBlanks_cons rfl]
  simp [readString_quoted]

theorem readValue_array {fuel : Nat} {text inside rest : List Char} {elements : List Json}
    (inner : skipBlanks text = inside) (more : ∀ others, inside ≠ ']' :: others)
    (read : readElements fuel inside = some (elements, rest)) :
    readValue (fuel + 1) ('[' :: text) = some (.array elements, rest) := by
  rw [readValue, skipBlanks_cons rfl]
  simp [inner, read]

theorem readValue_object {fuel : Nat} {text inside rest : List Char}
    {members : List (Option String × Json)} (inner : skipBlanks text = '"' :: inside)
    (read : readMembers fuel ('"' :: inside) = some (members, rest)) :
    readValue (fuel + 1) ('\x7b' :: text) = some (.object members, rest) := by
  rw [readValue, skipBlanks_cons rfl]
  simp [inner, read]

theorem readElements_last {fuel : Nat} {text next rest : List Char} {element : Json}
    (first : readValue fuel text = some (element, next))
    (closed : skipBlanks next = ']' :: rest) :
    readElements (fuel + 1) text = some ([element], rest) := by
  simp [readElements, first, closed]

theorem readElements_more {fuel : Nat} {text next inside rest : List Char} {element : Json}
    {elements : List Json} (first : readValue fuel text = some (element, next))
    (continued : skipBlanks next = ',' :: inside)
    (others : readElements fuel inside = some (elements, rest)) :
    readElements (fuel + 1) text = some (element :: elements, rest) := by
  simp [readElements, first, continued, others]

theorem readMembers_last {fuel : Nat} {key : String} {text next rest : List Char} {entry : Json}
    (first : readValue fuel text = some (entry, next))
    (closed : skipBlanks next = '\x7d' :: rest) :
    readMembers (fuel + 1) (quoted key.toList ++ ':' :: text) =
      some ([(some key, entry)], rest) := by
  have colon : skipBlanks (':' :: text) = ':' :: text := skipBlanks_cons rfl text
  rw [quoted, List.cons_append, readMembers, skipBlanks_cons rfl]
  simp [readString_quoted, colon, first, closed]

theorem readMembers_more {fuel : Nat} {key : String} {text next inside rest : List Char}
    {entry : Json} {members : List (Option String × Json)}
    (first : readValue fuel text = some (entry, next))
    (continued : skipBlanks next = ',' :: inside)
    (others : readMembers fuel inside = some (members, rest)) :
    readMembers (fuel + 1) (quoted key.toList ++ ':' :: text) =
      some ((some key, entry) :: members, rest) := by
  have colon : skipBlanks (':' :: text) = ':' :: text := skipBlanks_cons rfl text
  rw [quoted, List.cons_append, readMembers, skipBlanks_cons rfl]
  simp [readString_quoted, colon, first, continued, others]

mutual

/-- A printed value is read back, whatever may stand behind it. -/
theorem readValue_value (level : Nat) (document : Json) (texts : document.HasTexts)
    {fuel : Nat} {rest : List Char} (follows : FollowsValue rest)
    (enough : (value level document rest).length < fuel) :
    readValue fuel (value level document rest) = some (document, rest) := by
  -- The induction is on the fuel, which every part of a value finds reduced by one;
  -- the brackets and new lines around the part shorten the text by more.
  obtain ⟨fuel, rfl⟩ := Nat.exists_eq_succ_of_ne_zero (Nat.ne_zero_of_lt enough)
  cases document with
  | null => rfl
  | boolean truth => cases truth <;> rfl
  | number literal => exact readValue_number fuel literal follows
  | string contents =>
      obtain ⟨text, rfl⟩ := Option.isSome_iff_exists.mp texts
      exact readValue_string fuel text rest
  | array elements =>
      cases elements with
      | nil => rfl
      | cons element elements =>
          have inside := skipBlanks_value (level + 1) element
            (moreElements (level + 1) elements (newLine level ++ ']' :: rest))
          apply readValue_array
            ((skipBlanks_newLine (level + 1) _).trans inside)
          · obtain ⟨character, more, printed, -, opens⟩ := value_eq_cons (level + 1) element
              (moreElements (level + 1) elements (newLine level ++ ']' :: rest))
            rw [printed]
            intro others same
            exact opens (List.cons.inj same).1
          · apply readElements_elements (level + 1) element elements texts
            simp only [value, List.length_cons, List.length_append, length_newLine] at enough
            omega
  | object members =>
      cases members with
      | nil => rfl
      | cons member members =>
          obtain ⟨key, entry⟩ := member
          obtain ⟨named, texts⟩ := texts
          obtain ⟨key, rfl⟩ := Option.isSome_iff_exists.mp named
          apply readValue_object (skipBlanks_newLine (level + 1) _)
          apply readMembers_members (level + 1) key entry members texts
          simp only [value, List.length_cons, List.length_append, length_newLine] at enough
          omega
termination_by fuel

theorem readElements_elements (level : Nat) (element : Json) (elements : List Json)
    (texts : element.HasTexts ∧ Json.AllHaveTexts elements)
    {fuel outer : Nat} {rest : List Char}
    (enough : (value level element
      (moreElements level elements (newLine outer ++ ']' :: rest))).length + 1 < fuel) :
    readElements fuel (value level element
      (moreElements level elements (newLine outer ++ ']' :: rest))) =
        some (element :: elements, rest) := by
  obtain ⟨fuel, rfl⟩ := Nat.exists_eq_succ_of_ne_zero (Nat.ne_zero_of_lt enough)
  have closes := followsValue_newLine outer (']' :: rest)
  have first := readValue_value level element texts.1
    (followsValue_moreElements level elements closes) (Nat.lt_of_succ_lt_succ enough)
  cases elements with
  | nil => exact readElements_last first (skipBlanks_newLine outer _)
  | cons next elements =>
      apply readElements_more first rfl
      rw [readElements_newLine]
      apply readElements_elements level next elements texts.2
      have longer := length_lt_value level element
        (moreElements level (next :: elements) (newLine outer ++ ']' :: rest))
      have nextFits : (value level next
          (moreElements level elements (newLine outer ++ ']' :: rest))).length + 2 ≤
            (moreElements level (next :: elements) (newLine outer ++ ']' :: rest)).length := by
        simp only [moreElements, List.length_cons, List.length_append, length_newLine]
        omega
      omega
termination_by fuel

theorem readMembers_members (level : Nat) (key : String) (entry : Json)
    (members : List (Option String × Json))
    (texts : entry.HasTexts ∧ Json.MembersHaveTexts members)
    {fuel outer : Nat} {rest : List Char}
    (enough : (value level entry
      (moreMembers level members (newLine outer ++ '\x7d' :: rest))).length + 1 < fuel) :
    readMembers fuel (quoted key.toList ++ (':' :: ' ' :: value level entry
      (moreMembers level members (newLine outer ++ '\x7d' :: rest)))) =
        some ((some key, entry) :: members, rest) := by
  obtain ⟨fuel, rfl⟩ := Nat.exists_eq_succ_of_ne_zero (Nat.ne_zero_of_lt enough)
  have closes := followsValue_newLine outer ('\x7d' :: rest)
  have first : readValue fuel (' ' :: value level entry
      (moreMembers level members (newLine outer ++ '\x7d' :: rest))) =
        some (entry, moreMembers level members (newLine outer ++ '\x7d' :: rest)) :=
    (readValue_of_skipBlanks (by rfl) fuel).trans
      (readValue_value level entry texts.1 (followsValue_moreMembers level members closes)
        (Nat.lt_of_succ_lt_succ enough))
  cases members with
  | nil => exact readMembers_last first (skipBlanks_newLine outer _)
  | cons next members =>
      obtain ⟨nextKey, nextEntry⟩ := next
      obtain ⟨named, moreTexts⟩ := texts.2
      obtain ⟨nextKey, rfl⟩ := Option.isSome_iff_exists.mp named
      apply readMembers_more first rfl
      rw [readMembers_newLine]
      apply readMembers_members level nextKey nextEntry members moreTexts
      have longer := length_lt_value level entry
        (moreMembers level ((some nextKey, nextEntry) :: members)
          (newLine outer ++ '\x7d' :: rest))
      have nextFits : (value level nextEntry
          (moreMembers level members (newLine outer ++ '\x7d' :: rest))).length + 2 ≤
            (moreMembers level ((some nextKey, nextEntry) :: members)
              (newLine outer ++ '\x7d' :: rest)).length := by
        simp only [moreMembers, List.length_cons, List.length_append, length_newLine]
        omega
      omega
termination_by fuel

end

end JsonReader

/-- A document whose strings all have a text is read back from its print. -/
theorem Json.parse?_pretty {document : Json} (texts : document.HasTexts) :
    Json.parse? document.pretty = some document := by
  have follows : JsonReader.FollowsValue [] := by
    intro character head
    contradiction
  have read := JsonReader.readValue_value 0 document texts follows (Nat.lt_succ_self _)
  rw [parse?, pretty, String.length_ofList, String.toList_ofList, read]
  rfl

end RowFunctions
