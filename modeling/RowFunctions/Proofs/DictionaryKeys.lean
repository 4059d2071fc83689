import RowFunctions.DictionaryCatalogs
import RowFunctions.Proofs.DecimalDigits

/-!
# Keys that name dictionaries

A key of a dictionary document names a dictionary by a decimal numeral with blanks
around it.  This file says what the numerals are: an optional sign and one or more
digits, with any number of leading zeros, that denote a signed word.  The readers
accept exactly these, so each identifier has many spellings and each key names at most
one identifier.
-/

namespace RowFunctions

namespace Digit

theorem eq_toChar_of_ofChar? {character : Char} {digit : Digit}
    (read : ofChar? character = some digit) : character = digit.toChar := by
  unfold ofChar? at read
  split at read
  · next bounds =>
      obtain rfl := Option.some.inj read
      apply Char.ext
      apply UInt32.toNat_inj.mp
      have small : character.toNat - 48 + 48 < 58 := by omega
      simp only [toChar]
      rw [← Char.toNat, ← Char.toNat, Char.toNat_ofNat, if_pos (by left; omega)]
      omega
  · contradiction

/-- A run of digits together with what follows it is the text. -/
theorem eq_append_of_span {text rest : List Char} {digits : List Digit}
    (split : span text = (digits, rest)) : text = digits.map toChar ++ rest := by
  induction text generalizing digits with
  | nil =>
      obtain ⟨rfl, rfl⟩ := Prod.mk.inj split
      rfl
  | cons character text ih =>
      rw [span] at split
      cases read : ofChar? character with
      | none =>
          rw [read] at split
          obtain ⟨rfl, rfl⟩ := Prod.mk.inj split
          rfl
      | some digit =>
          rw [read] at split
          obtain ⟨rfl, rfl⟩ := Prod.mk.inj split
          rw [List.map_cons, List.cons_append, ← ih rfl, ← eq_toChar_of_ofChar? read]

end Digit

namespace Numeral

/-- A text spells an integer by one or more decimal digits behind an optional sign. -/
inductive Spells : List Char → Int → Prop
  | plain (digits : List Digit) (written : digits ≠ []) :
      Spells (digits.map Digit.toChar) (Digit.value digits)
  | plus (digits : List Digit) (written : digits ≠ []) :
      Spells ('+' :: digits.map Digit.toChar) (Digit.value digits)
  | minus (digits : List Digit) (written : digits ≠ []) :
      Spells ('-' :: digits.map Digit.toChar) (-(Digit.value digits : Int))

theorem toNat?_eq_some_iff (text : List Char) (number : Nat) :
    toNat? text = some number ↔
      ∃ digits, digits ≠ [] ∧ text = digits.map Digit.toChar ∧ number = Digit.value digits := by
  constructor
  · intro read
    unfold toNat? at read
    split at read
    · next digit digits split =>
        obtain rfl := Option.some.inj read
        exact ⟨digit :: digits, by simp, by simpa using Digit.eq_append_of_span split, rfl⟩
    · contradiction
  · rintro ⟨digits, written, rfl, rfl⟩
    have ends : Digit.EndsDigits [] := by simp [Digit.EndsDigits]
    have split := Digit.span_map_toChar digits ends
    rw [List.append_nil] at split
    obtain ⟨digit, others, rfl⟩ := List.exists_cons_of_ne_nil written
    rw [toNat?, split]

theorem toInt?_eq_some_iff (text : List Char) (number : Int) :
    toInt? text = some number ↔ Spells text number := by
  constructor
  · intro read
    unfold toInt? at read
    split at read
    · obtain ⟨magnitude, digitsRead, rfl⟩ := Option.map_eq_some_iff.mp read
      obtain ⟨digits, written, rfl, rfl⟩ := (toNat?_eq_some_iff _ _).mp digitsRead
      exact .plus digits written
    · obtain ⟨magnitude, digitsRead, rfl⟩ := Option.map_eq_some_iff.mp read
      obtain ⟨natural, naturalRead, same⟩ := Option.bind_eq_some_iff.mp digitsRead
      obtain rfl := Option.some.inj same
      obtain ⟨digits, written, rfl, rfl⟩ := (toNat?_eq_some_iff _ _).mp naturalRead
      exact .minus digits written
    · obtain ⟨magnitude, digitsRead, rfl⟩ := Option.map_eq_some_iff.mp read
      obtain ⟨digits, written, rfl, rfl⟩ := (toNat?_eq_some_iff _ _).mp digitsRead
      exact .plain digits written
  · intro spelled
    cases spelled with
    | plus digits written =>
        rw [toInt?, (toNat?_eq_some_iff _ _).mpr ⟨digits, written, rfl, rfl⟩]
        rfl
    | minus digits written =>
        rw [toInt?, (toNat?_eq_some_iff _ _).mpr ⟨digits, written, rfl, rfl⟩]
        rfl
    | plain digits written =>
        have read := (toNat?_eq_some_iff _ _).mpr ⟨digits, written, rfl, rfl⟩
        obtain ⟨digit, others, rfl⟩ := List.exists_cons_of_ne_nil written
        have unsigned : ∀ digit : Digit, digit.toChar ≠ '+' ∧ digit.toChar ≠ '-' := by decide
        rw [List.map_cons] at read ⊢
        rw [toInt?, read]
        · rfl
        · exact fun _ same => (unsigned digit).1 (List.cons.inj same).1
        · exact fun _ same => (unsigned digit).2 (List.cons.inj same).1

theorem toInt32?_eq_some_iff (text : List Char) (word : Int32) :
    toInt32? text = some word ↔ Spells text word.toInt := by
  have smallest : Int32.minValue.toInt = -2 ^ 31 := by decide
  have largest : Int32.maxValue.toInt = 2 ^ 31 - 1 := by decide
  rw [← toInt?_eq_some_iff]
  constructor
  · intro read
    unfold toInt32? at read
    split at read
    · next number spelled =>
        split at read
        · next bounds =>
            obtain rfl := Option.some.inj read
            rw [spelled, Int32.toInt_ofInt_of_le (by omega) (by omega)]
        · contradiction
    · contradiction
  · intro spelled
    rw [toInt32?, spelled]
    simp only [Int32.minValue_le_toInt, Int32.toInt_le, and_self, if_true, Int32.ofInt_toInt]

/-- Numerals have no blanks. -/
theorem Spells.isBlank_eq_false {text : List Char} {number : Int} (spelled : Spells text number) :
    ∀ character ∈ text, isBlank character = false := by
  have digitsSolid (digits : List Digit) :
      ∀ character ∈ digits.map Digit.toChar, isBlank character = false := by
    intro character member
    obtain ⟨digit, -, rfl⟩ := List.mem_map.mp member
    have solid : ∀ digit : Digit, isBlank digit.toChar = false := by decide
    exact solid digit
  cases spelled with
  | plain digits written => exact digitsSolid digits
  | plus digits written => exact List.forall_mem_cons.mpr ⟨by decide, digitsSolid digits⟩
  | minus digits written => exact List.forall_mem_cons.mpr ⟨by decide, digitsSolid digits⟩

end Numeral

/-- Trimming takes nothing but blanks away. -/
theorem exists_eq_append_trimBlanks (text : List Char) :
    ∃ before after, (∀ character ∈ before ++ after, isBlank character = true) ∧
      text = before ++ trimBlanks text ++ after := by
  have rear := List.takeWhile_append_dropWhile (p := isBlank)
    (l := (text.dropWhile isBlank).reverse)
  refine ⟨text.takeWhile isBlank,
    ((text.dropWhile isBlank).reverse.takeWhile isBlank).reverse, ?_, ?_⟩
  · intro character member
    rw [List.mem_append, List.mem_reverse] at member
    rcases member with front | back
    · exact List.mem_takeWhile_imp front
    · exact List.mem_takeWhile_imp back
  · rw [trimBlanks, List.append_assoc, ← List.reverse_append, rear, List.reverse_reverse,
      List.takeWhile_append_dropWhile]

/-- Blanks around a text without blanks are trimmed. -/
theorem trimBlanks_append {before core after : List Char}
    (blank : ∀ character ∈ before ++ after, isBlank character = true)
    (solid : ∀ character ∈ core, isBlank character = false) :
    trimBlanks (before ++ core ++ after) = core := by
  have front : ∀ character ∈ before, isBlank character = true :=
    fun character member => blank character (List.mem_append_left _ member)
  have back : ∀ character ∈ after.reverse, isBlank character = true :=
    fun character member => blank character
      (List.mem_append_right _ (List.mem_reverse.mp member))
  have kept (text : List Char) (none : ∀ character ∈ text, isBlank character = false) :
      text.dropWhile isBlank = text := by
    cases text with
    | nil => rfl
    | cons character text => rw [List.dropWhile_cons_of_neg (by simp [none])]
  rw [trimBlanks, List.append_assoc, List.dropWhile_append_of_pos front]
  cases core with
  | nil =>
      have allBlank : ∀ character ∈ after, isBlank character = true :=
        fun character member => back character (List.mem_reverse.mpr member)
      rw [List.nil_append, List.dropWhile_eq_nil_iff.mpr allBlank]
      rfl
  | cons first core =>
      rw [List.cons_append, List.dropWhile_cons_of_neg (by simp [solid]), ← List.cons_append,
        List.reverse_append, List.dropWhile_append_of_pos back, kept, List.reverse_reverse]
      exact fun character member => solid character (List.mem_reverse.mp member)

namespace DictionaryCatalog

/-- A key names an identifier by a numeral with blanks around it. -/
def Names (key : String) (id : DictionaryId) : Prop :=
  ∃ before numeral after, (∀ character ∈ before ++ after, isBlank character = true) ∧
    key.toList = before ++ numeral ++ after ∧ Numeral.Spells numeral id.toInt

theorem keyId?_eq_some_iff (key : String) (id : DictionaryId) :
    keyId? key = some id ↔ Names key id := by
  rw [keyId?, Numeral.toInt32?_eq_some_iff]
  constructor
  · intro spelled
    obtain ⟨before, after, blank, same⟩ := exists_eq_append_trimBlanks key.toList
    exact ⟨before, _, after, blank, same, spelled⟩
  · rintro ⟨before, numeral, after, blank, same, spelled⟩
    rwa [same, trimBlanks_append blank spelled.isBlank_eq_false]

theorem keyId?_eq_none_iff (key : String) : keyId? key = none ↔ ∀ id, ¬ Names key id := by
  simp only [Option.eq_none_iff_forall_ne_some, ne_eq, keyId?_eq_some_iff]

/-- A key names at most one dictionary. -/
theorem Names.unique {key : String} {id other : DictionaryId} (one : Names key id)
    (two : Names key other) : id = other := by
  rw [← keyId?_eq_some_iff] at one two
  exact Option.some.inj (one.symm.trans two)

/-- Signs, zeros and blanks make no difference; the identifiers end with the signed
words. -/
example : keyId? "\u2003-007 " = keyId? "-7" ∧ keyId? "-0" = keyId? "+0" ∧
    keyId? "2147483648" = none ∧ keyId? "+-1" = none := by
  decide +kernel

end DictionaryCatalog

end RowFunctions
