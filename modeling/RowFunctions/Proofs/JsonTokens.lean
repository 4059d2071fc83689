import RowFunctions.JsonPrinter
import RowFunctions.JsonReader
import RowFunctions.Proofs.DecimalDigits

/-!
# Printed strings and numbers are read back

A printed string is read back with its quotes, escapes and control characters.
A printed number is read back as its literal when the text behind it cannot go
on with the number, as no printed document does.
-/

namespace RowFunctions

namespace JsonReader

open JsonPrinter

/-- A text that may stand behind a printed value: it is empty or goes on with a
comma or on a new line. -/
def FollowsValue (text : List Char) : Prop :=
  ∀ character ∈ text.head?, character = ',' ∨ character = '\n'

theorem endsDigits_cons {character : Char} (noDigit : Digit.ofChar? character = none)
    (text : List Char) : Digit.EndsDigits (character :: text) := by
  intro first head
  rw [List.head?_cons, Option.mem_some_iff] at head
  exact head ▸ noDigit

theorem FollowsValue.endsDigits {text : List Char} (follows : FollowsValue text) :
    Digit.EndsDigits text := by
  intro character head
  rcases follows character head with rfl | rfl <;> rfl

theorem FollowsValue.readFraction {text : List Char} (follows : FollowsValue text) :
    readFraction text = some ([], text) := by
  cases text with
  | nil => rfl
  | cons character text =>
      rcases follows character rfl with rfl | rfl <;> rfl

theorem FollowsValue.readExponent {text : List Char} (follows : FollowsValue text) :
    readExponent text = some (none, text) := by
  cases text with
  | nil => rfl
  | cons character text =>
      rcases follows character rfl with rfl | rfl <;> rfl

theorem readWhole_ofNat (number : Nat) {rest : List Char} (ends : Digit.EndsDigits rest) :
    readWhole (Numeral.ofNat number ++ rest) = some (number, rest) := by
  obtain ⟨digit, digits, printed⟩ := List.exists_cons_of_ne_nil (Digit.ofNat_ne_nil number)
  have denoted := Digit.value_ofNat number
  have plain : ¬(digit.val = 0 ∧ digits ≠ []) := by
    rintro ⟨zero, more⟩
    exact more (Digit.ofNat_eq_cons_zero printed zero)
  rw [readWhole, Numeral.ofNat, Digit.span_map_toChar _ ends]
  rw [printed] at denoted ⊢
  simp only [if_neg plain, denoted]

theorem readExponentDigits_sign (mark : Char) (negative : Bool)
    (sign : ∀ text, readSign (mark :: text) = (negative, text)) (magnitude : Nat)
    {rest : List Char} (ends : Digit.EndsDigits rest) :
    readExponentDigits (mark :: (Numeral.ofNat magnitude ++ rest)) =
      some (some (if negative then -(magnitude : Int) else magnitude), rest) := by
  obtain ⟨digit, digits, printed⟩ := List.exists_cons_of_ne_nil (Digit.ofNat_ne_nil magnitude)
  have denoted := Digit.value_ofNat magnitude
  simp only [readExponentDigits, sign, Numeral.ofNat, Digit.span_map_toChar _ ends]
  rw [printed] at denoted ⊢
  simp only [denoted]

theorem readExponent_exponent (value : Option Int) {rest : List Char}
    (follows : FollowsValue rest) :
    readExponent (exponent value ++ rest) = some (value, rest) := by
  match value with
  | none => exact follows.readExponent
  | some (.ofNat magnitude) =>
      exact readExponentDigits_sign '+' false (fun _ => rfl) magnitude follows.endsDigits
  | some (.negSucc magnitude) =>
      exact readExponentDigits_sign '-' true (fun _ => rfl) (magnitude + 1) follows.endsDigits

theorem endsDigits_exponent (value : Option Int) {rest : List Char}
    (follows : FollowsValue rest) : Digit.EndsDigits (exponent value ++ rest) := by
  match value with
  | none => exact follows.endsDigits
  | some (.ofNat magnitude) => exact endsDigits_cons rfl _
  | some (.negSucc magnitude) => exact endsDigits_cons rfl _

theorem readFraction_fraction (digits : List Digit) (value : Option Int) {rest : List Char}
    (follows : FollowsValue rest) :
    readFraction (fraction digits ++ (exponent value ++ rest)) =
      some (digits, exponent value ++ rest) := by
  cases digits with
  | nil =>
      match value with
      | none => exact follows.readFraction
      | some (.ofNat magnitude) => rfl
      | some (.negSucc magnitude) => rfl
  | cons digit digits =>
      have read := Digit.span_map_toChar (digit :: digits) (endsDigits_exponent value follows)
      rw [fraction, List.cons_append, readFraction, read]
      · exact fun empty => by cases empty

/-- Printed numbers are read back as their literals. -/
theorem readNumber_number (literal : NumberLiteral) {rest : List Char}
    (follows : FollowsValue rest) :
    readNumber (number literal ++ rest) = some (literal, rest) := by
  obtain ⟨negative, whole, fractionDigits, exponentValue⟩ := literal
  have ends : Digit.EndsDigits
      (fraction fractionDigits ++ (exponent exponentValue ++ rest)) := by
    cases fractionDigits with
    | cons digit digits => exact endsDigits_cons rfl _
    | nil => exact endsDigits_exponent exponentValue follows
  have unsigned : readUnsigned negative (Numeral.ofNat whole ++
      (fraction fractionDigits ++ (exponent exponentValue ++ rest))) =
        some (⟨negative, whole, fractionDigits, exponentValue⟩, rest) := by
    simp [readUnsigned, readWhole_ofNat whole ends, readFraction_fraction _ _ follows,
      readExponent_exponent _ follows]
  cases negative with
  | true => simpa [number, readNumber] using unsigned
  | false =>
      obtain ⟨digit, digits, printed⟩ := List.exists_cons_of_ne_nil (Digit.ofNat_ne_nil whole)
      have noSign : ∀ digit : Digit, digit.toChar ≠ '-' := by decide
      simp only [number, Numeral.ofNat, printed, List.map_cons, List.append_assoc,
        List.cons_append, Bool.false_eq_true, if_false, List.nil_append] at unsigned ⊢
      rw [readNumber]
      · exact unsigned
      · intro text signed
        exact noSign digit (List.cons.inj signed).1

/-- A printed number starts neither with a blank nor like any other value. -/
theorem number_eq_cons (literal : NumberLiteral) :
    ∃ character more, number literal = character :: more ∧ isBlank character = false ∧
      character ∉ ['n', 't', 'f', '"', '[', ']', '\x7b'] := by
  have digitStart : ∀ digit : Digit, isBlank digit.toChar = false ∧
      digit.toChar ∉ ['n', 't', 'f', '"', '[', ']', '\x7b'] := by decide
  obtain ⟨digit, digits, printed⟩ :=
    List.exists_cons_of_ne_nil (Digit.ofNat_ne_nil literal.whole)
  rw [number, Numeral.ofNat, printed]
  cases literal.negative with
  | true => exact ⟨'-', _, rfl, by decide⟩
  | false => exact ⟨digit.toChar, _, rfl, digitStart digit⟩

theorem value?_hexDigit (value : Fin 16) :
    Hexadecimal.value? (hexDigit value) = some value.val := by
  revert value
  decide

theorem readCodes_named {letter : Char} {code : Nat} (escaped : escapedCode? letter = some code)
    (text : List Char) :
    readCodes ('\\' :: letter :: text) =
      (readCodes text).map fun read => (code :: read.1, read.2) := by
  rw [readCodes]
  · rw [escaped]
    cases readCodes text <;> rfl
  · intro first second third fourth rest unicode
    rw [unicode] at escaped
    contradiction

theorem readCodes_unicode {code : Nat} (small : code < 256) (text : List Char) :
    readCodes ('\\' :: 'u' :: '0' :: '0' :: hexDigit (code / 16) :: hexDigit (code % 16) :: text) =
      (readCodes text).map fun read => (code :: read.1, read.2) := by
  have high := value?_hexDigit ⟨code / 16, by omega⟩
  have low := value?_hexDigit ⟨code % 16, by omega⟩
  have zero : Hexadecimal.value? '0' = some 0 := rfl
  have denoted : hexCode? '0' '0' (hexDigit (code / 16)) (hexDigit (code % 16)) = some code := by
    simp only [hexCode?, zero, high, low, bind_pure_comp, Option.bind_eq_bind, Option.bind_some]
    simp
    omega
  rw [readCodes, denoted]
  cases readCodes text <;> rfl

theorem readCodes_plain {character : Char} (noQuote : character ≠ '"')
    (noEscape : character ≠ '\\') (visible : ¬ character.toNat < 32) (text : List Char) :
    readCodes (character :: text) =
      (readCodes text).map fun read => (character.toNat :: read.1, read.2) := by
  rw [readCodes]
  · rw [if_neg visible]
    cases readCodes text <;> rfl
  all_goals simp_all

theorem readCodes_escape (character : Char) (text : List Char) :
    readCodes (escape character ++ text) =
      (readCodes text).map fun read => (character.toNat :: read.1, read.2) := by
  unfold escape
  split_ifs with quote backslash lineFeed tab carriageReturn backspace formFeed control
  · subst quote
    exact readCodes_named rfl text
  · subst backslash
    exact readCodes_named rfl text
  · subst lineFeed
    exact readCodes_named rfl text
  · subst tab
    exact readCodes_named rfl text
  · subst carriageReturn
    exact readCodes_named rfl text
  · rw [backspace]
    exact readCodes_named rfl text
  · rw [formFeed]
    exact readCodes_named rfl text
  · exact readCodes_unicode (by omega) text
  · exact readCodes_plain quote backslash control text

theorem readCodes_flatMap_escape (text rest : List Char) :
    readCodes (text.flatMap escape ++ '"' :: rest) = some (text.map Char.toNat, rest) := by
  induction text with
  | nil => rfl
  | cons character text ih =>
      rw [List.flatMap_cons, List.append_assoc, readCodes_escape, ih]
      rfl

/-- The codes of characters are no surrogates, so they give the characters back. -/
theorem textOfCodes?_map_toNat (text : List Char) :
    textOfCodes? (text.map Char.toNat) = some text := by
  induction text with
  | nil => rfl
  | cons character text ih =>
      have valid : character.toNat.isValidChar := character.valid
      have noLead : ¬(0xD800 ≤ character.toNat ∧ character.toNat < 0xDC00) := by
        unfold Nat.isValidChar at valid
        omega
      have noTrail : ¬(0xDC00 ≤ character.toNat ∧ character.toNat < 0xE000) := by
        unfold Nat.isValidChar at valid
        omega
      rw [List.map_cons]
      unfold textOfCodes?
      simp only [if_neg noLead, if_neg noTrail, ih, Char.ofNat_toNat, Option.map_some]

/-- Printed strings are read back. -/
theorem readString_quoted (text : String) (rest : List Char) :
    readString (text.toList.flatMap escape ++ '"' :: rest) = some (some text, rest) := by
  rw [readString, readCodes_flatMap_escape]
  simp [textOfCodes?_map_toNat]

end JsonReader

end RowFunctions
