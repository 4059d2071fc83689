import Mathlib

/-!
# The order of texts by their bytes

Texts are compared by their code points, while a table that is ordered by encoded
texts compares bytes.  The two orders are the same: in UTF-8 a greater code point has a
code that is greater where the two codes first differ, and no code is the beginning of
another.
-/

namespace RowFunctions

/-- The bytes of a text in UTF-8. -/
def utf8Bytes (text : String) : List UInt8 := text.toUTF8.data.toList

theorem utf8Bytes_eq_flatMap (text : String) :
    utf8Bytes text = text.toList.flatMap String.utf8EncodeChar := by
  have encoded : text.toUTF8 = (text.toList.flatMap String.utf8EncodeChar).toByteArray := by
    conv_lhs => rw [← String.ofList_toList (s := text)]
    rfl
  rw [utf8Bytes, encoded]
  simp

theorem ofNat_cons_lt_iff {first second : Nat} (small : first < 256) (alsoSmall : second < 256)
    (rest others : List UInt8) :
    UInt8.ofNat first :: rest < UInt8.ofNat second :: others ↔
      first < second ∨ first = second ∧ rest < others := by
  rw [List.cons_lt_cons_iff, UInt8.lt_iff_toNat_lt, ← UInt8.toNat_inj, UInt8.toNat_ofNat',
    UInt8.toNat_ofNat', Nat.mod_eq_of_lt small, Nat.mod_eq_of_lt alsoSmall]

/-- The code of a greater code point is greater, whatever follows. -/
theorem utf8EncodeChar_append_lt {smaller greater : Char} (less : smaller < greater)
    (rest others : List UInt8) :
    String.utf8EncodeChar smaller ++ rest < String.utf8EncodeChar greater ++ others := by
  have order : smaller.val.toNat < greater.val.toNat := less
  have bound : greater.val.toNat < 0x110000 := by
    have valid := greater.valid
    simp only [UInt32.isValidChar, Nat.isValidChar] at valid
    omega
  unfold String.utf8EncodeChar
  generalize smaller.val.toNat = first at order
  generalize greater.val.toNat = second at order bound
  -- The bytes of a code are the digits to the base 64, of which the first is marked.
  have digits (number : Nat) : number / 4096 = number / 64 / 64 ∧
      number / 262144 = number / 64 / 64 / 64 := by
    simp only [Nat.div_div_eq_div_mul, Nat.reduceMul, and_self]
  simp only [digits]
  -- A code of the greater number is not shorter.
  by_cases following : rest < others <;> split_ifs <;> try omega
  -- Of two codes of one length some digit decides, of two lengths the first bytes do.
  all_goals
    simp (disch := omega) only [List.cons_append, List.nil_append, ofNat_cons_lt_iff, following,
      and_true, and_false, or_false]
    omega

theorem flatMap_utf8EncodeChar_lt {smaller greater : List Char} (less : smaller < greater) :
    smaller.flatMap String.utf8EncodeChar < greater.flatMap String.utf8EncodeChar := by
  induction smaller generalizing greater with
  | nil =>
      cases greater with
      | nil => exact absurd less (List.not_lt_nil [])
      | cons other greater =>
          obtain ⟨byte, bytes, code⟩ := List.exists_cons_of_ne_nil
            (String.utf8EncodeChar_ne_nil (c := other))
          rw [List.flatMap_nil, List.flatMap_cons, code, List.cons_append]
          exact List.nil_lt_cons byte _
  | cons character smaller ih =>
      cases greater with
      | nil => exact absurd less (List.not_lt_nil (character :: smaller))
      | cons other greater =>
          rw [List.flatMap_cons, List.flatMap_cons]
          rcases List.cons_lt_cons_iff.mp less with before | ⟨rfl, later⟩
          · exact utf8EncodeChar_append_lt before _ _
          · exact List.append_left_lt (ih later)

/-- Texts are in the order of their bytes. -/
theorem lt_iff_utf8Bytes_lt (smaller greater : String) :
    smaller < greater ↔ utf8Bytes smaller < utf8Bytes greater := by
  rw [utf8Bytes_eq_flatMap, utf8Bytes_eq_flatMap, String.lt_iff_toList_lt]
  constructor
  · exact flatMap_utf8EncodeChar_lt
  · intro less
    rcases lt_trichotomy smaller.toList greater.toList with before | same | after
    · exact before
    · rw [same] at less
      exact absurd less (List.lt_irrefl _)
    · exact absurd (flatMap_utf8EncodeChar_lt after) (List.lt_asymm less)

end RowFunctions
