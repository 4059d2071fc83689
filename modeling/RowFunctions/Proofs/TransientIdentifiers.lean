import Mathlib
import RowFunctions.StringIdentifiers

/-!
# The arithmetic of string identifiers

An identifier is a signed word of 32 bits.  A word that is not negative stands
for a position in a dictionary.  A word `-2 - index` stands for the position
`index` in a table of transient strings, as long as it lies above the smallest
word.  This file reduces both readings to equations between integers.  From them it
follows that handing out identifiers and reading them are inverse to each other over all
words, and that neither overflows.
-/

namespace RowFunctions

namespace StringId

/-- The position in a dictionary that an identifier stands for. -/
def storedIndex? (id : StringId) : Option Nat := if 0 ≤ id then some id.toInt.toNat else none

theorem nonneg_iff_toInt (id : StringId) : 0 ≤ id ↔ 0 ≤ id.toInt := by
  rw [Int32.le_iff_toInt_le]
  rfl

theorem storedIndex?_eq_some_iff (id : StringId) (index : Nat) :
    storedIndex? id = some index ↔ id.toInt = index := by
  unfold storedIndex?
  by_cases nonneg : 0 ≤ id
  · have value := (nonneg_iff_toInt id).mp nonneg
    rw [if_pos nonneg, Option.some.injEq]
    omega
  · have value := mt (nonneg_iff_toInt id).mpr nonneg
    rw [if_neg nonneg]
    simp only [reduceCtorEq, false_iff]
    omega

theorem storedIndex?_eq_some_iff_eq_ofNat {index : Nat} (fits : index < 2 ^ 31)
    (id : StringId) : storedIndex? id = some index ↔ id = Int32.ofNat index := by
  rw [storedIndex?_eq_some_iff, ← Int32.toInt_inj, Int32.toInt_ofNat_of_lt fits]

theorem isTransient_eq_true_iff (id : StringId) :
    isTransient id = true ↔ id.toInt ≤ -2 ∧ -2 ^ 31 < id.toInt := by
  have smallest := id.le_toInt
  have first : firstTransient.toInt = -2 := by decide
  have last : invalid.toInt = -2 ^ 31 := by decide
  have distinct : id ≠ invalid ↔ id.toInt ≠ -2 ^ 31 := by
    rw [← last, ne_eq, ne_eq, Int32.toInt_inj]
  rw [isTransient, Bool.and_eq_true, decide_eq_true_eq, bne_iff_ne, distinct,
    Int32.le_iff_toInt_le, first]
  omega

/-- A word above the smallest is reached from the first transient identifier
without overflow. -/
theorem toInt_firstTransient_sub {id : StringId} (small : id.toInt ≤ -2)
    (large : -2 ^ 31 < id.toInt) : (firstTransient - id).toInt = -2 - id.toInt := by
  have first : firstTransient.toInt = -2 := by decide
  rw [Int32.toInt_sub, first]
  exact Int.bmod_eq_of_le (by omega) (by omega)

/-- A transient identifier stands for its distance from the first one. -/
theorem transientIndex?_eq_some_iff (id : StringId) (index : Nat) :
    transientIndex? id = some index ↔ id.toInt = -2 - index ∧ index + 2 < 2 ^ 31 := by
  unfold transientIndex?
  by_cases transient : isTransient id = true
  · have bounds := (isTransient_eq_true_iff id).mp transient
    rw [if_pos transient, Option.some.injEq, toInt_firstTransient_sub bounds.1 bounds.2]
    omega
  · have outside := transient
    rw [isTransient_eq_true_iff] at outside
    rw [if_neg transient]
    simp only [reduceCtorEq, false_iff]
    omega

theorem ofTransientIndex?_eq_some_iff (index : Nat) (id : StringId) :
    ofTransientIndex? index = some id ↔ id.toInt = -2 - index ∧ index + 2 < 2 ^ 31 := by
  have first : firstTransient.toInt = -2 := by decide
  have last : invalid.toInt = -2 ^ 31 := by decide
  have largest : Int32.maxValue.toInt = 2 ^ 31 - 1 := by decide
  unfold ofTransientIndex?
  by_cases fits : (index : Int) ≤ Int32.maxValue.toInt
  · have small : index < 2 ^ 31 := by omega
    have offset := Int32.toInt_ofNat_of_lt small
    rw [if_pos fits]
    simp only [offset, first, last]
    by_cases room : (-2 : Int) ^ 31 < -2 - index
    · have difference : (firstTransient - Int32.ofNat index).toInt = -2 - index := by
        rw [Int32.toInt_sub, first, offset]
        exact Int.bmod_eq_of_le (by omega) (by omega)
      rw [if_pos (by omega), Option.some.injEq, ← Int32.toInt_inj, difference]
      omega
    · rw [if_neg (by omega)]
      simp only [reduceCtorEq, false_iff]
      omega
  · rw [if_neg fits]
    simp only [reduceCtorEq, false_iff]
    omega

theorem ofTransientIndex?_of_lt {index : Nat} (room : index + 2 < 2 ^ 31) :
    ofTransientIndex? index = some (Int32.ofInt (-2 - index)) := by
  rw [ofTransientIndex?_eq_some_iff, Int32.toInt_ofInt_of_le (by omega) (by omega)]
  exact ⟨rfl, room⟩

/-- Handing out identifiers and reading them are inverse to each other. -/
theorem ofTransientIndex?_eq_some_iff_transientIndex? (index : Nat) (id : StringId) :
    ofTransientIndex? index = some id ↔ transientIndex? id = some index := by
  rw [ofTransientIndex?_eq_some_iff, transientIndex?_eq_some_iff]

theorem transientIndex?_eq_some_iff_eq {id : StringId} {index : Nat}
    (stands : transientIndex? id = some index) (other : StringId) :
    transientIndex? other = some index ↔ other = id := by
  have value := (transientIndex?_eq_some_iff id index).mp stands
  rw [transientIndex?_eq_some_iff, ← Int32.toInt_inj]
  omega

/-- No identifier stands both for a stored and for a transient string. -/
theorem transientIndex?_eq_none_of_nonneg {id : StringId} (nonneg : 0 ≤ id) :
    transientIndex? id = none := by
  have value := (nonneg_iff_toInt id).mp nonneg
  rw [transientIndex?, if_neg]
  rw [isTransient_eq_true_iff]
  omega

theorem isTransient_eq_isSome (id : StringId) :
    isTransient id = (transientIndex? id).isSome := by
  unfold transientIndex?
  split <;> simp [*]

theorem isSome_ofTransientIndex?_iff (index : Nat) :
    (ofTransientIndex? index).isSome = true ↔ (index : Int) ≤ Int32.maxValue.toInt - 2 := by
  have largest : Int32.maxValue.toInt = 2 ^ 31 - 1 := by decide
  rw [Option.isSome_iff_exists, largest]
  constructor
  · rintro ⟨id, given⟩
    have room := ((ofTransientIndex?_eq_some_iff index id).mp given).2
    omega
  · intro bounded
    exact ⟨_, ofTransientIndex?_of_lt (by omega)⟩

/-- An identifier that is handed out starts at the first one and stops above the smallest
word. -/
theorem range_of_ofTransientIndex? {index : Nat} {id : StringId}
    (given : ofTransientIndex? index = some id) : id ≤ firstTransient ∧ id ≠ invalid := by
  have first : firstTransient.toInt = -2 := by decide
  have last : invalid.toInt = -2 ^ 31 := by decide
  have value := (ofTransientIndex?_eq_some_iff index id).mp given
  rw [Int32.le_iff_toInt_le, ne_eq, ← Int32.toInt_inj, first, last]
  omega

theorem lt_iff_of_ofTransientIndex? {index later : Nat} {id other : StringId}
    (given : ofTransientIndex? index = some id) (next : ofTransientIndex? later = some other) :
    index < later ↔ other < id := by
  have value := (ofTransientIndex?_eq_some_iff index id).mp given
  have value' := (ofTransientIndex?_eq_some_iff later other).mp next
  rw [Int32.lt_iff_toInt_lt]
  omega

/-! ### Arithmetic that is checked at every step -/

/-- The word of 32 bits with a value, unless the value overflows. -/
def word? (value : Int) : Option StringId :=
  if Int32.minValue.toInt ≤ value ∧ value ≤ Int32.maxValue.toInt then some (Int32.ofInt value)
  else none

/-- The position with a value, unless the value is negative or exceeds 64 bits. -/
def position? (value : Int) : Option Nat :=
  if 0 ≤ value ∧ value < 2 ^ 64 then some value.toNat else none

theorem word?_eq_some_iff (value : Int) (word : StringId) :
    word? value = some word ↔ word.toInt = value := by
  have smallest : Int32.minValue.toInt = -2 ^ 31 := by decide
  have largest : Int32.maxValue.toInt = 2 ^ 31 - 1 := by decide
  have above := word.le_toInt
  have below := word.toInt_lt
  unfold word?
  by_cases fits : Int32.minValue.toInt ≤ value ∧ value ≤ Int32.maxValue.toInt
  · have kept := Int32.toInt_ofInt_of_le (n := value) (by omega) (by omega)
    rw [if_pos fits, Option.some.injEq, ← Int32.toInt_inj, kept, eq_comm]
  · rw [if_neg fits]
    simp only [reduceCtorEq, false_iff]
    omega

/-- Handing out an identifier refuses exactly what overflows or reaches the smallest word. -/
theorem ofTransientIndex?_eq_checked (index : Nat) :
    ofTransientIndex? index =
      (word? index).bind fun offset =>
        (word? (firstTransient.toInt - offset.toInt)).filter (· != invalid) := by
  have first : firstTransient.toInt = -2 := by decide
  have last : invalid.toInt = -2 ^ 31 := by decide
  ext id
  rw [ofTransientIndex?_eq_some_iff, Option.bind_eq_some_iff]
  simp only [Option.filter_eq_some_iff, word?_eq_some_iff, bne_iff_ne, ne_eq,
    ← Int32.toInt_inj, first, last]
  constructor
  · rintro ⟨value, room⟩
    have offset := Int32.toInt_ofNat_of_lt (n := index) (by omega)
    exact ⟨Int32.ofNat index, offset, by omega, by omega⟩
  · rintro ⟨offset, same, value, above⟩
    have smallest := id.le_toInt
    omega

/-- Reading a transient identifier computes its position without overflow. -/
theorem checked_of_isTransient {id : StringId} (transient : isTransient id = true) :
    word? (firstTransient.toInt - id.toInt) = some (firstTransient - id) ∧
      position? (firstTransient - id).toInt = transientIndex? id := by
  have bounds := (isTransient_eq_true_iff id).mp transient
  have first : firstTransient.toInt = -2 := by decide
  have difference := toInt_firstTransient_sub bounds.1 bounds.2
  refine ⟨?_, ?_⟩
  · rw [word?_eq_some_iff, difference, first]
  · rw [position?, transientIndex?, if_pos transient, if_pos]
    omega

/-- Transient identifiers and the positions of their table correspond one to one: over all
words of 32 bits and all positions, handing out and reading are inverse to each other.
Exactly the positions up to two below the largest word get an identifier, and exactly the
transient identifiers have a position.  Identifiers start at `-2`, strictly decrease and never
reach the smallest word.  Handing out refuses exactly the positions at which a conversion or
the subtraction would overflow or the smallest word would come out, and reading a transient
identifier subtracts and converts without overflow. -/
theorem transient_identifiers_number_positions (index : Nat) (id : StringId) :
    (ofTransientIndex? index = some id ↔ transientIndex? id = some index) ∧
    ((ofTransientIndex? index).isSome = true ↔ (index : Int) ≤ Int32.maxValue.toInt - 2) ∧
    ((transientIndex? id).isSome = true ↔ isTransient id = true) ∧
    (ofTransientIndex? index = some id → id ≤ -2 ∧ id ≠ Int32.minValue ∧
      ∀ later other, ofTransientIndex? later = some other → (index < later ↔ other < id)) ∧
    (ofTransientIndex? index =
      (word? index).bind fun offset =>
        (word? (firstTransient.toInt - offset.toInt)).filter (· != invalid)) ∧
    (isTransient id = true →
      word? (firstTransient.toInt - id.toInt) = some (firstTransient - id) ∧
        position? (firstTransient - id).toInt = transientIndex? id) := by
  refine ⟨ofTransientIndex?_eq_some_iff_transientIndex? index id,
    isSome_ofTransientIndex?_iff index, ?_, ?_, ofTransientIndex?_eq_checked index,
    checked_of_isTransient⟩
  · rw [isTransient_eq_isSome]
  · intro given
    have range := range_of_ofTransientIndex? given
    exact ⟨range.1, range.2, fun later other next => lt_iff_of_ofTransientIndex? given next⟩

/-- The last position with an identifier has the one above the smallest word, and its identifier
is read back without overflow; the next position has none. -/
theorem transient_identifiers_number_positions_of_last :
    let last : StringId := Int32.minValue + 1
    ofTransientIndex? 2147483645 = some last ∧ transientIndex? last = some 2147483645 ∧
      ofTransientIndex? 2147483646 = none ∧ last ≠ Int32.minValue ∧
      (2147483644 < 2147483645 ↔ last < Int32.minValue + 2) ∧ isTransient last = true ∧
      word? (firstTransient.toInt - last.toInt) = some (firstTransient - last) := by
  intro last
  have given : ofTransientIndex? 2147483645 = some last := by decide
  have before : ofTransientIndex? 2147483644 = some (Int32.minValue + 2) := by decide
  have transient : isTransient last = true := by decide
  obtain ⟨inverse, -, -, range, -, reads⟩ :=
    transient_identifiers_number_positions 2147483645 last
  obtain ⟨-, bounded, -⟩ := transient_identifiers_number_positions 2147483646 last
  obtain ⟨-, -, -, earlier, -⟩ :=
    transient_identifiers_number_positions 2147483644 (Int32.minValue + 2)
  have refused : ofTransientIndex? 2147483646 = none := by
    rw [← Option.not_isSome_iff_eq_none, bounded]
    decide
  exact ⟨given, inverse.mp given, refused, (range given).2.1, (earlier before).2.2 _ _ given,
    transient, (reads transient).1⟩

end StringId

end RowFunctions
