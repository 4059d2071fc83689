import Mathlib
import RowFunctions.Lowercasing

/-!
# Lowercase forms

Lowercasing is done after one pass: the form of a character consists of
characters that have no other form and do not look around.  For the table of
letter case this means that the partners of a run of capitals lie outside all
runs, which is decided run by run.  The underscore takes no part in letter case:
no other character gets one, and a search for a cased character ends at it.
-/

namespace RowFunctions

namespace CaseRun

/-- The lowercase partner of the first code point of a run. -/
def lowest (run : CaseRun) : Nat := (run.first + run.offset).toNat

def highest (run : CaseRun) : Nat := (run.last + run.offset).toNat

/-- Whether all the partners of a run are characters. -/
def partnersExist (run : CaseRun) : Bool :=
  decide (0 ≤ run.first + run.offset) &&
    (Nat.blt run.highest 0xD800 || Nat.blt 0xDFFF run.lowest && Nat.blt run.highest 0x110000)

/-- Whether the partners of a run lie outside another run: below it, above it, or
between its steps. -/
def avoids (run other : CaseRun) : Bool :=
  Nat.blt run.highest other.first || Nat.blt other.last run.lowest ||
    Nat.blt other.first run.lowest && (run.first == run.last || run.step % other.step == 0) &&
      (run.lowest - other.first) % other.step != 0

/-- A run of one code point. -/
def single (code : Nat) : CaseRun := ⟨code, code, 1, 0⟩

theorem covers_eq_true_iff (run : CaseRun) (code : Nat) :
    run.covers code = true ↔
      run.first ≤ code ∧ code ≤ run.last ∧ (code - run.first) % run.step = 0 := by
  simp [covers, and_assoc]

theorem covers_single (code : Nat) : (single code).covers code = true := by
  simp [covers, single]

/-- The partners of a run go up with its code points. -/
theorem partner_eq {run : CaseRun} {code : Nat} (exist : run.partnersExist = true)
    (covered : run.covers code = true) :
    (code + run.offset).toNat = run.lowest + (code - run.first) ∧
      (code + run.offset).toNat ≤ run.highest := by
  obtain ⟨after, before, -⟩ := (run.covers_eq_true_iff code).mp covered
  simp only [partnersExist, Bool.and_eq_true, decide_eq_true_eq] at exist
  have nonneg := exist.1
  unfold lowest highest
  omega

theorem isValidChar_partner {run : CaseRun} {code : Nat} (exist : run.partnersExist = true)
    (covered : run.covers code = true) : (code + run.offset).toNat.isValidChar := by
  obtain ⟨place, bound⟩ := partner_eq exist covered
  simp only [partnersExist, Bool.and_eq_true, Bool.or_eq_true, Nat.blt_eq] at exist
  unfold Nat.isValidChar
  omega

/-- A run that another one avoids covers none of its partners. -/
theorem not_covers_partner {run other : CaseRun} {code : Nat} (exist : run.partnersExist = true)
    (avoiding : run.avoids other = true) (covered : run.covers code = true) :
    other.covers (code + run.offset).toNat = false := by
  obtain ⟨place, bound⟩ := partner_eq exist covered
  obtain ⟨after, before, steps⟩ := (run.covers_eq_true_iff code).mp covered
  rw [← Bool.not_eq_true, covers_eq_true_iff, place]
  rintro ⟨low, high, otherSteps⟩
  simp only [avoids, Bool.or_eq_true, Bool.and_eq_true, Nat.blt_eq, beq_iff_eq,
    bne_iff_ne] at avoiding
  rcases avoiding with (below | above) | ⟨⟨inside, aligned⟩, between⟩
  · omega
  · omega
  · -- The way from the first partner is a number of steps of the other run.
    have whole : other.step ∣ code - run.first := by
      rcases aligned with alone | divides
      · have same : code - run.first = 0 := by omega
        rw [same]
        exact Nat.dvd_zero _
      · exact (Nat.dvd_of_mod_eq_zero divides).trans (Nat.dvd_of_mod_eq_zero steps)
    have moved : run.lowest + (code - run.first) - other.first =
        run.lowest - other.first + (code - run.first) := by omega
    rw [moved] at otherSteps
    exact between (Nat.mod_eq_zero_of_dvd
      ((Nat.dvd_add_left whole).mp (Nat.dvd_of_mod_eq_zero otherSteps)))

end CaseRun

namespace Lowercasing

/-- The code points that no lowercase form may have although no run covers them or
lowercasing treats them apart: the underscore, the capital I with a dot and the
capital sigma. -/
def reservedCodes : List Nat := [0x5F, 0x130, 0x3A3]

set_option maxRecDepth 4000 in
theorem lowercaseRuns_settled :
    (lowercaseRuns.all fun run => run.partnersExist &&
      (reservedCodes.map CaseRun.single ++ lowercaseRuns).all run.avoids) = true := by
  decide +kernel

/-- A character that lowercasing leaves as it is, wherever it stands. -/
def IsSettled (character : Char) : Prop := character ≠ 'Σ' ∧ ofChar character = [character]

/-- The three ways in which a character has a form. -/
theorem ofChar_cases (character : Char) :
    ofChar character = [character] ∨
      character = 'İ' ∧ ofChar character = ['i', '\u0307'] ∨
      ∃ run ∈ lowercaseRuns, run.covers character.toNat = true ∧
        ofChar character = [Char.ofNat (character.toNat + run.offset).toNat] := by
  unfold ofChar
  split
  · next dotted => exact .inr (.inl ⟨dotted, rfl⟩)
  · split
    · next run found =>
        have covered := List.find?_some found
        exact .inr (.inr ⟨run, List.mem_of_find?_eq_some found, covered, rfl⟩)
    · exact .inl rfl

theorem isSettled_of_uncovered {character : Char} (sigma : character ≠ 'Σ')
    (dotted : character ≠ 'İ')
    (uncovered : ∀ run ∈ lowercaseRuns, run.covers character.toNat = false) :
    IsSettled character := by
  have absent : lowercaseRuns.find? (fun run => run.covers character.toNat) = none := by
    rw [List.find?_eq_none]
    intro run listed
    rw [uncovered run listed]
    exact Bool.false_ne_true
  refine ⟨sigma, ?_⟩
  rw [ofChar, if_neg dotted, absent]

/-- A partner is no reserved character and is covered by no run. -/
theorem isSettled_partner {run : CaseRun} (member : run ∈ lowercaseRuns) {code : Nat}
    (covered : run.covers code = true) :
    IsSettled (Char.ofNat (code + run.offset).toNat) ∧
      Char.ofNat (code + run.offset).toNat ≠ '_' := by
  have settled := List.all_eq_true.mp lowercaseRuns_settled run member
  rw [Bool.and_eq_true, List.all_eq_true] at settled
  obtain ⟨exist, avoiding⟩ := settled
  have valid := CaseRun.isValidChar_partner exist covered
  have written : (Char.ofNat (code + run.offset).toNat).toNat = (code + run.offset).toNat := by
    rw [Char.toNat_ofNat, if_pos valid]
  have differs (other : Char) (reserved : other.toNat ∈ reservedCodes) :
      Char.ofNat (code + run.offset).toNat ≠ other := by
    rintro same
    have apart := CaseRun.not_covers_partner exist
      (avoiding _ (List.mem_append_left _ (List.mem_map_of_mem reserved))) covered
    rw [← written, same, CaseRun.covers_single] at apart
    contradiction
  refine ⟨isSettled_of_uncovered (differs 'Σ' (by decide)) (differs 'İ' (by decide)) ?_,
    differs '_' (by decide)⟩
  intro other listed
  rw [written]
  exact CaseRun.not_covers_partner exist (avoiding other (List.mem_append_right _ listed)) covered

/-- The forms that are not found in the table are settled. -/
theorem isSettled_of_mem_untabled {form : Char} (member : form ∈ ['i', '\u0307', 'ς', 'σ']) :
    IsSettled form := by
  have uncovered : (['i', '\u0307', 'ς', 'σ'].all fun form => lowercaseRuns.all fun run =>
      !run.covers form.toNat) = true := by decide +kernel
  have different : ∀ form ∈ ['i', '\u0307', 'ς', 'σ'], form ≠ 'Σ' ∧ form ≠ 'İ' := by simp
  obtain ⟨sigma, dotted⟩ := different form member
  refine isSettled_of_uncovered sigma dotted fun run listed => ?_
  have all := List.all_eq_true.mp (List.all_eq_true.mp uncovered form member) run listed
  exact Bool.not_eq_true' _ ▸ all

/-- Every character of a lowercase form is left as it is. -/
theorem isSettled_of_mem_ofChar {character form : Char} (member : form ∈ ofChar character) :
    IsSettled form := by
  rcases ofChar_cases character with same | ⟨-, dotted⟩ | ⟨run, listed, covered, moved⟩
  · rw [same, List.mem_singleton] at member
    subst member
    refine ⟨?_, same⟩
    rintro rfl
    exact absurd same (by decide +kernel)
  · rw [dotted] at member
    exact isSettled_of_mem_untabled (List.mem_append_left ['ς', 'σ'] member)
  · rw [moved, List.mem_singleton] at member
    exact member ▸ (isSettled_partner listed covered).1

theorem ofChar_ne_nil (character : Char) : ofChar character ≠ [] := by
  rcases ofChar_cases character with same | ⟨-, dotted⟩ | ⟨run, -, -, moved⟩
  · simp [same]
  · simp [dotted]
  · simp [moved]

@[simp]
theorem ofChar_underscore : ofChar '_' = ['_'] := by decide +kernel

/-- Only the underscore has a form with an underscore. -/
theorem underscore_mem_ofChar_iff (character : Char) :
    '_' ∈ ofChar character ↔ character = '_' := by
  constructor
  · intro member
    rcases ofChar_cases character with same | ⟨-, dotted⟩ | ⟨run, listed, covered, moved⟩
    · rw [same, List.mem_singleton] at member
      exact member.symm
    · rw [dotted] at member
      exact absurd member (by decide)
    · rw [moved, List.mem_singleton] at member
      exact absurd member.symm (isSettled_partner listed covered).2
  · rintro rfl
    simp

/-! ### The form of a character in a text -/

/-- The lowercase form of a character between others, the nearest before it first. -/
def formBetween (before : List Char) (character : Char) (after : List Char) : List Char :=
  if character = 'Σ' then
    if endsWord before after then ['ς'] else ['σ']
  else
    ofChar character

theorem ofListAfter_cons (before : List Char) (character : Char) (rest : List Char) :
    ofListAfter before (character :: rest) =
      formBetween before character rest ++ ofListAfter (character :: before) rest := rfl

theorem formBetween_of_isSettled {character : Char} (settled : IsSettled character)
    (before after : List Char) : formBetween before character after = [character] := by
  rw [formBetween, if_neg settled.1, settled.2]

theorem isSettled_of_mem_formBetween {before after : List Char} {character form : Char}
    (member : form ∈ formBetween before character after) : IsSettled form := by
  unfold formBetween at member
  split at member
  · refine isSettled_of_mem_untabled ?_
    split at member <;> simp_all
  · exact isSettled_of_mem_ofChar member

theorem formBetween_ne_nil (before : List Char) (character : Char) (after : List Char) :
    formBetween before character after ≠ [] := by
  unfold formBetween
  split
  · split <;> simp
  · exact ofChar_ne_nil character

@[simp]
theorem formBetween_underscore (before after : List Char) :
    formBetween before '_' after = ['_'] := by
  simp [formBetween]

theorem underscore_notMem_formBetween {character : Char} (other : character ≠ '_')
    (before after : List Char) : '_' ∉ formBetween before character after := by
  unfold formBetween
  split
  · split <;> decide
  · rwa [underscore_mem_ofChar_iff]

theorem isSettled_of_mem_ofListAfter {before text : List Char} {form : Char}
    (member : form ∈ ofListAfter before text) : IsSettled form := by
  induction text generalizing before with
  | nil => contradiction
  | cons character rest ih =>
      rw [ofListAfter_cons, List.mem_append] at member
      rcases member with here | later
      · exact isSettled_of_mem_formBetween here
      · exact ih later

theorem ofListAfter_of_isSettled {text : List Char}
    (settled : ∀ character ∈ text, IsSettled character) (before : List Char) :
    ofListAfter before text = text := by
  induction text generalizing before with
  | nil => rfl
  | cons character rest ih =>
      obtain ⟨first, others⟩ := List.forall_mem_cons.mp settled
      rw [ofListAfter_cons, formBetween_of_isSettled first, ih others, List.singleton_append]

/-- Lowercasing a second time changes nothing. -/
theorem ofList_ofList (text : List Char) : ofList (ofList text) = ofList text :=
  ofListAfter_of_isSettled (fun _ member => isSettled_of_mem_ofListAfter member) []

@[simp]
theorem isCaseIgnorable_underscore : isCaseIgnorable '_' = false := by decide +kernel

@[simp]
theorem isCased_underscore : isCased '_' = false := by decide +kernel

/-- A search for a cased character ends at an underscore. -/
@[simp]
theorem meetsCased_cons_underscore (rest : List Char) : meetsCased ('_' :: rest) = false := by
  simp [meetsCased]

theorem meetsCased_cons (character : Char) (rest : List Char) :
    meetsCased (character :: rest) =
      if isCaseIgnorable character then meetsCased rest else isCased character := by
  unfold meetsCased
  rw [List.dropWhile_cons]
  by_cases ignorable : isCaseIgnorable character = true <;> simp [ignorable]

end Lowercasing

end RowFunctions
