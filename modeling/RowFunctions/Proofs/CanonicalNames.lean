import RowFunctions.Proofs.CallSiteIndexing
import RowFunctions.Proofs.LowercaseForms

/-!
# Name keys as canonical names

A key is found from a name by leaving out the suffix and lowercasing.  The order
of the two does not matter, for every Unicode name: lowercasing keeps underscores
where they are and makes no new ones, and whether a capital sigma ends its word
is settled before the suffix begins.  A key is therefore a name with itself as
its key.
-/

namespace RowFunctions

namespace NameKey

open Lowercasing

/-! ### The part before the suffix -/

theorem beforeSuffix_cons {character : Char} {rest : List Char}
    (regular : ∀ more, character = '_' → rest = '_' :: more → False) :
    beforeSuffix (character :: rest) = character :: beforeSuffix rest := by
  rw [beforeSuffix]
  exact regular

theorem beforeSuffix_append {first : List Char} (plain : '_' ∉ first) (rest : List Char) :
    beforeSuffix (first ++ rest) = first ++ beforeSuffix rest := by
  induction first with
  | nil => rfl
  | cons character first ih =>
      rw [List.mem_cons, not_or] at plain
      rw [List.cons_append, beforeSuffix_cons fun _ same _ => plain.1 same.symm, ih plain.2,
        List.cons_append]

theorem beforeSuffix_isPrefix (text : List Char) : beforeSuffix text <+: text := by
  induction text using beforeSuffix.induct with
  | case1 => exact List.prefix_rfl
  | case2 rest => exact List.nil_prefix
  | case3 character rest regular ih =>
      rw [beforeSuffix_cons regular]
      exact (List.prefix_cons_inj character).mpr ih

/-- What stands before the suffix has no two underscores in a row. -/
theorem not_infix_beforeSuffix (text : List Char) : ¬ ['_', '_'] <:+: beforeSuffix text := by
  induction text using beforeSuffix.induct with
  | case1 => simp [beforeSuffix]
  | case2 rest => simp [beforeSuffix]
  | case3 character rest regular ih =>
      rw [beforeSuffix_cons regular, List.infix_cons_iff]
      rintro (starts | inside)
      · obtain ⟨same, next⟩ := List.cons_prefix_cons.mp starts
        obtain ⟨more, continues⟩ := next.trans (beforeSuffix_isPrefix rest)
        exact regular more same.symm continues.symm
      · exact ih inside

theorem beforeSuffix_of_no_delimiter {text : List Char} (plain : ¬ ['_', '_'] <:+: text) :
    beforeSuffix text = text := by
  induction text using beforeSuffix.induct with
  | case1 => rfl
  | case2 rest => exact absurd ⟨[], rest, rfl⟩ plain
  | case3 character rest regular ih =>
      rw [List.infix_cons_iff, not_or] at plain
      rw [beforeSuffix_cons regular, ih plain.2]

theorem isOnlySuffix_of_no_delimiter {text : List Char} (plain : ¬ ['_', '_'] <:+: text) :
    isOnlySuffix text = false := by
  rw [← Bool.not_eq_true, isOnlySuffix_eq_true_iff]
  exact fun starts => plain starts.isInfix

/-! ### Lowercasing around the suffix -/

/-- A lowercased text starts with an underscore only if the text does. -/
theorem eq_cons_underscore_of_ofListAfter {before text more : List Char}
    (starts : ofListAfter before text = '_' :: more) :
    ∃ rest, text = '_' :: rest ∧ more = ofListAfter ('_' :: before) rest := by
  cases text with
  | nil => contradiction
  | cons character rest =>
      rw [ofListAfter_cons] at starts
      by_cases same : character = '_'
      · subst same
        rw [formBetween_underscore, List.singleton_append, List.cons.injEq] at starts
        exact ⟨rest, rfl, starts.2.symm⟩
      · obtain ⟨first, others, written⟩ :=
          List.exists_cons_of_ne_nil (formBetween_ne_nil before character rest)
        have absent := underscore_notMem_formBetween same before rest
        rw [written, List.cons_append, List.cons.injEq] at starts
        rw [written, starts.1] at absent
        exact absurd List.mem_cons_self absent

theorem ofListAfter_delimiter (before rest : List Char) :
    ofListAfter before ('_' :: '_' :: rest) =
      '_' :: '_' :: ofListAfter ('_' :: '_' :: before) rest := by
  simp [ofListAfter_cons]

theorem isOnlySuffix_ofListAfter (before text : List Char) :
    isOnlySuffix (ofListAfter before text) = isOnlySuffix text := by
  rw [Bool.eq_iff_iff, isOnlySuffix_eq_true_iff, isOnlySuffix_eq_true_iff]
  constructor
  · rintro ⟨rest, starts⟩
    obtain ⟨others, rfl, continues⟩ := eq_cons_underscore_of_ofListAfter starts.symm
    obtain ⟨others, rfl, -⟩ := eq_cons_underscore_of_ofListAfter continues.symm
    exact ⟨others, rfl⟩
  · rintro ⟨rest, rfl⟩
    exact ⟨_, (ofListAfter_delimiter before rest).symm⟩

/-- The search for a cased character does not look into the suffix. -/
theorem meetsCased_beforeSuffix (text : List Char) :
    meetsCased (beforeSuffix text) = meetsCased text := by
  induction text using beforeSuffix.induct with
  | case1 => rfl
  | case2 rest =>
      rw [meetsCased_cons_underscore]
      rfl
  | case3 character rest regular ih =>
      rw [beforeSuffix_cons regular, meetsCased_cons,
        meetsCased_cons, ih]

theorem formBetween_beforeSuffix (before : List Char) (character : Char) (rest : List Char) :
    formBetween before character (beforeSuffix rest) = formBetween before character rest := by
  rw [formBetween, endsWord, meetsCased_beforeSuffix]
  rfl

/-- Leaving out the suffix and lowercasing commute. -/
theorem beforeSuffix_ofListAfter (before text : List Char) :
    beforeSuffix (ofListAfter before text) = ofListAfter before (beforeSuffix text) := by
  induction text using beforeSuffix.induct generalizing before with
  | case1 => rfl
  | case2 rest =>
      rw [ofListAfter_delimiter]
      rfl
  | case3 character rest regular ih =>
      rw [beforeSuffix_cons regular, ofListAfter_cons,
        ofListAfter_cons, formBetween_beforeSuffix, ← ih]
      by_cases same : character = '_'
      · subst same
        rw [formBetween_underscore, List.singleton_append, List.singleton_append]
        apply beforeSuffix_cons
        intro more _ starts
        obtain ⟨others, here, -⟩ := eq_cons_underscore_of_ofListAfter starts
        exact regular others rfl here
      · exact beforeSuffix_append (underscore_notMem_formBetween same before rest) _

theorem dropSuffix?_ofString (name : String) :
    dropSuffix? (ofString name) = (dropSuffix? name).map ofString := by
  unfold dropSuffix? ofString ofList
  rw [String.toList_ofList, isOnlySuffix_ofListAfter, beforeSuffix_ofListAfter]
  split <;> simp

/-! ### Keys -/

theorem of_eq_ok_iff (name : String) (key : NameKey) : of name = .ok key ↔ of? name = some key := by
  unfold of
  cases of? name <;> simp

theorem dropSuffix_eq_ok_iff (name base : String) :
    dropSuffix name = .ok base ↔ dropSuffix? name = some base := by
  unfold dropSuffix
  cases dropSuffix? name <;> simp

theorem of?_eq_some_iff (name : String) (key : NameKey) :
    of? name = some key ↔
      isOnlySuffix name.toList = false ∧
        key.text = String.ofList (ofList (beforeSuffix name.toList)) := by
  obtain ⟨text⟩ := key
  unfold of? dropSuffix? ofString
  by_cases only : isOnlySuffix name.toList = true
  · simp [only]
  · simp [only, eq_comm]

/-- A key has no suffix and is its own key. -/
theorem of?_text {name : String} {key : NameKey} (keyed : of? name = some key) :
    ¬ ['_', '_'] <:+: key.text.toList ∧ of? key.text = some key := by
  obtain ⟨-, written⟩ := (of?_eq_some_iff name key).mp keyed
  have characters : key.text.toList = ofList (beforeSuffix name.toList) := by
    rw [written, String.toList_ofList]
  have plain : ¬ ['_', '_'] <:+: key.text.toList := by
    rw [characters, ofList, ← beforeSuffix_ofListAfter]
    exact not_infix_beforeSuffix _
  refine ⟨plain, (of?_eq_some_iff _ _).mpr ⟨isOnlySuffix_of_no_delimiter plain, ?_⟩⟩
  rw [beforeSuffix_of_no_delimiter plain, characters, ofList_ofList, ← characters,
    String.ofList_toList]

/-- The key of any name has no suffix and is its own key, and it is the same
whether the suffix is left out before or after lowercasing. -/
theorem key_is_canonical (name : String) :
    (∀ key, of name = .ok key →
      ¬ ['_', '_'] <:+: key.text.toList ∧ of key.text = .ok key) ∧
    (∀ base, dropSuffix (ofString name) = .ok base ↔
      ∃ kept, dropSuffix name = .ok kept ∧ base = ofString kept) ∧
    ∀ key, of name = .ok key ↔ dropSuffix (ofString name) = .ok key.text := by
  refine ⟨fun key keyed => ?_, fun base => ?_, fun key => ?_⟩
  · have canonical := of?_text ((of_eq_ok_iff name key).mp keyed)
    exact ⟨canonical.1, (of_eq_ok_iff _ _).mpr canonical.2⟩
  · simp only [dropSuffix_eq_ok_iff, dropSuffix?_ofString, Option.map_eq_some_iff,
      eq_comm (a := base)]
  · obtain ⟨text⟩ := key
    simp only [of_eq_ok_iff, dropSuffix_eq_ok_iff, dropSuffix?_ofString, of?,
      Option.map_eq_some_iff, NameKey.mk.injEq]

/-- The capital I with a dot has two characters as its form, and the sigma before
the suffix ends its word. -/
theorem key_is_canonical_of_final_sigma :
    of "İΣ__Σx" = .ok ⟨"i\u0307ς"⟩ ∧ of "i\u0307ς" = .ok ⟨"i\u0307ς"⟩ := by
  have keyed : of "İΣ__Σx" = .ok ⟨"i\u0307ς"⟩ := by decide +kernel
  exact ⟨keyed, ((key_is_canonical "İΣ__Σx").1 _ keyed).2⟩

end NameKey

end RowFunctions
