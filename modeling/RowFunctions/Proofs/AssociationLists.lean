import Mathlib

/-!
# Looking keys up in lists of pairs

The tables of this library are lists of keys with values in which a look-up
finds the first pair with a key.
-/

namespace RowFunctions

namespace AssociationList

variable {Key Value : Type*} [BEq Key] [LawfulBEq Key] [DecidableEq Key]

theorem lookup_cons (key present : Key) (value : Value) (entries : List (Key × Value)) :
    ((present, value) :: entries).lookup key =
      if key = present then some value else entries.lookup key := by
  rw [List.lookup_cons]
  by_cases same : key = present
  · simp [same]
  · simp [same, beq_eq_false_iff_ne.mpr same]

theorem lookup_append_singleton (key added : Key) (value : Value) (entries : List (Key × Value)) :
    (entries ++ [(added, value)]).lookup key =
      (entries.lookup key).or (if key = added then some value else none) := by
  rw [List.lookup_append, lookup_cons, List.lookup_nil]

theorem lookup_filter_ne {key other : Key} (different : key ≠ other)
    (entries : List (Key × Value)) :
    (entries.filter fun entry => entry.1 != other).lookup key = entries.lookup key := by
  induction entries with
  | nil => rfl
  | cons entry entries ih =>
      obtain ⟨present, value⟩ := entry
      by_cases removed : present = other
      · simp [removed, lookup_cons, different, ih]
      · simp [removed, lookup_cons, ih]

/-- With distinct keys, a look-up finds exactly the pairs of the list. -/
theorem lookup_eq_some_iff_mem {entries : List (Key × Value)}
    (distinct : (entries.map Prod.fst).Nodup) (key : Key) (value : Value) :
    entries.lookup key = some value ↔ (key, value) ∈ entries := by
  induction entries with
  | nil => simp
  | cons entry entries ih =>
      obtain ⟨present, stored⟩ := entry
      obtain ⟨absent, rest⟩ := List.nodup_cons.mp distinct
      rw [lookup_cons, List.mem_cons, Prod.mk.injEq]
      by_cases same : key = present
      · subst same
        have unlisted : (key, value) ∉ entries :=
          fun member => absent (List.mem_map.mpr ⟨_, member, rfl⟩)
        simp [unlisted, eq_comm]
      · rw [if_neg same, ih rest]
        simp [same]

omit [DecidableEq Key] in
theorem notMem_keys_of_lookup_eq_none {entries : List (Key × Value)} {key : Key}
    (absent : entries.lookup key = none) : key ∉ entries.map Prod.fst := by
  intro member
  obtain ⟨entry, listed, same⟩ := List.mem_map.mp member
  have different := List.lookup_eq_none_iff.mp absent entry listed
  simp [same] at different

omit [DecidableEq Key] in
theorem isSome_lookup_iff_mem_keys {entries : List (Key × Value)} {key : Key} :
    (entries.lookup key).isSome = true ↔ key ∈ entries.map Prod.fst := by
  rw [List.lookup_isSome_iff, List.mem_map]
  simp only [beq_iff_eq, eq_comm (a := key)]

/-- With distinct keys, the order of the pairs makes no difference to a look-up. -/
theorem lookup_eq_of_perm {entries others : List (Key × Value)}
    (distinct : (entries.map Prod.fst).Nodup) (permuted : entries.Perm others) (key : Key) :
    others.lookup key = entries.lookup key := by
  have distinctToo : (others.map Prod.fst).Nodup := (permuted.map Prod.fst).nodup_iff.mp distinct
  apply Option.ext
  intro value
  rw [lookup_eq_some_iff_mem distinct, lookup_eq_some_iff_mem distinctToo, permuted.mem_iff]

end AssociationList

end RowFunctions
