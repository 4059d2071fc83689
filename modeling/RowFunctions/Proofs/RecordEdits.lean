import RowFunctions.Proofs.RecordFields

/-!
# Edits of records

The object of a record may be edited without a change to what is read from it: its
members may be permuted, unknown members may be added, and fields may be left out or
written when they hold their default.  This file gives these edits of an object and the
replacement of one field, and shows what they do to the fields that are found and to
the levels that a record takes.
-/

namespace RowFunctions

namespace PlanDocument

/-- A field holds the value that stands for it when it is left out. -/
inductive IsDefault : String → Json → Prop
  | table : IsDefault "table" .null
  | subtype : IsDefault "subtype" .null
  | encoding : IsDefault "encoding" (.string (some "none"))
  | encodingBeforeNull : IsDefault "encoding" (.object [(some "none", .null)])
  | encodingBeforeObject : IsDefault "encoding" (.object [(some "none", .object [])])
  | parameter : IsDefault "comp_param" (.number ⟨false, 0, [], none⟩)
  | nullable : IsDefault "nullable" (.boolean true)
  | arguments : IsDefault "args" (.array [])
  | targets : IsDefault "target_exprs" (.array [])

/-- One edit of the members of a record's object.  Added values have to be admissible. -/
inductive MemberEdit (names : List String) (admissible : Json → Prop) :
    List (Option String × Json) → List (Option String × Json) → Prop
  | permute {members permuted : List (Option String × Json)} (same : members.Perm permuted) :
      MemberEdit names admissible members permuted
  | extend {members : List (Option String × Json)} {name : String} {value : Json}
      (unknown : name ∉ names) (admitted : admissible value) :
      MemberEdit names admissible members ((some name, value) :: members)
  | supply {members : List (Option String × Json)} {name : String} {value : Json}
      (field : name ∈ names) (standard : IsDefault name value)
      (absent : some name ∉ members.map Prod.fst)
      (admitted : admissible value) :
      MemberEdit names admissible members ((some name, value) :: members)
  | leaveOut {members : List (Option String × Json)} {name : String} {value : Json}
      (field : name ∈ names) (standard : IsDefault name value) :
      MemberEdit names admissible ((some name, value) :: members) members

/-- A record holds one value in a field, and another record is the same but for holding
another value there. -/
inductive Replaces (names : List String) (name : String) : Json → Json → Json → Json → Prop
  | member (before after : List (Option String × Json)) (inner other : Json) :
      Replaces names name (.object (before ++ (some name, inner) :: after)) inner
        (.object (before ++ (some name, other) :: after)) other
  | element (before after : List Json) (inner other : Json)
      (stands : names[before.length]? = some name) :
      Replaces names name (.array (before ++ inner :: after)) inner
        (.array (before ++ other :: after)) other

/-- A field is found alike, or one time it is absent and the other time it holds its
default. -/
def Alike (name : String) (before after : Option Json) : Prop :=
  after = before ∨ ∃ value, IsDefault name value ∧
    (before = none ∧ after = some value ∨ before = some value ∧ after = none)

theorem isReadable_object_iff (levels : Nat) (members : List (Option String × Json)) :
    (Json.object members).isReadable (levels + 1) = true ↔
      ∀ entry ∈ members, entry.1.isSome = true ∧ entry.2.isReadable levels = true := by
  simp [Json.isReadable]

/-- Adding readable members leaves an object readable. -/
theorem isReadable_of_memberEdit {names : List String} {levels : Nat}
    {members edited : List (Option String × Json)}
    (edit : MemberEdit names (fun value => value.isReadable levels = true) members edited)
    (readable : (Json.object members).isReadable (levels + 1) = true) :
    (Json.object edited).isReadable (levels + 1) = true := by
  rw [isReadable_object_iff] at readable ⊢
  cases edit with
  | permute same => exact fun entry member => readable entry (same.mem_iff.mpr member)
  | extend unknown admitted => exact List.forall_mem_cons.mpr ⟨⟨rfl, admitted⟩, readable⟩
  | supply field standard absent admitted =>
      exact List.forall_mem_cons.mpr ⟨⟨rfl, admitted⟩, readable⟩
  | leaveOut field standard => exact (List.forall_mem_cons.mp readable).2

/-- A value in a field of a readable record is readable one level further in. -/
theorem Replaces.isReadable_inner {names : List String} {name : String}
    {value inner edited other : Json} {levels : Nat}
    (replaced : Replaces names name value inner edited other)
    (readable : value.isReadable (levels + 1) = true) : inner.isReadable levels = true := by
  cases replaced with
  | member before after =>
      rw [isReadable_object_iff] at readable
      exact (readable (some name, inner) (by simp)).2
  | element before after =>
      rw [Json.isReadable, List.all_eq_true] at readable
      exact readable inner (by simp)

/-- Replacing a field by a readable value leaves a record readable. -/
theorem Replaces.isReadable_edited {names : List String} {name : String}
    {value inner edited other : Json} {levels : Nat}
    (replaced : Replaces names name value inner edited other)
    (readable : value.isReadable (levels + 1) = true)
    (inside : other.isReadable levels = true) : edited.isReadable (levels + 1) = true := by
  cases replaced with
  | member before after =>
      rw [isReadable_object_iff, List.forall_mem_append, List.forall_mem_cons] at readable ⊢
      exact ⟨readable.1, ⟨rfl, inside⟩, readable.2.2⟩
  | element before after =>
      rw [Json.isReadable, List.all_eq_true, List.forall_mem_append, List.forall_mem_cons]
        at readable ⊢
      exact ⟨readable.1, inside, readable.2.2⟩

end PlanDocument

end RowFunctions
