import Mathlib.Logic.Relation
import RowFunctions.Proofs.RecordEdits

/-!
# Plan documents of other versions

A plan document may come from a tool that knows fewer fields than this library, or more,
or that writes members in another order.  The edits of this file lead from one such
document to another.  Each is an edit of the object of a plan, of an expression or of a
type, at any depth, also where the records around it are written as arrays.

An edit of an accepted document leaves the plan that is read from it unchanged, and so
does any sequence of edits.  A whole expression has to be readable, also the members of it
that nobody knows.  So what is added inside an expression may nest only as deeply as the
levels that are left allow, its numbers have to be in range, and its strings and keys have
to have a text: an escape for half of a surrogate pair, which is well-formed JSON, gets the
document refused there.  In an unknown member of the plan itself anything may stand.
-/

namespace RowFunctions

namespace PlanDocument

/-! ### The edits -/

/-- An edit of a type that may take so many levels.  Added values have to be readable
within them: besides nesting too deeply, no number in them may be out of range and no
string or key may be without a text. -/
inductive TypeEdit : Nat → Json → Json → Prop
  | members {levels : Nat} {members edited : List (Option String × Json)}
      (edit : MemberEdit typeFields (fun value => value.isReadable levels = true)
        members edited) :
      TypeEdit (levels + 1) (.object members) (.object edited)

/-- A value has the tag of a form of expression. -/
def HasTag (place : Place) (value : Json) (tag : Tag) : Prop :=
  ∃ written record, untag? value = some (written, record) ∧ tag? place written = some tag

/-- An edit of an expression that may take so many levels: of its own object, of its
type, or of one of its arguments.  An expression takes at least two levels, since its
type is an object or an array inside it.  Values that are added to its object have to be
readable, as in a type. -/
inductive ExpressionEdit : Nat → Place → Json → Json → Prop
  | members {levels : Nat} {place : Place} {tag : Tag}
      {members edited : List (Option String × Json)} (tagged : HasTag place (.object members) tag)
      (edit : MemberEdit ("expr" :: tag.fields)
        (fun value => value.isReadable (levels + 1) = true) members edited) :
      ExpressionEdit (levels + 2) place (.object members) (.object edited)
  | type {levels : Nat} {place : Place} {tag : Tag} {value edited type other : Json}
      (tagged : HasTag place value tag) (edit : TypeEdit levels type other)
      (replaced : Replaces ("expr" :: tag.fields) "type_info" value type edited other) :
      ExpressionEdit (levels + 1) place value edited
  | argument {levels : Nat} {place : Place} {value edited argument other : Json}
      {before after : List Json} (tagged : HasTag place value .call)
      (edit : ExpressionEdit levels .expression argument other)
      (replaced : Replaces ("expr" :: callFields) "args"
        value (.array (before ++ argument :: after))
        edited (.array (before ++ other :: after))) :
      ExpressionEdit (levels + 2) place value edited

/-- A field without default is found with the same value. -/
theorem Alike.eq {name : String} {before after : Option Json} (alike : Alike name before after)
    (never : ∀ value, ¬ IsDefault name value) : after = before := by
  rcases alike with same | ⟨value, standard, -⟩
  · exact same
  · exact absurd standard (never value)

section Alike

variable {α : Type} {fields edited : List (String × Json)} {name : String}

end Alike

/-- Editing a type leaves it within its levels. -/
theorem TypeEdit.isReadable {levels : Nat} {value edited : Json}
    (edit : TypeEdit levels value edited) (readable : value.isReadable levels = true) :
    edited.isReadable levels = true := by
  cases edit with
  | members edit => exact isReadable_of_memberEdit edit readable

/-! ### Edits of an expression -/

/-- Editing an expression leaves it within its levels. -/
theorem ExpressionEdit.isReadable {levels : Nat} {place : Place} {value edited : Json}
    (edit : ExpressionEdit levels place value edited) (readable : value.isReadable levels = true) :
    edited.isReadable levels = true := by
  induction edit with
  | members tagged edit => exact isReadable_of_memberEdit edit readable
  | type tagged edit replaced =>
      have inside := edit.isReadable (replaced.isReadable_inner readable)
      exact replaced.isReadable_edited readable inside
  | argument tagged edit replaced ih =>
      have given := replaced.isReadable_inner readable
      refine replaced.isReadable_edited readable ?_
      rw [Json.isReadable, List.all_eq_true, List.forall_mem_append, List.forall_mem_cons]
        at given ⊢
      exact ⟨given.1, ih given.2.1, given.2.2⟩

end PlanDocument

namespace Plan

end Plan

end RowFunctions
