/-
This file says which readers never look at the members of an object. To them an object is
an object, and so a value may as well have all its objects emptied.
-/

import Formwork.Proofs.Json.Tree
import Formwork.Schema.Decode

namespace Formwork

namespace Json

/-- The value with all its objects emptied. -/
def hollow : Json → Json := fold id .arr fun _ => .obj []

theorem hollow_arr (items : List Json) : (Json.arr items).hollow = .arr (items.map hollow) := by
  rw [hollow, fold_arr]

theorem hollow_obj (members : List (String × Json)) : (Json.obj members).hollow = .obj [] := by
  rw [hollow, fold_obj]

theorem hollow_collapse (value : Json) : value.collapse.hollow = value.hollow := by
  induction value using Json.induction with
  | arr items inductionHypothesis =>
    rw [collapse_arr, hollow_arr, hollow_arr, List.map_map]
    exact congrArg Json.arr (List.map_congr_left inductionHypothesis)
  | obj members => rw [collapse_obj, hollow_obj, hollow_obj]
  | _ => rfl

theorem hollow_eq_null_iff {value : Json} : value.hollow = .null ↔ value = .null := by
  cases value with
  | arr items => simp [hollow_arr]
  | obj members => simp [hollow_obj]
  | _ => exact Iff.rfl

end Json

namespace Decode

variable {β : Type} {decode : Json → Decoded β}

/-- Whether a reader never looks at the members of an object. -/
def IgnoresMembers (decode : Json → Decoded β) : Prop :=
  ∀ value : Json, decode value.hollow = decode value

/-- Such a reader reads the same from values that differ in the members of objects alone. -/
theorem IgnoresMembers.collapse_congr (ignores : IgnoresMembers decode) {value value' : Json}
    (same : value.hollow = value'.hollow) : decode value.collapse = decode value'.collapse := by
  rw [← ignores value.collapse, ← ignores value'.collapse, Json.hollow_collapse,
    Json.hollow_collapse, same]

/-- A reader that refuses all arrays and objects alike never looks into them. -/
theorem ignoresMembers_of_leaves
    (arrays : ∀ items items', decode (.arr items) = decode (.arr items'))
    (objects : ∀ members members', decode (.obj members) = decode (.obj members')) :
    IgnoresMembers decode := by
  intro value
  cases value with
  | arr items =>
    rw [Json.hollow_arr]
    exact arrays _ _
  | obj members =>
    rw [Json.hollow_obj]
    exact objects _ _
  | _ => rfl

theorem ignoresMembers_text : IgnoresMembers text :=
  ignoresMembers_of_leaves (fun _ _ => rfl) fun _ _ => rfl

theorem ignoresMembers_int : IgnoresMembers int :=
  ignoresMembers_of_leaves (fun _ _ => rfl) fun _ _ => rfl

theorem ignoresMembers_float (source : Source) : IgnoresMembers (float source) :=
  ignoresMembers_of_leaves (fun _ _ => rfl) fun _ _ => rfl

theorem ignoresMembers_bool : IgnoresMembers bool :=
  ignoresMembers_of_leaves (fun _ _ => rfl) fun _ _ => rfl

theorem ignoresMembers_scalar : IgnoresMembers scalar :=
  ignoresMembers_of_leaves (fun _ _ => rfl) fun _ _ => rfl

theorem ignoresMembers_list (ignores : IgnoresMembers decode) :
    IgnoresMembers (list decode) := by
  intro value
  cases value with
  | arr items =>
    rw [Json.hollow_arr]
    refine congrArg Decoded.allIndexed ?_
    rw [List.map_map]
    exact List.map_congr_left fun item _ => ignores item
  | obj members =>
    rw [Json.hollow_obj]
    rfl
  | _ => rfl

theorem ignoresMembers_nullable (ignores : IgnoresMembers decode) :
    IgnoresMembers (nullable decode) := by
  intro value
  cases value with
  | null => rfl
  | arr items =>
    have read := ignores (.arr items)
    rw [Json.hollow_arr] at read ⊢
    exact congrArg (Decoded.map some) read
  | obj members =>
    have read := ignores (.obj members)
    rw [Json.hollow_obj] at read ⊢
    exact congrArg (Decoded.map some) read
  | _ => rfl

theorem ignoresMembers_typeNames : IgnoresMembers Schema.decodeTypeNames := by
  intro value
  have read := ignoresMembers_list ignoresMembers_text value
  cases value with
  | arr items =>
    rw [Json.hollow_arr] at read ⊢
    simp only [Schema.decodeTypeNames, read]
  | obj members =>
    rw [Json.hollow_obj]
    rfl
  | _ => rfl

end Decode

end Formwork
