/-
This file proves that single values read back which were written as members of an object:
texts, numbers and truth values under the name they were written under, and values that are
left out when they are null. An object is read with all its values collapsed, which changes
none of these.
-/

import Formwork.Proofs.Form.Members

namespace Formwork

theorem Scalar.collapse_toJson (value : Scalar) : value.toJson.collapse = value.toJson := by
  cases value <;> rfl

namespace Decode

variable {source : Source} {names : List String} (name : String) {members : List (String × Json)}

theorem scalar_toJson (value : Scalar) : scalar value.toJson = .ok value := by
  cases value <;> rfl

/-- A list reads back from an array of the values that its items were written as. -/
theorem list_toJson {α : Type} {read : Json → Decoded α} {encode : α → Json} {values : List α}
    (reads : ∀ value ∈ values, read (encode value) = .ok value) :
    list read (.arr (values.map encode)) = .ok values := by
  rw [list, Decoded.allIndexed_eq_ok, List.map_map]
  exact List.map_congr_left reads

/-- An array of values that collapsing leaves alone is left alone. -/
theorem collapse_arr_map {α : Type} {encode : α → Json}
    (kept : ∀ value, (encode value).collapse = encode value) (values : List α) :
    (Json.arr (values.map encode)).collapse = .arr (values.map encode) := by
  rw [Json.collapse_arr, List.map_map]
  exact congrArg Json.arr (List.map_congr_left fun value _ => kept value)

/-! ### Members under their names -/

theorem read_text {value : Option String}
    (finds : find? names members = (value.map Json.str).map fun member => (name, member)) :
    optional names text (members.map fun member => (member.1, member.2.collapse)) = .ok value :=
  optional_map_of_find? Json.collapse name .str finds (fun _ => rfl) (fun _ _ => rfl) (by simp)

theorem read_float {value : Option Binary64}
    (finds : find? names members = (value.map Json.float).map fun member => (name, member)) :
    optional names (float source) (members.map fun member => (member.1, member.2.collapse)) =
      .ok value :=
  optional_map_of_find? Json.collapse name .float finds (fun _ => rfl) (fun _ _ => rfl) (by simp)

theorem read_int {value : Option Int}
    (finds : find? names members = (value.map Json.int).map fun member => (name, member)) :
    optional names int (members.map fun member => (member.1, member.2.collapse)) = .ok value :=
  optional_map_of_find? Json.collapse name .int finds (fun _ => rfl) (fun _ _ => rfl) (by simp)

theorem read_bool {value : Option Bool}
    (finds : find? names members = (value.map Json.bool).map fun member => (name, member)) :
    optional names bool (members.map fun member => (member.1, member.2.collapse)) = .ok value :=
  optional_map_of_find? Json.collapse name .bool finds (fun _ => rfl) (fun _ _ => rfl) (by simp)

/-- A list under a name reads as the list that the member was written for. -/
theorem read_list {α : Type} {read : Json → Decoded α} {values : Option (List α)}
    (encode : α → Json) (kept : ∀ value, (encode value).collapse = encode value)
    (reads : ∀ value, read (encode value) = .ok value)
    (finds : find? names members =
      (values.map fun values => Json.arr (values.map encode)).map fun member => (name, member)) :
    optional names (list read) (members.map fun member => (member.1, member.2.collapse)) =
      .ok values :=
  optional_map_of_find? Json.collapse name (fun values => .arr (values.map encode)) finds
    (collapse_arr_map kept) (fun _ _ => list_toJson fun value _ => reads value) (by simp)

/-- A value that is left out when it is null reads as that value. -/
theorem read_unlessNull {β : Type} {absent value : β} {read : Json → Decoded β} {given : Json}
    (encode : Json → Json) (reads : read (encode given).collapse = .ok value)
    (otherwise : given = .null → absent = value)
    (finds : find? names members =
      (given.unlessNull.map encode).map fun member => (name, member)) :
    withDefault names absent read (members.map fun member => (member.1, member.2.collapse)) =
      .ok value := by
  rw [withDefault, entry_map]
  refine entry_of_find? name encode finds ?_ ?_
  · intro present held
    rw [← (Json.unlessNull_eq_some.mp held).2]
    exact reads
  · intro held
    rw [otherwise (Json.unlessNull_eq_none.mp held)]

theorem read_scalar {value : Scalar}
    (finds : find? names members =
      (value.toJson.unlessNull.map id).map fun member => (name, member)) :
    withDefault names .null scalar (members.map fun member => (member.1, member.2.collapse)) =
      .ok value := by
  refine read_unlessNull name id ?_ (fun null => ?_) finds
  · rw [id, Scalar.collapse_toJson, scalar_toJson]
  · cases value <;> cases null
    rfl

end Decode

end Formwork
