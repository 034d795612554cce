/-
This file proves that the serialized representation of a form can be written as text
if the values of its fields can be, and that this stays so when the numbers without
digits in its defaults are replaced by null.
-/

import Formwork.Proofs.Form.Origin
import Formwork.Proofs.Form.Values

namespace Formwork

theorem Json.legible_finiteOnly {value : Json} (legible : value.Legible) :
    value.finiteOnly.Legible := by
  induction value using Json.induction with
  | null => exact legible
  | bool value => exact legible
  | int value => exact legible
  | float value => cases value <;> trivial
  | str text => exact legible
  | arr items inductionHypothesis =>
    rw [finiteOnly_arr]
    exact legible_arr.mpr (List.forall_mem_map.mpr fun item inside =>
      inductionHypothesis item inside (legible_arr.mp legible item inside))
  | obj members inductionHypothesis =>
    rw [finiteOnly_obj]
    exact legible_obj.mpr (List.forall_mem_map.mpr fun member inside =>
      inductionHypothesis member inside (legible_obj.mp legible member inside))

/-! ### Records -/

theorem Validation.Legible.toJson {validation : Validation} (legible : validation.Legible) :
    validation.toJson.Legible := by
  rw [toJson_eq, Json.legible_obj]
  simp only [members, List.forall_mem_append, @forall_flagMember_iff Json.Legible,
    @forall_member?_iff Json.Legible]
  exact ⟨⟨⟨⟨⟨⟨⟨⟨⟨fun _ => trivial, legible.minLength⟩, legible.maxLength⟩, fun _ _ => trivial⟩,
    fun _ _ => trivial⟩, fun _ _ => trivial⟩, fun _ _ => trivial⟩, fun _ _ => trivial⟩,
    legible.minItems⟩, legible.maxItems⟩

theorem FieldOption.legible_toJson {option : FieldOption}
    (legible : option.value.toJson.Legible) : option.toJson.Legible :=
  Json.legible_obj.mpr (List.forall_mem_cons.mpr
    ⟨trivial, List.forall_mem_singleton.mpr legible⟩)

theorem Control.Legible.holds {control : Control} (legible : control.Legible) :
    control.Holds Json.Legible where
  name := trivial
  kind := trivial
  label _ _ := trivial
  description _ _ := trivial
  placeholder _ _ := trivial
  default _ := Json.legible_finiteOnly legible.default
  value _ := legible.value
  options _ := Json.legible_arr.mpr (List.forall_mem_map.mpr fun option among =>
    FieldOption.legible_toJson (legible.options option among))
  validation validation held := (legible.validation validation held).toJson
  readOnly _ := trivial
  deprecated _ := trivial

namespace Field

theorem legible_listToJson {fields : List (Option Field)}
    (legible : ∀ field, some field ∈ fields → field.toJson.Legible) :
    (Json.arr (listToJson fields)).Legible :=
  Json.legible_arr.mpr ((@forall_listToJson_iff Json.Legible fields trivial).mpr legible)

/-- A field can be written if its values can be and everything in its parts. -/
theorem legible_toJson_of_parts {field : Field} (control : field.control.Legible)
    (trigger : ∀ gate, field.gate = some gate → gate.trigger.toJson.Legible)
    (parts : ∀ part ∈ field.parts, ∀ child, some child ∈ part → child.toJson.Legible) :
    field.toJson.Legible := by
  obtain ⟨children, inGate⟩ := List.forall_mem_cons.mp parts
  rw [toJson_eq, Json.legible_obj, @forall_members_iff Json.Legible]
  refine ⟨control.holds, fun _ => legible_listToJson children, fun gate held => ?_,
    fun _ _ => trivial⟩
  rw [held] at inGate
  obtain ⟨consequent, others⟩ := List.forall_mem_cons.mp inGate
  exact Json.legible_obj.mpr ((@forall_gateMembers_iff Json.Legible gate).mpr
    ⟨trivial, fun _ => trigger gate held, fun _ => legible_listToJson consequent,
      fun _ => legible_listToJson (others _ (List.mem_singleton_self _))⟩)

/-- A sound field can be written if the document it comes from can be. -/
theorem legible_toJson {legible : Prop} (given : legible) (field : Field)
    (sound : field.Sound legible)
    (parts : ∀ part ∈ field.parts, Everywhere (SoundList legible) part) :
    field.toJson.Legible := by
  induction field using Field.induction with
  | step field inductionHypothesis =>
    refine legible_toJson_of_parts (sound.control given) (sound.trigger given)
      fun part inside child member => ?_
    obtain ⟨here, deeper⟩ := everywhere_iff.mp (parts part inside)
    obtain ⟨child', same, soundChild⟩ := here (some child) member
    obtain rfl := Option.some.inj same
    exact inductionHypothesis part inside child member soundChild (deeper child member)

end Field

/-- A form of sound fields can be written if the document it comes from can be. -/
theorem Form.legible_toJson {legible : Prop} (given : legible) {form : Form}
    (sound : Field.Everywhere (Field.SoundList legible) form.fields) : form.toJson.Legible := by
  obtain ⟨here, deeper⟩ := Field.everywhere_iff.mp sound
  have fields : ∀ field, some field ∈ form.fields → field.toJson.Legible := by
    intro field member
    obtain ⟨field', same, soundField⟩ := here (some field) member
    obtain rfl := Option.some.inj same
    exact Field.legible_toJson given field soundField (deeper field member)
  rw [toJson_eq, Json.legible_obj]
  simp only [members, List.forall_mem_append, @forall_member?_iff Json.Legible]
  exact ⟨⟨⟨⟨fun _ _ => trivial, fun _ _ => trivial⟩, fun _ _ => trivial⟩, fun _ _ => trivial⟩,
    List.forall_mem_singleton.mpr (Field.legible_listToJson fields)⟩

end Formwork
