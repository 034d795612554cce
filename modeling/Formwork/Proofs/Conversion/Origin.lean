/-
This file proves that the fields of a form that a schema was converted to are as sound
as the schema: no list has a gap, no default names a member twice, and everything in
them can be written if the document of the schema can be written.
-/

import Formwork.Proofs.Conversion.Block
import Formwork.Proofs.Conversion.Fields
import Formwork.Proofs.Form.Origin
import Formwork.Proofs.Schema.Origin

namespace Formwork

variable {legible : Prop} {defaults : FormDefaults}

/-! ### Controls -/

theorem Validation.Legible.empty : Validation.Legible {} :=
  ⟨(fun _ none => by cases none), (fun _ none => by cases none), (fun _ none => by cases none),
    (fun _ none => by cases none)⟩

theorem Validation.legible_getD {validation : Option Validation}
    (legible : ∀ present, validation = some present → present.Legible) :
    (validation.getD {}).Legible := by
  cases validation with
  | none => exact .empty
  | some present => exact legible present rfl

theorem Control.Legible.requireIf {control : Control} (legible : control.Legible)
    (required : List String) : (control.requireIf required).Legible := by
  unfold Control.requireIf
  split
  · refine ⟨legible.default, legible.value, legible.options, fun validation held => ?_⟩
    obtain rfl := Option.some.inj held
    obtain ⟨minLength, maxLength, minItems, maxItems⟩ :=
      Validation.legible_getD legible.validation
    exact ⟨minLength, maxLength, minItems, maxItems⟩
  · exact legible

theorem Control.default_requireIf (control : Control) (required : List String) :
    (control.requireIf required).default = control.default := by
  unfold requireIf
  split <;> rfl

namespace Schema

theorem Constraints.Legible.controlValidation {constraints : Constraints}
    (given : constraints.Legible) (declared : Kind) :
    ∀ validation, constraints.controlValidation defaults declared = some validation →
      validation.Legible := by
  intro validation held
  rw [Constraints.controlValidation_eq] at held
  rw [Validation.eq_of_unlessEmpty held]
  refine ⟨given.minLength, given.maxLength, fun count set => ?_, fun count set => ?_⟩
  · exact given.minItems count (Option.ite_none_right_eq_some.mp set).2
  · exact given.maxItems count (Option.ite_none_right_eq_some.mp set).2

theorem Constraints.Legible.controlOf {constraints : Constraints} {annotations : Annotations}
    (given : constraints.Legible) (default : annotations.default.Legible) (name : String)
    (declared : Kind) : (controlOf defaults name constraints annotations declared).Legible where
  default := default
  value := by
    show (if constraints.choices.isEmpty then constraints.const else .null).toJson.Legible
    split
    · exact given.const
    · trivial
  options := by
    intro option among
    obtain ⟨choice, inside, rfl⟩ := List.mem_map.mp among
    unfold Constraints.choices at inside
    cases held : constraints.enumeration with
    | none =>
      rw [held] at inside
      cases inside
    | some choices =>
      rw [held] at inside
      exact given.choices choices held choice inside
  validation := given.controlValidation declared

/-! ### Fields -/

/-- Whether the field for a node is sound and so is everything in its parts. -/
def GivesSound (legible : Prop) (defaults : FormDefaults) (schema : Schema) : Prop :=
  ∀ name, (schema.toField defaults name).Sound legible ∧
    ∀ part ∈ (schema.toField defaults name).parts,
      Field.Everywhere (Field.SoundList legible) part

theorem everywhere_orderedFields {required : List String} {members : List (String × Option Schema)}
    (gives : ∀ name node, (name, some node) ∈ members → GivesSound legible defaults node) :
    Field.Everywhere (Field.SoundList legible) (orderedFields defaults required members) := by
  refine Field.everywhere_soundList fun entry member => ?_
  cases entry with
  | none => exact absurd member none_not_mem_orderedFields
  | some field =>
    obtain ⟨name, node, listed, rfl⟩ := some_mem_orderedFields.mp member
    obtain ⟨sound, parts⟩ := gives name node listed name
    refine ⟨propertyField defaults required name node, rfl, ⟨?_, fun given => ?_, sound.trigger⟩,
      parts⟩
    · show ((node.toField defaults name).control.requireIf required).default.collapse =
        ((node.toField defaults name).control.requireIf required).default
      rw [Control.default_requireIf]
      exact sound.kept
    · exact (sound.control given).requireIf required

theorem everywhere_mappingFields {schema : Schema}
    (gives : ∀ part ∈ schema.parts, GivesSound legible defaults part) :
    Field.Everywhere (Field.SoundList legible) (schema.mappingFields defaults) := by
  rw [mappingFields_eq]
  exact everywhere_orderedFields fun _ node listed => gives node (mem_parts_of_properties listed)

theorem everywhere_branchFields {branch : Option Schema}
    (gives : ∀ schema, branch = some schema →
      ∀ part ∈ schema.parts, GivesSound legible defaults part) :
    Field.Everywhere (Field.SoundList legible) (branchFields defaults branch) := by
  cases branch with
  | none => exact Field.everywhere_soundList fun _ none => by cases none
  | some schema => exact everywhere_mappingFields (gives schema rfl)

theorem everywhere_childFields {schema : Schema}
    (gives : ∀ part ∈ schema.parts, GivesSound legible defaults part) :
    Field.Everywhere (Field.SoundList legible) (schema.childFields defaults) := by
  unfold childFields
  split
  · exact everywhere_mappingFields gives
  · split
    · rename_i items held
      have inside : items ∈ schema.parts := mem_parts_of_items held
      refine Field.everywhere_soundList fun entry member => ?_
      rw [List.mem_singleton.mp member]
      exact ⟨_, rfl, gives items inside arrayItemName⟩
    · exact Field.everywhere_soundList fun _ none => by cases none
  · exact Field.everywhere_soundList fun _ none => by cases none

/-- What a condition compares with stands in the schema of one of its properties. -/
theorem allLeaves_trigger? {holds : Json → Prop} (null : holds .null)
    {condition : Option Schema} {trigger : String × Scalar}
    (found : trigger? condition = some trigger)
    (leaves : ∀ schema, condition = some schema → ∀ part ∈ schema.parts,
      part.constraints.const.toJson.AllLeaves holds) : trigger.2.toJson.AllLeaves holds := by
  cases condition with
  | none => cases found
  | some schema =>
    have opened : triggerOf? schema.properties = some trigger := found
    cases members : schema.properties with
    | nil =>
      rw [members] at opened
      cases opened
    | cons first rest =>
      obtain ⟨name, property⟩ := first
      rw [members, triggerOf?_cons] at opened
      split at opened
      · cases opened
      · obtain rfl := Option.some.inj opened
        cases property with
        | none => exact null
        | some node =>
          have listed : (name, some node) ∈ schema.properties := by
            rw [members]
            exact List.mem_cons_self
          exact leaves schema rfl node (mem_parts_of_properties listed)

/-- The fields for all nodes of a sound schema are sound, with everything below them. -/
theorem everywhere_givesSound {schema : Schema} (sound : Everywhere (Sound legible) schema) :
    Everywhere (GivesSound legible defaults) schema := by
  refine sound.induct fun node sound below name => ?_
  -- The fields of a branch come from the parts of its schema, two levels below the node.
  have branch : ∀ branch, (∀ schema, branch = some schema → schema ∈ node.parts) →
      Field.Everywhere (Field.SoundList legible) (branchFields defaults branch) :=
    fun branch inside => everywhere_branchFields fun schema held part member =>
      ((below schema (inside schema held)).part member).here
  refine ⟨⟨?_, fun given => ?_, fun given gate held => ?_⟩, List.forall_mem_cons.mpr ⟨?_, ?_⟩⟩
  · rw [toField_control]
    exact sound.here.kept
  · rw [toField_control]
    exact (sound.here.constraints given).controlOf (sound.here.default given) name _
  · rw [toField_gate] at held
    obtain ⟨trigger, found, rfl⟩ := Option.map_eq_some_iff.mp held
    exact @allLeaves_trigger? Json.LegibleLeaf trivial _ _ found fun condition same part member =>
      (((sound.part (mem_parts_of_condition same)).part member).here.constraints given).const
  · rw [toField_children]
    exact everywhere_childFields fun part member => (below part member).here
  · rw [toField_gate]
    cases trigger? node.applicators.condition with
    | none => exact fun _ none => by cases none
    | some trigger =>
      exact List.forall_mem_cons.mpr ⟨branch _ fun _ => mem_parts_of_consequent,
        List.forall_mem_singleton.mpr (branch _ fun _ => mem_parts_of_alternative)⟩

/-- The fields of the form for a sound schema are sound. -/
theorem sound_toForm {schema : Schema} (sound : Everywhere (Sound legible) schema) :
    Field.Everywhere (Field.SoundList legible) (schema.toForm defaults).fields := by
  have gives : Everywhere (GivesSound legible defaults) schema := everywhere_givesSound sound
  rw [fields_toForm_eq]
  split
  · exact everywhere_mappingFields fun part member => (gives.part member).here
  · refine Field.everywhere_soundList fun entry member => ?_
    rw [List.mem_singleton.mp member]
    exact ⟨_, rfl, gives.here ""⟩

end Schema

end Formwork
