/-
This file takes the field of a schema apart: its control, its children and its gate
are each given by the keywords of the node and by the fields of the nodes below it.
-/

import Formwork.Conversion.Fields
import Formwork.Proofs.Form.Tree
import Formwork.Proofs.Schema.Tree

namespace Formwork

namespace Schema

variable {defaults : FormDefaults}

/-- The field for a property: the field for its schema, required if the owner says so. -/
def propertyField (defaults : FormDefaults) (required : List String) (name : String)
    (schema : Schema) : Field :=
  (schema.toField defaults name).withControl
    ((schema.toField defaults name).control.requireIf required)

/-- The fields for properties that are given in their order; a missing schema gives no field. -/
def orderedFields (defaults : FormDefaults) (required : List String) :
    List (String × Option Schema) → List (Option Field)
  | [] => []
  | (_, none) :: rest => orderedFields defaults required rest
  | (name, some schema) :: rest =>
    some (propertyField defaults required name schema) :: orderedFields defaults required rest

theorem orderedFields_eq (required : List String) (members : List (String × Option Schema)) :
    orderedFields defaults required members =
      members.filterMap fun member =>
        member.2.map fun schema => some (propertyField defaults required member.1 schema) := by
  induction members with
  | nil => rfl
  | cons member rest inductionHypothesis =>
    obtain ⟨name, schema⟩ := member
    cases schema with
    | none => rw [orderedFields, inductionHypothesis, List.filterMap_cons_none rfl]
    | some schema =>
      rw [orderedFields, inductionHypothesis]
      rfl

theorem namedFields_eq (required : List String) (members : List (String × Option Schema)) :
    namedFields defaults required members =
      members.map (changeMember fun name => Option.map (propertyField defaults required name)) := by
  induction members with
  | nil => rfl
  | cons member rest inductionHypothesis =>
    obtain ⟨name, schema⟩ := member
    cases schema <;> rw [namedFields, inductionHypothesis] <;> rfl

/-- A mapping gives one field for each of its members that is not null, in the order of their
names. -/
theorem toFields_eq (required : List String) (members : List (String × Option Schema)) :
    toFields defaults required members =
      orderedFields defaults required (sortMembers members) := by
  rw [toFields, fieldsInOrder, namedFields_eq, sortMembers_map, List.filterMap_map,
    orderedFields_eq]
  refine congrArg (List.filterMap · _) (funext fun member => ?_)
  obtain ⟨name, schema⟩ := member
  cases schema <;> rfl

theorem some_mem_orderedFields {required : List String} {members : List (String × Option Schema)}
    {field : Field} :
    some field ∈ orderedFields defaults required members ↔
      ∃ key node, (key, some node) ∈ members ∧
        propertyField defaults required key node = field := by
  rw [orderedFields_eq, List.mem_filterMap]
  constructor
  · rintro ⟨⟨key, node⟩, member, same⟩
    obtain ⟨node, rfl, same⟩ := Option.map_eq_some_iff.mp same
    exact ⟨key, node, member, Option.some.inj same⟩
  · rintro ⟨key, node, member, rfl⟩
    exact ⟨(key, some node), member, rfl⟩

theorem none_not_mem_orderedFields {required : List String}
    {members : List (String × Option Schema)} :
    none ∉ orderedFields defaults required members := by
  rw [orderedFields_eq, List.mem_filterMap]
  rintro ⟨⟨key, node⟩, _, same⟩
  obtain ⟨_, _, same⟩ := Option.map_eq_some_iff.mp same
  cases same

/-- The fields for the properties of a node, none if it has no properties. -/
def mappingFields (defaults : FormDefaults) (schema : Schema) : List (Option Field) :=
  match schema.applicators.properties with
  | some members => toFields defaults (schema.constraints.required.getD []) members
  | none => []

theorem mappingFields_eq (schema : Schema) :
    schema.mappingFields defaults =
      orderedFields defaults (schema.constraints.required.getD []) schema.properties := by
  rw [mappingFields, properties, ← toFields_eq]
  cases schema.applicators.properties <;> rfl

/-- The fields for the properties of a node that may be missing. -/
def branchFields (defaults : FormDefaults) : Option Schema → List (Option Field)
  | some schema => schema.mappingFields defaults
  | none => []

/-- The children of the field for a node: its properties if it is declared as an object, and its
items if it is declared as an array. -/
def childFields (defaults : FormDefaults) (schema : Schema) : List (Option Field) :=
  match schema.declaredKind with
  | .object => schema.mappingFields defaults
  | .array =>
    match schema.applicators.items with
    | some items => [some (items.toField defaults arrayItemName)]
    | none => []
  | _ => []

theorem toField_control (name : String) (schema : Schema) :
    (schema.toField defaults name).control =
      controlOf defaults name schema.constraints schema.annotations schema.declaredKind := by
  obtain ⟨identity, ⟨_, _, _, _, _, _, _, _, _, _⟩, constraints, annotations⟩ := schema
  rw [toField.eq_def]
  rfl

theorem toField_children (name : String) (schema : Schema) :
    (schema.toField defaults name).children = schema.childFields defaults := by
  obtain ⟨identity, ⟨_, _, _, _, _, _, _, _, properties, items⟩, constraints, annotations⟩ :=
    schema
  rw [toField.eq_def]
  simp only [Field.children, childFields, mappingFields, declaredKind, applicators,
    Schema.constraints]
  generalize declaredKindOf constraints properties.isSome items.isSome = declared
  cases declared with
  | object => cases properties <;> rfl
  | array => cases items <;> rfl
  | _ => rfl

theorem toField_gate (name : String) (schema : Schema) :
    (schema.toField defaults name).gate =
      (trigger? schema.applicators.condition).map fun trigger =>
        ⟨trigger.1, trigger.2, branchFields defaults schema.applicators.consequent,
          branchFields defaults schema.applicators.alternative⟩ := by
  obtain ⟨identity, ⟨_, _, _, _, _, condition, consequent, alternative, _, _⟩, constraints,
    annotations⟩ := schema
  rw [toField.eq_def]
  simp only [Field.gate, applicators]
  cases trigger? condition with
  | none => rfl
  | some trigger =>
    simp only [Option.map_some, Option.some.injEq, Gate.mk.injEq, true_and]
    refine ⟨?_, ?_⟩
    · cases consequent with
      | none => rfl
      | some branch =>
        obtain ⟨_, ⟨_, _, _, _, _, _, _, _, properties, _⟩, _, _⟩ := branch
        cases properties <;> rfl
    · cases alternative with
      | none => rfl
      | some branch =>
        obtain ⟨_, ⟨_, _, _, _, _, _, _, _, properties, _⟩, _, _⟩ := branch
        cases properties <;> rfl

theorem triggerOf?_cons (key : String) (node : Option Schema)
    (rest : List (String × Option Schema)) :
    triggerOf? ((key, node) :: rest) =
      if key.isEmpty then none
      else some (key, (node.map (·.constraints.const)).getD .null) := by
  cases node <;> rfl

theorem fields_toForm (schema : Schema) :
    (schema.toForm defaults).fields =
      match schema.applicators.properties with
      | some members => toFields defaults (schema.constraints.required.getD []) members
      | none => [some (schema.toField defaults "")] := rfl

theorem fields_toForm_eq (schema : Schema) :
    (schema.toForm defaults).fields =
      if schema.applicators.properties.isSome then schema.mappingFields defaults
      else [some (schema.toField defaults "")] := by
  rw [fields_toForm, mappingFields]
  cases schema.applicators.properties <;> rfl

end Schema

end Formwork
