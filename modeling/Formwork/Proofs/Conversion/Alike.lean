/-
This file says which differences of schemas the conversion does not see. Two nodes are
alike if, for the conversion, they cannot be told apart: as the root of a schema, as a
property or an item, as the condition of another node, or as a branch of a condition.

Nodes built of alike parts are alike, whatever names they require as long as it is the same
names, and whatever stands under keywords without a meaning. So are mappings of alike
nodes. Alike schemas are converted to the same form.
-/

import Formwork.Proofs.Conversion.Fields
import Formwork.Proofs.Mapping

namespace Formwork

/-- Whether two lists of names that may be missing hold the same names. -/
def SameNames (names names' : Option (List String)) : Prop :=
  ∀ name, name ∈ names.getD [] ↔ name ∈ names'.getD []

theorem Control.requireIf_congr {required required' : List String}
    (same : ∀ name, name ∈ required ↔ name ∈ required') (control : Control) :
    control.requireIf required = control.requireIf required' := by
  unfold requireIf
  simp only [List.contains_iff_mem, same]

namespace Schema

variable {defaults : FormDefaults}

theorem toFields_congr {required required' : List String}
    (same : ∀ name, name ∈ required ↔ name ∈ required')
    (members : List (String × Option Schema)) :
    toFields defaults required members = toFields defaults required' members := by
  simp only [toFields_eq, orderedFields_eq, propertyField, Control.requireIf_congr same]

/-! ### Alike parts -/

/-- Whether constraints differ at most in the order and the repetitions of the required names. -/
structure Constraints.Alike (constraints constraints' : Constraints) : Prop where
  others : { constraints with required := none } = { constraints' with required := none }
  required : SameNames constraints.required constraints'.required

/-- Whether two mappings cannot be told apart by the conversion. -/
structure MappingsAlike (members members' : List (String × Option Schema)) : Prop where
  trigger : triggerOf? (sortMembers members) = triggerOf? (sortMembers members')
  fields : ∀ defaults required, toFields defaults required members =
    toFields defaults required members'

/-- Whether two nodes cannot be told apart by the conversion. -/
structure Alike (schema schema' : Schema) : Prop where
  annotations : schema.annotations = schema'.annotations
  const : schema.constraints.const = schema'.constraints.const
  presence : schema.applicators.properties.isSome = schema'.applicators.properties.isSome
  trigger : triggerOf? schema.properties = triggerOf? schema'.properties
  mapping : ∀ defaults, schema.mappingFields defaults = schema'.mappingFields defaults
  field : ∀ defaults name, schema.toField defaults name = schema'.toField defaults name

/-- Whether the keywords that hold further nodes cannot be told apart by the conversion. -/
structure Applicators.Alike (applicators applicators' : Applicators Schema) : Prop where
  condition : Option.Rel Schema.Alike applicators.condition applicators'.condition
  consequent : Option.Rel Schema.Alike applicators.consequent applicators'.consequent
  alternative : Option.Rel Schema.Alike applicators.alternative applicators'.alternative
  properties : Option.Rel MappingsAlike applicators.properties applicators'.properties
  items : Option.Rel Schema.Alike applicators.items applicators'.items

theorem MappingsAlike.refl (members : List (String × Option Schema)) :
    MappingsAlike members members := ⟨rfl, fun _ _ => rfl⟩

theorem MappingsAlike.trans {first second third : List (String × Option Schema)}
    (alike : MappingsAlike first second) (alike' : MappingsAlike second third) :
    MappingsAlike first third :=
  ⟨alike.trigger.trans alike'.trigger, fun defaults required =>
    (alike.fields defaults required).trans (alike'.fields defaults required)⟩

theorem Alike.refl (schema : Schema) : Alike schema schema :=
  ⟨rfl, rfl, rfl, rfl, fun _ => rfl, fun _ _ => rfl⟩

theorem Alike.trans {first second third : Schema} (alike : Alike first second)
    (alike' : Alike second third) : Alike first third where
  annotations := alike.annotations.trans alike'.annotations
  const := alike.const.trans alike'.const
  presence := alike.presence.trans alike'.presence
  trigger := alike.trigger.trans alike'.trigger
  mapping defaults := (alike.mapping defaults).trans (alike'.mapping defaults)
  field defaults name := (alike.field defaults name).trans (alike'.field defaults name)

section Ordered

variable {members members' : List (String × Option Schema)}
  (each : List.Forall₂ (RelatedMember (Option.Rel Alike)) members members')

include each

theorem triggerOf?_congr : triggerOf? members = triggerOf? members' := by
  cases each with
  | nil => rfl
  | @cons first first' _ _ head _ =>
    obtain ⟨name, node⟩ := first
    obtain ⟨_, node'⟩ := first'
    obtain ⟨rfl, nodes⟩ := head
    rw [triggerOf?_cons, triggerOf?_cons]
    cases nodes with
    | none => rfl
    | some alike => simp only [Option.map_some, alike.const]

theorem orderedFields_congr (required : List String) :
    orderedFields defaults required members = orderedFields defaults required members' := by
  induction each with
  | nil => rfl
  | @cons first first' _ _ head _ inductionHypothesis =>
    obtain ⟨name, node⟩ := first
    obtain ⟨_, node'⟩ := first'
    obtain ⟨rfl, nodes⟩ := head
    cases nodes with
    | none => exact inductionHypothesis
    | some alike =>
      rw [orderedFields, orderedFields, propertyField, propertyField, alike.field,
        inductionHypothesis]

/-- Mappings of alike nodes under the same names are alike. -/
theorem MappingsAlike.of_forall₂ : MappingsAlike members members' where
  trigger := triggerOf?_congr (forall₂_sortMembers each)
  fields defaults required := by
    rw [toFields_eq, toFields_eq, orderedFields_congr (forall₂_sortMembers each)]

end Ordered

/-! ### Nodes of alike parts -/

theorem field_ext {field field' : Field} (control : field.control = field'.control)
    (children : field.children = field'.children) (gate : field.gate = field'.gate) :
    field = field' := by
  cases field
  cases field'
  simp_all

theorem childFields_congr {schema schema' : Schema}
    (declared : schema.declaredKind = schema'.declaredKind)
    (mapping : schema.mappingFields defaults = schema'.mappingFields defaults)
    (items : Option.Rel Alike schema.applicators.items schema'.applicators.items) :
    schema.childFields defaults = schema'.childFields defaults := by
  rw [childFields, childFields, declared, mapping]
  revert items
  generalize schema.applicators.items = item
  generalize schema'.applicators.items = item'
  rintro (alike | _)
  · simp only [alike.field]
  · rfl

theorem mappingFields_congr {schema schema' : Schema}
    (required : SameNames schema.constraints.required schema'.constraints.required)
    (properties : Option.Rel MappingsAlike schema.applicators.properties
      schema'.applicators.properties) :
    schema.mappingFields defaults = schema'.mappingFields defaults := by
  unfold mappingFields
  revert properties
  generalize schema.applicators.properties = given
  generalize schema'.applicators.properties = given'
  rintro (alike | _)
  · exact (alike.fields defaults _).trans (toFields_congr required _)
  · rfl

theorem triggerOf?_properties_congr {schema schema' : Schema}
    (alike : Option.Rel MappingsAlike schema.applicators.properties
      schema'.applicators.properties) :
    triggerOf? schema.properties = triggerOf? schema'.properties := by
  unfold properties
  revert alike
  generalize schema.applicators.properties = given
  generalize schema'.applicators.properties = given'
  rintro (alike | _)
  · exact alike.trigger
  · rfl

theorem branchFields_congr {branch branch' : Option Schema}
    (alike : Option.Rel Alike branch branch') :
    branchFields defaults branch = branchFields defaults branch' := by
  cases alike with
  | none => rfl
  | some alike => exact alike.mapping defaults

theorem trigger?_congr {condition condition' : Option Schema}
    (alike : Option.Rel Alike condition condition') :
    trigger? condition = trigger? condition' := by
  cases alike with
  | none => rfl
  | some alike => exact alike.trigger

section Node

variable {identity identity' : Identity} {applicators applicators' : Applicators Schema}
  {constraints constraints' : Constraints} {annotations : Annotations}

theorem controlOf_congr (alike : constraints.Alike constraints') (name : String)
    (declared : Kind) :
    controlOf defaults name constraints annotations declared =
      controlOf defaults name constraints' annotations declared := by
  show controlOf defaults name { constraints with required := none } annotations declared =
    controlOf defaults name { constraints' with required := none } annotations declared
  rw [alike.others]

theorem declaredKindOf_congr (alike : constraints.Alike constraints') (properties items : Bool) :
    declaredKindOf constraints properties items = declaredKindOf constraints' properties items := by
  show declaredKindOf { constraints with required := none } properties items =
    declaredKindOf { constraints' with required := none } properties items
  rw [alike.others]

theorem isSome_congr {α β : Type} {related : α → β → Prop} {value : Option α} {value' : Option β}
    (alike : Option.Rel related value value') : value.isSome = value'.isSome := by
  cases alike <;> rfl

/-- Nodes of alike parts are alike if their constraints declare one kind and give one control. -/
theorem Alike.of_constraints (held : applicators.Alike applicators')
    (const : constraints.const = constraints'.const)
    (required : SameNames constraints.required constraints'.required)
    (kinds : ∀ properties items,
      declaredKindOf constraints properties items = declaredKindOf constraints' properties items)
    (controls : ∀ defaults name declared,
      controlOf defaults name constraints annotations declared =
        controlOf defaults name constraints' annotations declared) :
    Alike (.node identity applicators constraints annotations)
      (.node identity' applicators' constraints' annotations) := by
  have declared :
      (Schema.node identity applicators constraints annotations).declaredKind =
        (Schema.node identity' applicators' constraints' annotations).declaredKind := by
    show declaredKindOf constraints _ _ = declaredKindOf constraints' _ _
    rw [kinds, Schema.applicators, Schema.applicators,
      isSome_congr held.properties, isSome_congr held.items]
  have mapping : ∀ defaults,
      (Schema.node identity applicators constraints annotations).mappingFields defaults =
        (Schema.node identity' applicators' constraints' annotations).mappingFields defaults :=
    fun _ => mappingFields_congr required held.properties
  refine ⟨rfl, const, isSome_congr held.properties, triggerOf?_properties_congr held.properties,
    mapping, fun defaults name => field_ext ?_ ?_ ?_⟩
  · rw [toField_control, toField_control, declared]
    exact controls defaults name _
  · rw [toField_children, toField_children]
    exact childFields_congr declared (mapping defaults) held.items
  · rw [toField_gate, toField_gate]
    simp only [Schema.applicators, trigger?_congr held.condition,
      branchFields_congr held.consequent, branchFields_congr held.alternative]

/-- Nodes of alike parts are alike. -/
theorem Alike.node (held : applicators.Alike applicators')
    (restricted : constraints.Alike constraints') :
    Alike (.node identity applicators constraints annotations)
      (.node identity' applicators' constraints' annotations) := by
  have const : constraints.const = constraints'.const := by
    show { constraints with required := none }.const = { constraints' with required := none }.const
    rw [restricted.others]
  exact .of_constraints held const restricted.required (declaredKindOf_congr restricted)
    fun _ => controlOf_congr restricted

end Node

/-- Alike schemas are converted to the same form. -/
theorem Alike.toForm_eq {schema schema' : Schema} (alike : schema.Alike schema') :
    schema.toForm defaults = schema'.toForm defaults := by
  have same : (schema.toForm defaults).fields = (schema'.toForm defaults).fields := by
    rw [fields_toForm_eq, fields_toForm_eq, alike.presence, alike.mapping, alike.field]
  show { (schema.toForm defaults) with fields := (schema.toForm defaults).fields } = _
  rw [same]
  simp only [toForm, alike.annotations]

end Schema

end Formwork
