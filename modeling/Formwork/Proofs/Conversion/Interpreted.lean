/-
This file says which keywords the conversion interprets, and proves that it depends on no
others. Which keywords count depends on the place of a node and on its other keywords: a
constant counts for nothing beside choices, items and their bounds count for arrays alone,
properties and required names for objects alone, and the branches of a condition only if
the condition reads a property.

Two schemas agree if they differ at most in what is not interpreted, at any number of
nodes. Their forms are compared from the outside in, along the nodes that the conversion
visits.
-/

import Formwork.Proofs.Conversion.Alike
import Formwork.Proofs.Conversion.Correspondence
import Formwork.Schema.Decode

namespace Formwork

namespace Schema

variable {defaults : FormDefaults} {schema schema' : Schema}

/-! ### What is interpreted -/

/-- The constraints that count at every node. -/
def Constraints.core (constraints : Constraints) : Constraints :=
  { constraints with
    const := .null
    minItems := none
    maxItems := none
    uniqueItems := none
    required := none }

/-- The keys of the properties of a node in order, each with whether it has a schema. -/
def keys (schema : Schema) : Option (List (String × Bool)) :=
  schema.applicators.properties.map fun _ =>
    schema.properties.map fun member => (member.1, member.2.isSome)

/-- Which nodes own the mappings that are read for two nodes: the nodes themselves if one of them
is declared as an object, and their branches if the condition of the first one reads a property. -/
inductive Owners (schema schema' : Schema) : Schema → Schema → Prop where
  | object :
    schema.declaredKind = .object ∨ schema'.declaredKind = .object →
      Owners schema schema' schema schema'
  | consequent {name : String} {branch branch' : Schema} :
    schema.ReadsProperty name → schema.applicators.consequent = some branch →
      schema'.applicators.consequent = some branch' → Owners schema schema' branch branch'
  | alternative {name : String} {branch branch' : Schema} :
    schema.ReadsProperty name → schema.applicators.alternative = some branch →
      schema'.applicators.alternative = some branch' → Owners schema schema' branch branch'

/-- Whether the own keywords of two nodes are the same as far as they are interpreted. -/
structure SameKeywords (schema schema' : Schema) : Prop where
  annotations : schema.annotations = schema'.annotations
  core : schema.constraints.core = schema'.constraints.core
  const : schema.constraints.choices = [] → schema.constraints.const = schema'.constraints.const
  array : schema.declaredKind = .array ∨ schema'.declaredKind = .array →
    schema.constraints.minItems = schema'.constraints.minItems ∧
      schema.constraints.maxItems = schema'.constraints.maxItems ∧
      schema.applicators.items.isSome = schema'.applicators.items.isSome
  condition : ∀ name value, schema.Compares name value ↔ schema'.Compares name value
  branches : ∀ name, schema.ReadsProperty name →
    schema.applicators.consequent.isSome = schema'.applicators.consequent.isSome ∧
      schema.applicators.alternative.isSome = schema'.applicators.alternative.isSome
  mappings : ∀ owner owner', Owners schema schema' owner owner' →
    owner.keys = owner'.keys ∧ owner.constraints.required = owner'.constraints.required

/-- Whether two nodes differ at most in what is not interpreted, at all nodes that the conversion
visits from them. -/
inductive Agree : Schema → Schema → Prop where
  | node {schema schema' : Schema} (keywords : SameKeywords schema schema')
    (properties : ∀ owner owner', Owners schema schema' owner owner' → ∀ key node node',
      (key, some node) ∈ owner.properties → (key, some node') ∈ owner'.properties →
        Agree node node')
    (items : schema.declaredKind = .array → ∀ node node',
      schema.applicators.items = some node → schema'.applicators.items = some node' →
        Agree node node') :
    Agree schema schema'

/-- Whether two roots differ at most in what is not interpreted. At a root with properties, only
these, the required names, the title and the description are. -/
inductive RootsAgree : Schema → Schema → Prop where
  | mapping {schema schema' : Schema} :
    schema.applicators.properties.isSome = true → schema.keys = schema'.keys →
      schema.constraints.required = schema'.constraints.required →
      schema.annotations.title = schema'.annotations.title →
      schema.annotations.description = schema'.annotations.description →
      (∀ key node node', (key, some node) ∈ schema.properties →
        (key, some node') ∈ schema'.properties → Agree node node') →
      RootsAgree schema schema'
  | single {schema schema' : Schema} :
    schema.applicators.properties = none → schema'.applicators.properties = none →
      Agree schema schema' → RootsAgree schema schema'

/-! ### Nodes with the same keywords -/

theorem isSome_properties_of_keys (same : schema.keys = schema'.keys) :
    schema.applicators.properties.isSome = schema'.applicators.properties.isSome := by
  have present := congrArg Option.isSome same
  rwa [keys, keys, Option.isSome_map, Option.isSome_map] at present

/-- Nodes with the same interpreted keywords have the same declared kind. -/
theorem SameKeywords.declaredKind_eq (same : SameKeywords schema schema') :
    schema.declaredKind = schema'.declaredKind := by
  have cores : ∀ properties items, declaredKindOf schema.constraints properties items =
      declaredKindOf schema'.constraints properties items := by
    intro properties items
    have core : declaredKindOf schema.constraints.core properties items =
        declaredKindOf schema'.constraints.core properties items := by rw [same.core]
    exact core
  have object : schema.declaredKind = .object ∨ schema'.declaredKind = .object →
      schema.applicators.properties.isSome = schema'.applicators.properties.isSome := fun object =>
    isSome_properties_of_keys (same.mappings _ _ (.object object)).1
  have array : schema.declaredKind = .array ∨ schema'.declaredKind = .array →
      schema.applicators.items.isSome = schema'.applicators.items.isSome := fun array =>
    (same.array array).2.2
  revert object array
  simp only [declaredKind, cores]
  generalize schema.applicators.properties.isSome = properties
  generalize schema'.applicators.properties.isSome = properties'
  generalize schema.applicators.items.isSome = items
  generalize schema'.applicators.items.isSome = items'
  unfold declaredKindOf
  -- Only without a type does it matter which keywords are there.
  split
  · cases properties <;> cases properties' <;> cases items <;> cases items' <;> simp
  · exact fun _ _ => rfl
  · exact fun _ _ => rfl

/-- Nodes with the same interpreted keywords have the same control. -/
theorem SameKeywords.control_eq (same : SameKeywords schema schema') (name : String) :
    (schema.toField defaults name).control = (schema'.toField defaults name).control := by
  have choices : schema.constraints.choices = schema'.constraints.choices := by
    have core : schema.constraints.core.choices = schema'.constraints.core.choices := by
      rw [same.core]
    exact core
  have validation : schema.constraints.validation defaults =
      schema'.constraints.validation defaults := by
    have core : schema.constraints.core.validation defaults =
        schema'.constraints.core.validation defaults := by rw [same.core]
    exact core
  have kind : ∀ declared, schema.constraints.kind declared = schema'.constraints.kind declared := by
    intro declared
    unfold Constraints.kind
    rw [← choices]
    cases held : schema.constraints.choices with
    | nil => rw [same.const held]
    | cons choice rest => rfl
  have value : (if schema.constraints.choices.isEmpty then schema.constraints.const else .null) =
      if schema'.constraints.choices.isEmpty then schema'.constraints.const else .null := by
    rw [← choices]
    cases held : schema.constraints.choices with
    | nil => rw [same.const held]
    | cons choice rest => rfl
  have rules : schema.constraints.controlValidation defaults schema.declaredKind =
      schema'.constraints.controlValidation defaults schema.declaredKind := by
    unfold Constraints.controlValidation
    rw [validation]
    by_cases array : schema.declaredKind = .array
    · obtain ⟨minItems, maxItems, _⟩ := same.array (Or.inl array)
      rw [minItems, maxItems]
    · simp only [array, false_and, if_false]
  rw [toField_control, toField_control, ← same.declaredKind_eq]
  simp only [controlOf, kind, choices ▸ value, choices, rules, same.annotations]

/-! ### Mappings of agreeing nodes -/

/-- Mappings with the same keys give the same fields if their nodes do. -/
theorem orderedFields_eq_of_keys {required : List String}
    {members members' : List (String × Option Schema)}
    (keys : members.map (fun member => (member.1, member.2.isSome)) =
      members'.map fun member => (member.1, member.2.isSome))
    (nodes : ∀ key node node', (key, some node) ∈ members → (key, some node') ∈ members' →
      ∀ name, node.toField defaults name = node'.toField defaults name) :
    orderedFields defaults required members = orderedFields defaults required members' := by
  induction members generalizing members' with
  | nil =>
    obtain rfl := List.map_eq_nil_iff.mp keys.symm
    rfl
  | cons first rest inductionHypothesis =>
    obtain ⟨first', rest', rfl, head, tail⟩ := List.map_eq_cons_iff.mp keys.symm
    have others := inductionHypothesis tail.symm fun key node node' member member' =>
      nodes key node node' (List.mem_cons_of_mem _ member) (List.mem_cons_of_mem _ member')
    obtain ⟨key, node⟩ := first
    obtain ⟨key', node'⟩ := first'
    obtain ⟨rfl, presence⟩ := Prod.mk.inj head
    cases node with
    | none =>
      obtain rfl : node' = none := Option.isNone_iff_eq_none.mp (by simpa using presence)
      exact others
    | some node =>
      obtain ⟨node', rfl⟩ := Option.isSome_iff_exists.mp presence
      rw [orderedFields, orderedFields, others, propertyField, propertyField,
        nodes _ node node' List.mem_cons_self List.mem_cons_self]

theorem mappingFields_eq_of_keys (keys : schema.keys = schema'.keys)
    (required : schema.constraints.required = schema'.constraints.required)
    (nodes : ∀ key node node', (key, some node) ∈ schema.properties →
      (key, some node') ∈ schema'.properties →
        ∀ name, node.toField defaults name = node'.toField defaults name) :
    schema.mappingFields defaults = schema'.mappingFields defaults := by
  rw [mappingFields_eq, mappingFields_eq, required]
  refine orderedFields_eq_of_keys ?_ nodes
  have listed : ∀ schema : Schema, schema.properties.map
      (fun member => (member.1, member.2.isSome)) = schema.keys.getD [] := by
    intro schema
    rw [Schema.keys, Schema.properties]
    cases schema.applicators.properties <;> rfl
  rw [listed, listed, keys]

/-- Parts that are there both or not at all give the same if they do where they are there. -/
theorem elim_eq {α β : Type} {part part' : Option α} {absent : β} {present : α → β}
    (presence : part.isSome = part'.isSome)
    (same : ∀ value value', part = some value → part' = some value' →
      present value = present value') :
    part.elim absent present = part'.elim absent present := by
  cases part with
  | none =>
    obtain rfl : part' = none := Option.isNone_iff_eq_none.mp (by simpa using presence.symm)
    rfl
  | some value =>
    obtain ⟨value', rfl⟩ := Option.isSome_iff_exists.mp presence.symm
    exact same value value' rfl rfl

theorem branchFields_eq (branch : Option Schema) :
    branchFields defaults branch = branch.elim [] (mappingFields defaults) := by
  cases branch <;> rfl

theorem childFields_of_array (array : schema.declaredKind = .array) :
    schema.childFields defaults = schema.applicators.items.elim []
      fun items => [some (items.toField defaults arrayItemName)] := by
  rw [childFields, array]
  cases schema.applicators.items <;> rfl

/-! ### Agreeing schemas -/

theorem SameKeywords.trigger_eq (same : SameKeywords schema schema') :
    trigger? schema.applicators.condition = trigger? schema'.applicators.condition := by
  refine Option.ext fun trigger => ?_
  rw [← compares_iff, ← compares_iff]
  exact same.condition trigger.1 trigger.2

/-- Agreeing nodes give the same field. -/
theorem Agree.toField_eq (agree : Agree schema schema') (name : String) :
    schema.toField defaults name = schema'.toField defaults name := by
  induction agree generalizing name with
  | @node schema schema' keywords _ _ propertiesHypothesis itemsHypothesis =>
    have mapping : ∀ owner owner', Owners schema schema' owner owner' →
        owner.mappingFields defaults = owner'.mappingFields defaults := by
      intro owner owner' owners
      obtain ⟨keys, required⟩ := keywords.mappings owner owner' owners
      exact mappingFields_eq_of_keys keys required (propertiesHypothesis owner owner' owners)
    refine field_ext (keywords.control_eq name) ?_ ?_
    · rw [toField_children, toField_children]
      by_cases array : schema.declaredKind = .array
      · rw [childFields_of_array array, childFields_of_array (keywords.declaredKind_eq ▸ array)]
        refine elim_eq (keywords.array (Or.inl array)).2.2 fun node node' held held' => ?_
        rw [itemsHypothesis array node node' held held']
      · rw [childFields, childFields, ← keywords.declaredKind_eq]
        cases declared : schema.declaredKind with
        | object => exact mapping _ _ (.object (Or.inl declared))
        | array => exact absurd declared array
        | _ => rfl
    · rw [toField_gate, toField_gate, ← keywords.trigger_eq]
      cases trigger : trigger? schema.applicators.condition with
      | none => rfl
      | some read =>
        have reads : schema.ReadsProperty read.1 := readsProperty_iff.mpr ⟨read.2, trigger⟩
        obtain ⟨consequent, alternative⟩ := keywords.branches read.1 reads
        rw [Option.map_some, Option.map_some, branchFields_eq, branchFields_eq, branchFields_eq,
          branchFields_eq,
          elim_eq consequent fun _ _ held held' => mapping _ _ (.consequent reads held held'),
          elim_eq alternative fun _ _ held held' => mapping _ _ (.alternative reads held held')]

/-- Agreeing schemas are converted to the same form. -/
theorem toForm_eq_of_rootsAgree (agree : RootsAgree schema schema') (defaults : FormDefaults) :
    schema.toForm defaults = schema'.toForm defaults := by
  have parts : schema.annotations.title = schema'.annotations.title ∧
      schema.annotations.description = schema'.annotations.description ∧
      (schema.toForm defaults).fields = (schema'.toForm defaults).fields := by
    cases agree with
    | mapping present keys required title description nodes =>
      refine ⟨title, description, ?_⟩
      rw [fields_toForm_eq, fields_toForm_eq, ← isSome_properties_of_keys keys, if_pos present,
        if_pos present]
      exact mappingFields_eq_of_keys keys required fun key node node' member member' =>
        (nodes key node node' member member').toField_eq
    | single absent absent' agree =>
      have annotations : schema.annotations = schema'.annotations := by
        cases agree with
        | node keywords _ _ => exact keywords.annotations
      refine ⟨by rw [annotations], by rw [annotations], ?_⟩
      rw [fields_toForm_eq, fields_toForm_eq, absent, absent',
        agree.toField_eq ""]
      rfl
  obtain ⟨title, description, fields⟩ := parts
  have opened : ∀ schema : Schema, schema.toForm defaults =
      { title := schema.annotations.title
        description := schema.annotations.description
        method := defaults.method
        fields := (schema.toForm defaults).fields } := fun _ => rfl
  rw [opened schema, opened schema', title, description, fields]

/-! ### Schemas that agree -/

theorem Owners.eq {owner owner' : Schema} (owners : Owners schema schema owner owner') :
    owner = owner' := by
  cases owners with
  | object => rfl
  | consequent _ held held' => exact Option.some.inj (held.symm.trans held')
  | alternative _ held held' => exact Option.some.inj (held.symm.trans held')

/-- The nodes of a mapping that is read for a node are inside of the node. -/
theorem Owners.exists_part {owner owner' node : Schema} {key : String}
    (owners : Owners schema schema' owner owner') (member : (key, some node) ∈ owner.properties) :
    ∃ part ∈ schema.parts, Within part node := by
  have inside := mem_parts_of_properties member
  cases owners with
  | object => exact ⟨node, inside, .self⟩
  | consequent _ held => exact ⟨owner, mem_parts_of_consequent held, Within.self.part inside⟩
  | alternative _ held => exact ⟨owner, mem_parts_of_alternative held, Within.self.part inside⟩

/-- Every node agrees with itself. -/
theorem Agree.refl (schema : Schema) : Agree schema schema := by
  suffices everywhere : Everywhere (fun node => Agree node node) schema from everywhere.here
  refine everywhere_of_below (fun schema below => ?_) schema
  have keywords : SameKeywords schema schema :=
    { annotations := rfl
      core := rfl
      const := fun _ => rfl
      array := fun _ => ⟨rfl, rfl, rfl⟩
      condition := fun _ _ => Iff.rfl
      branches := fun _ _ => ⟨rfl, rfl⟩
      mappings := fun owner owner' owners => by rw [owners.eq]; exact ⟨rfl, rfl⟩ }
  refine .node keywords ?_ ?_
  · intro owner owner' owners key node node' member member'
    obtain rfl := owners.eq
    have ascending := owner.ascending_properties
    obtain rfl := Option.some.inj (Option.some.inj
      ((lookup_of_mem ascending member).symm.trans (lookup_of_mem ascending member')))
    obtain ⟨part, inside, within⟩ := owners.exists_part member
    exact below part inside node within
  · intro _ node node' held held'
    obtain rfl := Option.some.inj (held.symm.trans held')
    exact (below node (mem_parts_of_items held)).here

/-- A document with a choice and a list of texts. -/
def surveyDocument : Json :=
  .obj [("properties", .obj [
    ("plan", .obj [("enum", .arr [.str "basic", .str "full"])]),
    ("tags", .obj [("type", .str "array"), ("items", .obj [("type", .str "string")])])])]

/-- The document with keywords that are not interpreted: all but the properties at the root, and
at the choice a constant, bounds on items, and a branch of a condition on no name. -/
def decoratedDocument : Json :=
  .obj [("type", .str "string"), ("const", .int 1), ("properties", .obj [
    ("plan", .obj [("enum", .arr [.str "basic", .str "full"]), ("const", .int 5),
      ("$comment", .str "one of two"), ("minItems", .int 2), ("required", .arr [.str "x"]),
      ("if", .obj [("properties", .obj [("", .obj [])])]),
      ("then", .obj [("properties", .obj [("x", .obj [])])])]),
    ("tags", .obj [("type", .str "array"), ("items", .obj [("type", .str "string")])])])]

/-- The choice. -/
def planSchema : Schema :=
  .node {} {} { enumeration := some [.text "basic", .text "full"] } {}

/-- The choice with keywords that are not interpreted. -/
def decoratedPlanSchema : Schema :=
  .node { comment := some "one of two" }
    { condition := some (.node {} { properties := some [("", some empty)] } {} {})
      consequent := some (.node {} { properties := some [("x", some empty)] } {} {}) }
    { enumeration := some [.text "basic", .text "full"], const := .int 5, minItems := some 2,
      required := some ["x"] } {}

/-- The list of texts. -/
def tagsSchema : Schema :=
  .node {} { items := some (.node {} {} { type := some (.single "string") } {}) }
    { type := some (.single "array") } {}

/-- The schema that the first document is read as. -/
def surveySchema : Schema :=
  .node {} { properties := some [("plan", some planSchema), ("tags", some tagsSchema)] } {} {}

/-- The schema that the second document is read as. -/
def decoratedSchema : Schema :=
  .node {}
    { properties := some [("plan", some decoratedPlanSchema), ("tags", some tagsSchema)] }
    { type := some (.single "string"), const := .int 1 } {}

theorem agree_decoratedPlanSchema : Agree planSchema decoratedPlanSchema := by
  have unread : ∀ name, ¬ planSchema.ReadsProperty name := by
    rintro name ⟨_, _, held, _⟩
    cases held
  have unread' : ∀ name, ¬ decoratedPlanSchema.ReadsProperty name := by
    intro name reads
    obtain ⟨_, found⟩ := readsProperty_iff.mp reads
    cases found
  have noOwners : ∀ owner owner', ¬ Owners planSchema decoratedPlanSchema owner owner' := by
    intro owner owner' owners
    cases owners with
    | object object => exact absurd object (by decide)
    | consequent reads => exact unread _ reads
    | alternative reads => exact unread _ reads
  have keywords : SameKeywords planSchema decoratedPlanSchema :=
    { annotations := rfl
      core := rfl
      const := fun none => nomatch none
      array := fun array => absurd array (by decide)
      condition := fun name _ =>
        iff_of_false (fun compares => unread name compares.1)
          fun compares => unread' name compares.1
      branches := fun name reads => absurd reads (unread name)
      mappings := fun owner owner' owners => absurd owners (noOwners owner owner') }
  exact .node keywords (fun owner owner' owners => absurd owners (noOwners owner owner'))
    fun array => absurd array (by decide)

/-- The keywords that are not interpreted make no difference to the form. -/
theorem toForm_decoratedSchema :
    (Schema.decode .value surveyDocument = .ok surveySchema ∧
      Schema.decode .value decoratedDocument = .ok decoratedSchema) ∧
    RootsAgree surveySchema decoratedSchema ∧
    surveySchema.toForm {} = decoratedSchema.toForm {} := by
  have read : Schema.decode .value surveyDocument = .ok surveySchema := rfl
  have read' : Schema.decode .value decoratedDocument = .ok decoratedSchema := rfl
  have agree : RootsAgree surveySchema decoratedSchema := by
    refine .mapping rfl rfl rfl rfl rfl fun key node node' member member' => ?_
    rcases List.mem_cons.mp member with same | member
    · cases same
      have same' := lookup_of_mem decoratedSchema.ascending_properties member'
      obtain rfl := Option.some.inj (Option.some.inj same')
      exact agree_decoratedPlanSchema
    · cases List.mem_singleton.mp member
      have same' := lookup_of_mem decoratedSchema.ascending_properties member'
      obtain rfl := Option.some.inj (Option.some.inj same')
      exact .refl tagsSchema
  exact ⟨⟨read, read'⟩, agree, toForm_eq_of_rootsAgree agree {}⟩

/-! ### Properties at the root -/

/-- A text, with any properties. -/
def textSchema (properties : Option (List (String × Option Schema))) : Schema :=
  .node {} { properties := properties } { type := some (.single "string") } {}

/-- The properties of a node that is not declared as an object make a difference at the root. -/
theorem toForm_textSchema_ne :
    (textSchema none).declaredKind ≠ .object ∧
      (textSchema (some [("a", some empty)])).declaredKind ≠ .object ∧
      (textSchema none).toForm {} ≠ (textSchema (some [("a", some empty)])).toForm {} := by
  refine ⟨by decide, by decide, fun same => ?_⟩
  have fields : [some ((textSchema none).toField {} "")] =
      [some (propertyField {} [] "a" empty)] := congrArg Form.fields same
  have names : "" = "a" := by
    rw [← @control_name_toField {} "" (textSchema none), Option.some.inj
      (List.head_eq_of_cons_eq fields), control_name_propertyField]
  exact absurd names (by decide)

end Schema

end Formwork
