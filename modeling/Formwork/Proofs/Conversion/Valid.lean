/-
This file proves which schemas are converted to forms that pass their check.

The answer is a predicate on the tree of nodes alone. It is matched with the fields of
the form node by node: fields for the properties of a mapping stand in ascending order
of their names, so their names are distinct, and the siblings before a field are those
with smaller names.
-/

import Formwork.Proofs.Conversion.Fits
import Formwork.Proofs.Mapping

namespace Formwork

/-! ### Siblings in ascending order -/

/-- Whether the names of the fields of a list ascend strictly. -/
def NamesAscend (fields : List (Option Field)) : Prop :=
  fields.Pairwise fun first second => ∀ field ∈ first, ∀ field' ∈ second,
    precedes field.control.name field'.control.name = true

namespace Field

/-- In an ascending list the names before a field are the smaller ones. -/
theorem mem_names_take_iff {fields : List (Option Field)} (ascend : NamesAscend fields)
    {index : Nat} {field : Field} (found : fields[index]? = some (some field)) {name : String} :
    name ∈ names (fields.take index) ↔
      name ∈ names fields ∧ precedes name field.control.name = true := by
  obtain ⟨inRange, held⟩ := List.getElem?_eq_some_iff.mp found
  have split : fields = fields.take index ++ some field :: fields.drop (index + 1) := by
    rw [← held, ← List.drop_eq_getElem_cons inRange, List.take_append_drop]
  have ascend' := ascend
  rw [NamesAscend, split, List.pairwise_append] at ascend'
  obtain ⟨_, ascendAfter, across⟩ := ascend'
  constructor
  · intro earlier
    obtain ⟨other, member, rfl, notEmpty⟩ := mem_names_iff.mp earlier
    exact ⟨mem_names_iff.mpr ⟨other, List.mem_of_mem_take member, rfl, notEmpty⟩,
      across _ member _ List.mem_cons_self other rfl field rfl⟩
  · rintro ⟨among, smaller⟩
    obtain ⟨other, member, rfl, notEmpty⟩ := mem_names_iff.mp among
    rw [split] at member
    rcases List.mem_append.mp member with before | here
    · exact mem_names_iff.mpr ⟨other, before, rfl, notEmpty⟩
    rcases List.mem_cons.mp here with same | after
    · obtain rfl := Option.some.inj same
      exact absurd smaller (Bool.eq_false_iff.mp (precedesChars_irrefl _))
    · have greater := (List.pairwise_cons.mp ascendAfter).1 _ after field rfl other rfl
      exact absurd smaller (Bool.eq_false_iff.mp (not_precedes_of_precedes greater))

theorem names_nodup_of_ascend {fields : List (Option Field)} (ascend : NamesAscend fields) :
    (names fields).Nodup := by
  refine List.pairwise_filterMap.mpr (ascend.imp ?_)
  intro first second before name named name' named' same
  obtain ⟨field, rfl, rfl, _⟩ := entryName?_eq_some_iff.mp named
  obtain ⟨field', rfl, rfl, _⟩ := entryName?_eq_some_iff.mp named'
  have smaller := before field rfl field' rfl
  rw [same] at smaller
  exact absurd smaller (Bool.eq_false_iff.mp (precedesChars_irrefl _))

end Field

/-- What is asked of a field behind siblings with the given names, and of everything below it. -/
structure Field.Stands (earlier : String → Prop) (field : Field) : Prop where
  name : nameFault? field.control.name = none
  fits : ∃ kind, field.Fits kind
  condition : ∀ gate ∈ field.gate,
    gate.condition ≠ "" ∧ gate.condition ≠ field.control.name ∧ earlier gate.condition
  below : ∀ part ∈ field.parts, Field.Everywhere SiblingsWellFormed part

/-- An ascending list is well formed with everything below it exactly if each of its fields stands
behind the fields with smaller names. -/
theorem Field.everywhere_iff_of_ascend {fields : List (Option Field)}
    (present : none ∉ fields) (ascend : NamesAscend fields) :
    Field.Everywhere SiblingsWellFormed fields ↔
      ∀ field, some field ∈ fields → field.Stands fun name =>
        name ∈ Field.names fields ∧ precedes name field.control.name = true := by
  rw [Field.everywhere_iff]
  constructor
  · rintro ⟨here, below⟩ field member
    obtain ⟨index, found⟩ := List.mem_iff_getElem?.mp member
    refine ⟨?_, here.fits field member, fun gate held => ?_, below field member⟩
    · exact nameFault?_eq_none fun notEmpty =>
        here.usable _ (mem_names_iff.mpr ⟨field, member, rfl, notEmpty⟩)
    · rw [← mem_names_take_iff ascend found]
      exact here.conditions index field found gate held
  · intro stands
    refine ⟨⟨present, fun name given => ?_, names_nodup_of_ascend ascend,
      fun field member => (stands field member).fits, fun index field found gate held => ?_⟩,
      fun field member => (stands field member).below⟩
    · obtain ⟨field, member, rfl, _⟩ := mem_names_iff.mp given
      exact (stands field member).name
    · rw [mem_names_take_iff ascend found]
      exact (stands field (List.mem_of_getElem? found)).condition gate held

namespace Schema

variable {defaults : FormDefaults}

/-! ### The requirements on a schema -/

/-- Whether a text is the name of a property that has a name and a schema, below another name. -/
def SmallerKey (members : List (String × Option Schema)) (key name : String) : Prop :=
  name ≠ "" ∧ (∃ node, (name, some node) ∈ members) ∧ precedes name key = true

/-- Whether a name is the smallest one of the properties in the condition of a node, and not
empty. -/
def ReadsProperty (schema : Schema) (name : String) : Prop :=
  name ≠ "" ∧ ∃ condition, schema.applicators.condition = some condition ∧
    (∃ node, (name, node) ∈ condition.properties) ∧
      ∀ member ∈ condition.properties, precedes member.1 name = false

/-- The schemas whose properties are shown or hidden by the condition of a node. -/
def branches (schema : Schema) : List Schema :=
  schema.applicators.consequent.toList ++ schema.applicators.alternative.toList

/-- Whether a node under a name, behind siblings with the given names, gives a valid field: the
name is usable, the keywords of the node agree, the condition reads an earlier sibling, and the
nodes that give nested fields are acceptable under their names. -/
inductive Acceptable : (String → Prop) → String → Schema → Prop where
  | node {earlier : String → Prop} {name : String} {schema : Schema}
    (usable : nameFault? name = none)
    (keywords : schema.KeywordsAgree)
    (reads : ∀ property, schema.ReadsProperty property → property ≠ name ∧ earlier property)
    (properties : schema.declaredKind = .object → ∀ key node,
      (key, some node) ∈ schema.properties →
        Acceptable (SmallerKey schema.properties key) key node)
    (items : schema.declaredKind = .array → ∀ node, schema.applicators.items = some node →
      Acceptable (fun _ => False) arrayItemName node)
    (branches : ∀ property, schema.ReadsProperty property → ∀ branch ∈ schema.branches,
      ∀ key node, (key, some node) ∈ branch.properties →
        Acceptable (SmallerKey branch.properties key) key node) :
    Acceptable earlier name schema

/-- Whether all nodes of a mapping are acceptable under their keys, each behind the smaller
ones. -/
def MappingAcceptable (members : List (String × Option Schema)) : Prop :=
  ∀ key node, (key, some node) ∈ members → Acceptable (SmallerKey members key) key node

/-- Whether a schema gives a valid form: its properties are acceptable and one of them is not
null, or it has no properties and is acceptable itself, as a node without a name. -/
def GivesValidForm (schema : Schema) : Prop :=
  match schema.applicators.properties with
  | some _ => (∃ key node, (key, some node) ∈ schema.properties) ∧
      MappingAcceptable schema.properties
  | none => Acceptable (fun _ => False) "" schema

theorem acceptable_iff {earlier : String → Prop} {name : String} {schema : Schema} :
    Acceptable earlier name schema ↔
      nameFault? name = none ∧ schema.KeywordsAgree ∧
        (∀ property, schema.ReadsProperty property →
          (property ≠ name ∧ earlier property) ∧
            ∀ branch ∈ schema.branches, MappingAcceptable branch.properties) ∧
        (schema.declaredKind = .object → MappingAcceptable schema.properties) ∧
        (schema.declaredKind = .array → ∀ node, schema.applicators.items = some node →
          Acceptable (fun _ => False) arrayItemName node) := by
  constructor
  · rintro ⟨usable, keywords, reads, properties, items, branches⟩
    exact ⟨usable, keywords, fun property found => ⟨reads property found,
      branches property found⟩, properties, items⟩
  · rintro ⟨usable, keywords, reads, properties, items⟩
    exact .node usable keywords (fun property found => (reads property found).1) properties items
      fun property found => (reads property found).2

/-! ### Conditions -/

theorem ascending_properties (schema : Schema) : Ascending schema.properties :=
  ascending_sortMembers _

/-- In a mapping the first name is the smallest one. -/
theorem exists_triggerOf?_iff {members : List (String × Option Schema)}
    (ascending : Ascending members) {name : String} :
    (∃ value, triggerOf? members = some (name, value)) ↔
      name ≠ "" ∧ (∃ node, (name, node) ∈ members) ∧
        ∀ member ∈ members, precedes member.1 name = false := by
  cases members with
  | nil => simp [triggerOf?]
  | cons first rest =>
    obtain ⟨key, property⟩ := first
    obtain ⟨smallest, _⟩ := List.pairwise_cons.mp ascending
    rw [triggerOf?_cons]
    constructor
    · rintro ⟨value, found⟩
      split at found
      · cases found
      · rename_i notEmpty
        obtain ⟨rfl, _⟩ := Prod.mk.inj (Option.some.inj found)
        refine ⟨by simpa using notEmpty, ⟨property, List.mem_cons_self⟩, fun member among => ?_⟩
        rcases List.mem_cons.mp among with rfl | later
        · exact precedesChars_irrefl _
        · exact not_precedes_of_precedes (smallest member later)
    · rintro ⟨notEmpty, ⟨node, member⟩, noSmaller⟩
      obtain rfl : key = name := by
        rcases List.mem_cons.mp member with same | later
        · exact (Prod.mk.inj same).1.symm
        · exact absurd (smallest _ later)
            (Bool.eq_false_iff.mp (noSmaller (key, property) List.mem_cons_self))
      have notEmpty' : ¬ key.isEmpty = true := by simpa using notEmpty
      exact ⟨_, by rw [if_neg notEmpty']⟩

/-- The gate of the field for a node reads the smallest property of the condition. -/
theorem readsProperty_iff {schema : Schema} {name : String} :
    schema.ReadsProperty name ↔
      ∃ value, trigger? schema.applicators.condition = some (name, value) := by
  unfold ReadsProperty
  cases held : schema.applicators.condition with
  | none => simp [trigger?]
  | some condition =>
    have opened : trigger? (some condition) = triggerOf? condition.properties := rfl
    rw [opened, exists_triggerOf?_iff condition.ascending_properties]
    constructor
    · rintro ⟨notEmpty, _, same, listed, smallest⟩
      obtain rfl := Option.some.inj same
      exact ⟨notEmpty, listed, smallest⟩
    · rintro ⟨notEmpty, listed, smallest⟩
      exact ⟨notEmpty, condition, rfl, listed, smallest⟩

/-! ### Mappings -/

theorem control_name_toField (name : String) (schema : Schema) :
    (schema.toField defaults name).control.name = name := by
  rw [toField_control]
  rfl

theorem control_name_propertyField (required : List String) (name : String) (schema : Schema) :
    (propertyField defaults required name schema).control.name = name := by
  have kept : ∀ control : Control, (control.requireIf required).name = control.name := by
    intro control
    unfold Control.requireIf
    split <;> rfl
  exact (kept _).trans (control_name_toField name schema)

/-- Whether its owner requires a property makes no difference to what is asked of its field. -/
theorem stands_propertyField_iff {earlier : String → Prop} {required : List String}
    {name : String} {schema : Schema} :
    (propertyField defaults required name schema).Stands earlier ↔
      (schema.toField defaults name).Stands earlier := by
  have fits : (∃ kind, (propertyField defaults required name schema).Fits kind) ↔
      ∃ kind, (schema.toField defaults name).Fits kind :=
    (represents_propertyField required name schema).exists_fits_iff.trans
      (represents_toField name schema).exists_fits_iff.symm
  have sameName : (propertyField defaults required name schema).control.name =
      (schema.toField defaults name).control.name := by
    rw [control_name_propertyField, control_name_toField]
  constructor
  · rintro ⟨usable, fitting, condition, below⟩
    rw [sameName] at usable condition
    exact ⟨usable, fits.mp fitting, condition, below⟩
  · rintro ⟨usable, fitting, condition, below⟩
    rw [← sameName] at usable condition
    exact ⟨usable, fits.mpr fitting, condition, below⟩

theorem namesAscend_orderedFields {required : List String}
    {members : List (String × Option Schema)} (ascending : Ascending members) :
    NamesAscend (orderedFields defaults required members) := by
  rw [orderedFields_eq]
  refine List.pairwise_filterMap.mpr (ascending.imp ?_)
  rintro ⟨key, node⟩ ⟨key', node'⟩ before first made second made' field rfl field' rfl
  obtain ⟨node, rfl, same⟩ := Option.map_eq_some_iff.mp made
  obtain ⟨node', rfl, same'⟩ := Option.map_eq_some_iff.mp made'
  rw [← Option.some.inj same, ← Option.some.inj same', control_name_propertyField,
    control_name_propertyField]
  exact before

/-- The names of the fields for a mapping below a key are the smaller keys. -/
theorem mem_names_orderedFields_iff {required : List String}
    {members : List (String × Option Schema)} {key name : String} :
    (name ∈ Field.names (orderedFields defaults required members) ∧ precedes name key = true) ↔
      SmallerKey members key name := by
  rw [Field.mem_names_iff]
  constructor
  · rintro ⟨⟨field, among, rfl, notEmpty⟩, smaller⟩
    obtain ⟨other, node, member, rfl⟩ := some_mem_orderedFields.mp among
    rw [control_name_propertyField] at notEmpty smaller ⊢
    exact ⟨by simpa using notEmpty, ⟨node, member⟩, smaller⟩
  · rintro ⟨notEmpty, ⟨node, member⟩, smaller⟩
    exact ⟨⟨_, some_mem_orderedFields.mpr ⟨name, node, member, rfl⟩,
      control_name_propertyField required name node, by simpa using notEmpty⟩, smaller⟩

/-- The fields for a mapping are well formed with everything below them exactly if each of them
stands behind the smaller keys. -/
theorem everywhere_orderedFields_iff {required : List String}
    {members : List (String × Option Schema)} (ascending : Ascending members) :
    Field.Everywhere SiblingsWellFormed (orderedFields defaults required members) ↔
      ∀ key node, (key, some node) ∈ members →
        (node.toField defaults key).Stands (SmallerKey members key) := by
  have earlier : ∀ key, (fun name => name ∈ Field.names (orderedFields defaults required members) ∧
      precedes name key = true) = SmallerKey members key :=
    fun key => funext fun name => propext mem_names_orderedFields_iff
  rw [Field.everywhere_iff_of_ascend none_not_mem_orderedFields
    (namesAscend_orderedFields ascending)]
  simp only [earlier]
  constructor
  · intro stands key node member
    have standing := stands _ (some_mem_orderedFields.mpr ⟨key, node, member, rfl⟩)
    rw [control_name_propertyField] at standing
    exact stands_propertyField_iff.mp standing
  · intro stands field among
    obtain ⟨key, node, member, rfl⟩ := some_mem_orderedFields.mp among
    rw [control_name_propertyField]
    exact stands_propertyField_iff.mpr (stands key node member)

/-- A single field is well formed with everything below it exactly if it stands by itself. -/
theorem everywhere_singleton_iff {field : Field} :
    Field.Everywhere SiblingsWellFormed [some field] ↔ field.Stands fun _ => False := by
  have ascend : NamesAscend [some field] := List.pairwise_singleton _ _
  have earlier : (fun name => name ∈ Field.names [some field] ∧
      precedes name field.control.name = true) = fun _ => False := by
    refine funext fun name => eq_false ?_
    rintro ⟨among, smaller⟩
    obtain ⟨other, member, rfl, _⟩ := Field.mem_names_iff.mp among
    obtain rfl := Option.some.inj (List.mem_singleton.mp member)
    exact absurd smaller (Bool.eq_false_iff.mp (precedesChars_irrefl _))
  rw [Field.everywhere_iff_of_ascend (by simp) ascend]
  constructor
  · exact fun stands => earlier ▸ stands field List.mem_cons_self
  · intro stands other member
    obtain rfl := Option.some.inj (List.mem_singleton.mp member)
    rw [earlier]
    exact stands

theorem everywhere_nil : Field.Everywhere SiblingsWellFormed [] :=
  (Field.everywhere_iff_of_ascend List.not_mem_nil List.Pairwise.nil).mpr fun _ member => by
    cases member

/-! ### Nodes -/

/-- What has to be shown of a node: that its field stands exactly if the node is acceptable. -/
def Agrees (defaults : FormDefaults) (schema : Schema) : Prop :=
  ∀ earlier name, (schema.toField defaults name).Stands earlier ↔ Acceptable earlier name schema

theorem everywhere_mappingFields_iff {schema : Schema}
    (agrees : ∀ part ∈ schema.parts, Agrees defaults part) :
    Field.Everywhere SiblingsWellFormed (schema.mappingFields defaults) ↔
      MappingAcceptable schema.properties := by
  rw [mappingFields_eq, everywhere_orderedFields_iff schema.ascending_properties]
  exact forall₂_congr fun key node => forall_congr' fun member =>
    agrees node (mem_parts_of_properties member) _ key

theorem everywhere_childFields_iff {schema : Schema}
    (agrees : ∀ part ∈ schema.parts, Agrees defaults part) :
    Field.Everywhere SiblingsWellFormed (schema.childFields defaults) ↔
      (schema.declaredKind = .object → MappingAcceptable schema.properties) ∧
        (schema.declaredKind = .array → ∀ node, schema.applicators.items = some node →
          Acceptable (fun _ => False) arrayItemName node) := by
  unfold childFields
  cases declared : schema.declaredKind with
  | object => simp [everywhere_mappingFields_iff agrees]
  | array =>
    cases held : schema.applicators.items with
    | none => simp [everywhere_nil]
    | some node =>
      have inside : node ∈ schema.parts := mem_parts_of_items held
      simp only [everywhere_singleton_iff, agrees node inside _ arrayItemName]
      simp
  | _ => simp [everywhere_nil]

theorem everywhere_branchFields_iff {branch : Option Schema}
    (agrees : ∀ schema, branch = some schema → ∀ part ∈ schema.parts, Agrees defaults part) :
    Field.Everywhere SiblingsWellFormed (branchFields defaults branch) ↔
      ∀ schema ∈ branch.toList, MappingAcceptable schema.properties := by
  cases branch with
  | none => simp [branchFields, everywhere_nil]
  | some schema => simp [branchFields, everywhere_mappingFields_iff (agrees schema rfl)]

/-- What is asked of the gate of the field for a node is asked of the property that the condition
of the node reads and of its branches. -/
theorem gate_iff {schema : Schema} {earlier : String → Prop} {name : String}
    (consequent : Field.Everywhere SiblingsWellFormed
        (branchFields defaults schema.applicators.consequent) ↔
      ∀ branch ∈ schema.applicators.consequent.toList, MappingAcceptable branch.properties)
    (alternative : Field.Everywhere SiblingsWellFormed
        (branchFields defaults schema.applicators.alternative) ↔
      ∀ branch ∈ schema.applicators.alternative.toList, MappingAcceptable branch.properties) :
    ((∀ gate ∈ (schema.toField defaults name).gate,
        gate.condition ≠ "" ∧ gate.condition ≠ name ∧ earlier gate.condition) ∧
      ∀ part ∈ Field.gateParts (schema.toField defaults name).gate,
        Field.Everywhere SiblingsWellFormed part) ↔
      ∀ property, schema.ReadsProperty property → (property ≠ name ∧ earlier property) ∧
        ∀ branch ∈ schema.branches, MappingAcceptable branch.properties := by
  have reads := fun property => @readsProperty_iff schema property
  have inBranches : (∀ branch ∈ schema.branches, MappingAcceptable branch.properties) ↔
      Field.Everywhere SiblingsWellFormed (branchFields defaults schema.applicators.consequent) ∧
        Field.Everywhere SiblingsWellFormed
          (branchFields defaults schema.applicators.alternative) := by
    rw [consequent, alternative, branches, List.forall_mem_append]
  rw [toField_gate, inBranches]
  cases found : trigger? schema.applicators.condition with
  | none =>
    refine iff_of_true ⟨(fun _ none => by cases none), (fun _ none => by cases none)⟩ ?_
    intro property held
    obtain ⟨_, none⟩ := (reads property).mp held
    rw [found] at none
    cases none
  | some trigger =>
    obtain ⟨property, value⟩ := trigger
    have held : schema.ReadsProperty property := (reads property).mpr ⟨value, found⟩
    have only : ∀ other, schema.ReadsProperty other → other = property := by
      intro other held
      obtain ⟨_, found'⟩ := (reads other).mp held
      rw [found] at found'
      exact (Prod.mk.inj (Option.some.inj found')).1.symm
    simp only [Option.map_some, Option.mem_def, Option.some.injEq, forall_eq', Field.gateParts,
      List.forall_mem_cons]
    constructor
    · rintro ⟨⟨_, notOwn, isEarlier⟩, first, second, _⟩ other held
      obtain rfl := only other held
      exact ⟨⟨notOwn, isEarlier⟩, first, second⟩
    · intro all
      obtain ⟨⟨notOwn, isEarlier⟩, first, second⟩ := all property held
      exact ⟨⟨held.1, notOwn, isEarlier⟩, first, second, List.forall_mem_nil _⟩

/-- The fields for all nodes of a schema stand exactly if the nodes are acceptable. -/
theorem everywhere_agrees (schema : Schema) : Everywhere (Agrees defaults) schema := by
  refine everywhere_of_below (fun node below earlier name => ?_) schema
  -- The fields of a branch come from the parts of its schema, two levels below the node.
  have branch : ∀ branch, (∀ schema, branch = some schema → schema ∈ node.parts) →
      (Field.Everywhere SiblingsWellFormed (branchFields defaults branch) ↔
        ∀ schema ∈ branch.toList, MappingAcceptable schema.properties) :=
    fun branch inside => everywhere_branchFields_iff
      fun schema held part member => ((below schema (inside schema held)).part member).here
  have gate := @gate_iff defaults node earlier name
    (branch _ fun _ => mem_parts_of_consequent) (branch _ fun _ => mem_parts_of_alternative)
  have children := everywhere_childFields_iff fun part member => (below part member).here
  have fits := (@represents_toField defaults name node).exists_fits_iff
  have sameName := @control_name_toField defaults name node
  rw [acceptable_iff, ← gate, ← children, ← fits, ← toField_children name]
  constructor
  · rintro ⟨usable, fitting, condition, inParts⟩
    rw [sameName] at usable condition
    obtain ⟨inChildren, inGate⟩ := List.forall_mem_cons.mp inParts
    exact ⟨usable, fitting, ⟨condition, inGate⟩, inChildren⟩
  · rintro ⟨usable, fitting, ⟨condition, inGate⟩, inChildren⟩
    refine ⟨?_, fitting, ?_, List.forall_mem_cons.mpr ⟨inChildren, inGate⟩⟩
    · rwa [sameName]
    · rwa [sameName]

/-! ### Forms -/

/-- With the default configuration, a schema is converted to a form that passes its check exactly
if the schema gives a valid form. -/
theorem complaint?_toForm_eq_none_iff {schema : Schema} :
    Form.complaint? (some (schema.toForm {})) = none ↔ schema.GivesValidForm := by
  have agrees := @everywhere_agrees {} schema
  have posted : ∀ method ∈ (schema.toForm {}).method,
      method = "" ∨ upperCase method ∈ submitMethods := by
    intro method held
    obtain rfl := Option.some.inj held
    exact Or.inr (by decide)
  have formIff : (schema.toForm {}).WellFormed ↔ (schema.toForm {}).fields ≠ [] ∧
      Field.Everywhere SiblingsWellFormed (schema.toForm {}).fields := by
    constructor
    · exact fun wellFormed => ⟨wellFormed.fields, wellFormed.siblings⟩
    · rintro ⟨fields, siblings⟩
      exact ⟨fields, posted, siblings⟩
  rw [Form.complaint?_some, Option.map_eq_none_iff, Form.violation?_eq_none_iff, formIff,
    fields_toForm_eq]
  unfold GivesValidForm
  cases schema.applicators.properties with
  | none =>
    have stands := everywhere_singleton_iff.trans (agrees.here (fun _ => False) "")
    constructor
    · rintro ⟨_, all⟩
      exact stands.mp all
    · exact fun acceptable => ⟨List.cons_ne_nil _ _, stands.mpr acceptable⟩
  | some members =>
    have mapping := everywhere_mappingFields_iff fun part member => (agrees.part member).here
    have filled : schema.mappingFields {} ≠ [] ↔
        ∃ key node, (key, some node) ∈ schema.properties := by
      rw [mappingFields_eq, Ne, orderedFields_eq_nil_iff, Classical.not_not]
    simp only [Option.isSome_some, if_true, filled, mapping]

/-- A schema of which one property depends on another one, which is given behind it. -/
def gatedSchema : Schema :=
  .node {}
    { properties := some [
        ("email", some (.node {}
          { condition := some (.node {} { properties := some [("account", none)] } {} {}) }
          { type := some (.single "string"), maxLength := some 80 } {})),
        ("account", some (.node {} {} { type := some (.single "boolean") } {}))] } {} {}

theorem givesValidForm_gatedSchema : gatedSchema.GivesValidForm :=
  complaint?_toForm_eq_none_iff.mp (by decide +kernel)

end Schema

end Formwork
