/-
This file says which nodes of a schema the conversion visits, and at which place of the
form the field of each of them stands.

A route leads from the root of a schema to a visited node, one keyword at a time. Its
place is the trail that leads to the field of the node. The position of a property among
its siblings is the number of properties with a schema and a smaller key, so properties
without a schema leave no gap. The main statement is about one step:
`getElem?_inside_iff` says that the fields directly below the field of a visited node are
those of the nodes visited directly below the node.
-/

import Formwork.Proofs.Check.Address
import Formwork.Proofs.Conversion.Valid

namespace Formwork

namespace Schema

variable {defaults : FormDefaults}

/-! ### Visited nodes -/

/-- The names of the properties that a node requires. -/
def requiredNames (schema : Schema) : List String := schema.constraints.required.getD []

/-- A step of the conversion from a visited node to a node visited below it: to a property, to the
items, or to a property of one of the branches of its condition. -/
inductive Step where
  | property (key : String)
  | item
  | consequent (key : String)
  | alternative (key : String)

/-- A visited node, with the name of its field and the names that the owner of its mapping
requires. -/
structure Visit where
  name : String
  required : List String
  node : Schema

/-- The visit of a property of a node. -/
def visitOf (owner : Schema) (key : String) (node : Schema) : Visit :=
  ⟨key, owner.requiredNames, node⟩

/-- Which nodes are visited directly below a visited node. -/
inductive LeadsTo (schema : Schema) : Step → Visit → Prop where
  | property {key : String} {node : Schema} :
    schema.declaredKind = .object → (key, some node) ∈ schema.properties →
      LeadsTo schema (.property key) (schema.visitOf key node)
  | item {node : Schema} :
    schema.declaredKind = .array → schema.applicators.items = some node →
      LeadsTo schema .item ⟨arrayItemName, [], node⟩
  | consequent {name key : String} {branch node : Schema} :
    schema.ReadsProperty name → schema.applicators.consequent = some branch →
      (key, some node) ∈ branch.properties →
        LeadsTo schema (.consequent key) (branch.visitOf key node)
  | alternative {name key : String} {branch node : Schema} :
    schema.ReadsProperty name → schema.applicators.alternative = some branch →
      (key, some node) ∈ branch.properties →
        LeadsTo schema (.alternative key) (branch.visitOf key node)

/-- Which nodes are visited at or below a visited node. -/
inductive Visit.Below : Visit → List Step → Visit → Prop where
  | self {visit : Visit} : Below visit [] visit
  | step {visit next last : Visit} {step : Step} {route : List Step} :
    visit.node.LeadsTo step next → Below next route last → Below visit (step :: route) last

/-- Which nodes the conversion of a schema visits: those at or below its properties, or those at or
below its root if it has no properties. -/
inductive Visits (schema : Schema) : List Step → Visit → Prop where
  | property {key : String} {node : Schema} {route : List Step} {last : Visit} :
    (key, some node) ∈ schema.properties → (schema.visitOf key node).Below route last →
      Visits schema (.property key :: route) last
  | root {route : List Step} {last : Visit} :
    schema.applicators.properties = none → Visit.Below ⟨"", [], schema⟩ route last →
      Visits schema route last

/-! ### Places -/

/-- The position of a property among those that have a schema: how many of these have a smaller
key. -/
def position (members : List (String × Option Schema)) (key : String) : Nat :=
  members.countP fun member => member.2.isSome && precedes member.1 key

/-- The properties of a node that may be missing. -/
def branchProperties (branch : Option Schema) : List (String × Option Schema) :=
  (branch.map properties).getD []

/-- The step from the field of a node to the field of a node visited below it. -/
def Step.segment (schema : Schema) : Step → Segment
  | .property key => .child (position schema.properties key)
  | .item => .child 0
  | .consequent key =>
    .consequent (position (branchProperties schema.applicators.consequent) key)
  | .alternative key =>
    .alternative (position (branchProperties schema.applicators.alternative) key)

/-- The node that a step leads to. -/
def Step.node? (schema : Schema) : Step → Option Schema
  | .property key => (schema.properties.lookup key).join
  | .item => schema.applicators.items
  | .consequent key => ((branchProperties schema.applicators.consequent).lookup key).join
  | .alternative key => ((branchProperties schema.applicators.alternative).lookup key).join

/-- The trail from the field of a node to the field of the node that a route leads to. -/
def placeBelow (schema : Schema) : List Step → List Segment
  | [] => []
  | step :: route =>
    step.segment schema ::
      match step.node? schema with
      | some next => placeBelow next route
      | none => []

/-- The trail to the field of the node that a route leads to from the root of a schema. -/
def place (schema : Schema) (route : List Step) : List Segment :=
  if schema.applicators.properties.isSome then schema.placeBelow route
  else .child 0 :: schema.placeBelow route

/-! ### The fields for a mapping -/

section Mapping

variable {required : List String} {members : List (String × Option Schema)} {key name : String}
  {node : Schema} {schema : Option Schema}

theorem position_cons_self (smallest : ∀ member ∈ members, precedes name member.1 = true) :
    position ((name, schema) :: members) name = 0 := by
  refine List.countP_eq_zero.mpr fun member among smaller => ?_
  obtain ⟨_, smaller⟩ := Bool.and_eq_true_iff.mp smaller
  rcases List.mem_cons.mp among with rfl | later
  · exact absurd smaller (Bool.eq_false_iff.mp (precedesChars_irrefl _))
  · exact absurd smaller
      (Bool.eq_false_iff.mp (not_precedes_of_precedes (smallest member later)))

theorem position_cons_of_precedes (smaller : precedes name key = true) :
    position ((name, schema) :: members) key =
      position members key + if schema.isSome then 1 else 0 := by
  simp [position, List.countP_cons, smaller]

/-- The field at a position among the fields for a mapping is the one for the property that has
this position. -/
theorem getElem?_orderedFields (ascending : Ascending members) {index : Nat} {field : Field} :
    (orderedFields defaults required members)[index]? = some (some field) ↔
      ∃ key node, (key, some node) ∈ members ∧ position members key = index ∧
        propertyField defaults required key node = field := by
  induction members generalizing index with
  | nil => simp [orderedFields]
  | cons first rest inductionHypothesis =>
    obtain ⟨name, schema⟩ := first
    obtain ⟨smallest, ascendingRest⟩ := List.pairwise_cons.mp ascending
    have later : ∀ {key node}, (key, some node) ∈ rest →
        position ((name, schema) :: rest) key =
          position rest key + if schema.isSome then 1 else 0 :=
      fun member => position_cons_of_precedes (smallest _ member)
    cases schema with
    | none =>
      rw [orderedFields, inductionHypothesis ascendingRest]
      constructor
      · rintro ⟨key, node, member, placed, made⟩
        exact ⟨key, node, List.mem_cons_of_mem _ member, (later member).trans placed, made⟩
      · rintro ⟨key, node, member, placed, made⟩
        rcases List.mem_cons.mp member with same | member
        · cases same
        · exact ⟨key, node, member, (later member).symm.trans placed, made⟩
    | some schema =>
      have head : orderedFields defaults required ((name, some schema) :: rest) =
          some (propertyField defaults required name schema) ::
            orderedFields defaults required rest := rfl
      rw [head]
      cases index with
      | zero =>
        rw [List.getElem?_cons_zero, Option.some.injEq, Option.some.injEq]
        constructor
        · exact fun made => ⟨name, schema, List.mem_cons_self, position_cons_self smallest, made⟩
        · rintro ⟨key, node, member, placed, made⟩
          rcases List.mem_cons.mp member with same | member
          · cases same
            exact made
          · rw [later member] at placed
            cases placed
      | succ index =>
        rw [List.getElem?_cons_succ, inductionHypothesis ascendingRest]
        constructor
        · rintro ⟨key, node, member, placed, made⟩
          exact ⟨key, node, List.mem_cons_of_mem _ member, by rw [later member, placed]; rfl, made⟩
        · rintro ⟨key, node, member, placed, made⟩
          rcases List.mem_cons.mp member with same | member
          · cases same
            rw [position_cons_self smallest] at placed
            cases placed
          · refine ⟨key, node, member, ?_, made⟩
            rw [later member] at placed
            exact Nat.succ.inj placed

theorem position_inj (ascending : Ascending members) {key' : String} {node' : Schema}
    (member : (key, some node) ∈ members) (member' : (key', some node') ∈ members)
    (same : position members key = position members key') : key = key' := by
  have placed : ∀ {key node}, (key, some node) ∈ members →
      (orderedFields {} [] members)[position members key]? = some (propertyField {} [] key node) :=
    fun {key node} member => (getElem?_orderedFields ascending).mpr ⟨key, node, member, rfl, rfl⟩
  have fields := (placed member).symm.trans ((congrArg (_[·]?) same).trans (placed member'))
  have names := congrArg (fun field => field.control.name)
    (Option.some.inj (Option.some.inj fields))
  simpa only [control_name_propertyField] using names

end Mapping

/-! ### The fields below a visited node -/

/-- The field for a visited node. -/
def Visit.field (defaults : FormDefaults) (visit : Visit) : Field :=
  propertyField defaults visit.required visit.name visit.node

theorem propertyField_nil (name : String) (schema : Schema) :
    propertyField defaults [] name schema = schema.toField defaults name := by
  unfold propertyField
  generalize schema.toField defaults name = field
  cases field
  rfl

variable {schema : Schema} {branch : Option Schema} {index : Nat} {field : Field}

theorem getElem?_mappingFields :
    (schema.mappingFields defaults)[index]? = some (some field) ↔
      ∃ key node, (key, some node) ∈ schema.properties ∧ position schema.properties key = index ∧
        (schema.visitOf key node).field defaults = field := by
  rw [mappingFields_eq]
  exact getElem?_orderedFields schema.ascending_properties

theorem getElem?_branchFields :
    (branchFields defaults branch)[index]? = some (some field) ↔
      ∃ owner key node, branch = some owner ∧ (key, some node) ∈ owner.properties ∧
        position (branchProperties branch) key = index ∧
        (owner.visitOf key node).field defaults = field := by
  cases branch with
  | none => simp [branchFields]
  | some owner =>
    have opened : branchProperties (some owner) = owner.properties := rfl
    simp only [branchFields, getElem?_mappingFields, opened, Option.some.injEq, exists_and_left,
      exists_eq_left']

theorem getElem?_childFields :
    (schema.childFields defaults)[index]? = some (some field) ↔
      ∃ step next, schema.LeadsTo step next ∧ step.segment schema = .child index ∧
        next.field defaults = field := by
  constructor
  · intro found
    unfold childFields at found
    split at found
    · rename_i object
      obtain ⟨key, node, member, placed, made⟩ := getElem?_mappingFields.mp found
      exact ⟨.property key, _, .property object member, congrArg Segment.child placed, made⟩
    · rename_i array
      split at found
      · rename_i node held
        cases index with
        | zero =>
          obtain rfl := Option.some.inj (Option.some.inj found)
          exact ⟨.item, _, .item array held, rfl, propertyField_nil arrayItemName node⟩
        | succ index => cases found
      · cases found
    · cases found
  · rintro ⟨step, next, leads, placed, made⟩
    unfold childFields
    cases leads with
    | property object member =>
      rw [object]
      exact getElem?_mappingFields.mpr ⟨_, _, member, Segment.child.inj placed, made⟩
    | item array held =>
      obtain rfl := Segment.child.inj placed
      rw [array, held, ← made]
      exact congrArg (fun item => some (some item)) (propertyField_nil _ _).symm
    | _ => cases placed

/-- The fields for a branch are there exactly if the condition of the node reads a property. -/
theorem getElem?_gated :
    (((trigger? schema.applicators.condition).map
        fun _ => branchFields defaults branch).getD [])[index]? = some (some field) ↔
      ∃ name owner key node, schema.ReadsProperty name ∧ branch = some owner ∧
        (key, some node) ∈ owner.properties ∧ position (branchProperties branch) key = index ∧
        (owner.visitOf key node).field defaults = field := by
  constructor
  · intro found
    cases trigger : trigger? schema.applicators.condition with
    | none =>
      rw [trigger] at found
      cases found
    | some read =>
      rw [trigger] at found
      exact ⟨read.1, (getElem?_branchFields.mp found).imp fun _ =>
        Exists.imp fun _ => Exists.imp fun _ rest =>
          ⟨readsProperty_iff.mpr ⟨read.2, trigger⟩, rest⟩⟩
  · rintro ⟨name, owner, key, node, reads, rest⟩
    obtain ⟨value, trigger⟩ := readsProperty_iff.mp reads
    rw [trigger]
    exact getElem?_branchFields.mpr ⟨owner, key, node, rest⟩

theorem inside_consequent (name : String) (index : Nat) :
    (schema.toField defaults name).inside (.consequent index) =
      ((trigger? schema.applicators.condition).map
        fun _ => branchFields defaults schema.applicators.consequent).getD [] := by
  rw [Field.inside, toField_gate, Option.map_map]
  rfl

theorem inside_alternative (name : String) (index : Nat) :
    (schema.toField defaults name).inside (.alternative index) =
      ((trigger? schema.applicators.condition).map
        fun _ => branchFields defaults schema.applicators.alternative).getD [] := by
  rw [Field.inside, toField_gate, Option.map_map]
  rfl

theorem Visit.inside_field (visit : Visit) (segment : Segment) :
    (visit.field defaults).inside segment =
      (visit.node.toField defaults visit.name).inside segment := by
  cases segment <;> rfl

/-- The fields directly below the field of a visited node are those of the nodes that are visited
directly below the node, each at the segment of its step. -/
theorem getElem?_inside_iff {visit : Visit} {segment : Segment} :
    ((visit.field defaults).inside segment)[segment.position]? = some (some field) ↔
      ∃ step next, visit.node.LeadsTo step next ∧ step.segment visit.node = segment ∧
        next.field defaults = field := by
  rw [Visit.inside_field]
  cases segment with
  | child index =>
    rw [Field.inside, toField_children]
    exact getElem?_childFields
  | consequent index =>
    rw [inside_consequent, getElem?_gated]
    constructor
    · rintro ⟨name, owner, key, node, reads, held, member, placed, made⟩
      exact ⟨.consequent key, _, .consequent reads held member,
        congrArg Segment.consequent placed, made⟩
    · rintro ⟨step, next, leads, placed, made⟩
      cases leads with
      | consequent reads held member =>
        exact ⟨_, _, _, _, reads, held, member, Segment.consequent.inj placed, made⟩
      | _ => cases placed
  | alternative index =>
    rw [inside_alternative, getElem?_gated]
    constructor
    · rintro ⟨name, owner, key, node, reads, held, member, placed, made⟩
      exact ⟨.alternative key, _, .alternative reads held member,
        congrArg Segment.alternative placed, made⟩
    · rintro ⟨step, next, leads, placed, made⟩
      cases leads with
      | alternative reads held member =>
        exact ⟨_, _, _, _, reads, held, member, Segment.alternative.inj placed, made⟩
      | _ => cases placed

/-! ### Steps -/

section Steps

variable {step step' : Step} {next next' : Visit} {holds : Schema → Prop}

theorem LeadsTo.everywhere (leads : schema.LeadsTo step next)
    (everywhere : Everywhere holds schema) : Everywhere holds next.node := by
  cases leads with
  | property _ member => exact everywhere.part (mem_parts_of_properties member)
  | item _ held => exact everywhere.part (mem_parts_of_items held)
  | consequent _ held member =>
    exact (everywhere.part (mem_parts_of_consequent held)).part (mem_parts_of_properties member)
  | alternative _ held member =>
    exact (everywhere.part (mem_parts_of_alternative held)).part (mem_parts_of_properties member)

theorem lookup_properties {key : String} {node : Schema}
    (member : (key, some node) ∈ schema.properties) :
    (schema.properties.lookup key).join = some node := by
  rw [lookup_of_mem schema.ascending_properties member]
  rfl

theorem lookup_branchProperties {key : String} {node owner : Schema}
    (held : branch = some owner) (member : (key, some node) ∈ owner.properties) :
    ((branchProperties branch).lookup key).join = some node := by
  rw [held]
  exact lookup_properties member

theorem LeadsTo.node? (leads : schema.LeadsTo step next) :
    step.node? schema = some next.node := by
  cases leads with
  | property _ member => exact lookup_properties member
  | item _ held => exact held
  | consequent _ held member => exact lookup_branchProperties held member
  | alternative _ held member => exact lookup_branchProperties held member

/-- Different steps lead to different places. -/
theorem LeadsTo.eq_of_segment (leads : schema.LeadsTo step next)
    (leads' : schema.LeadsTo step' next') (same : step.segment schema = step'.segment schema) :
    step = step' := by
  have conflict : schema.declaredKind = .object → schema.declaredKind ≠ .array :=
    fun object array => absurd (object.symm.trans array) (by decide)
  cases leads with
  | property object member =>
    cases leads' with
    | property _ member' =>
      exact congrArg Step.property
        (position_inj schema.ascending_properties member member' (Segment.child.inj same))
    | item array _ => exact absurd array (conflict object)
    | _ => cases same
  | item array held =>
    cases leads' with
    | property object _ => exact absurd array (conflict object)
    | item _ _ => rfl
    | _ => cases same
  | consequent _ held member =>
    cases leads' with
    | consequent _ held' member' =>
      obtain rfl := Option.some.inj (held.symm.trans held')
      have positions := Segment.consequent.inj same
      rw [held] at positions
      exact congrArg Step.consequent
        (position_inj (ascending_properties _) member member' positions)
    | _ => cases same
  | alternative _ held member =>
    cases leads' with
    | alternative _ held' member' =>
      obtain rfl := Option.some.inj (held.symm.trans held')
      have positions := Segment.alternative.inj same
      rw [held] at positions
      exact congrArg Step.alternative
        (position_inj (ascending_properties _) member member' positions)
    | _ => cases same

/-- A step leads to one node. -/
theorem LeadsTo.unique (leads : schema.LeadsTo step next) (leads' : schema.LeadsTo step next') :
    next = next' := by
  have sameNode : next.node = next'.node :=
    Option.some.inj (leads.node?.symm.trans leads'.node?)
  cases leads with
  | property _ _ =>
    cases leads'
    exact congrArg (Visit.mk _ _) sameNode
  | item _ _ =>
    cases leads'
    exact congrArg (Visit.mk _ _) sameNode
  | consequent _ held _ =>
    cases leads' with
    | consequent _ held' _ =>
      obtain rfl := Option.some.inj (held.symm.trans held')
      exact congrArg (Visit.mk _ _) sameNode
  | alternative _ held _ =>
    cases leads' with
    | alternative _ held' _ =>
      obtain rfl := Option.some.inj (held.symm.trans held')
      exact congrArg (Visit.mk _ _) sameNode

end Steps

end Schema

end Formwork
