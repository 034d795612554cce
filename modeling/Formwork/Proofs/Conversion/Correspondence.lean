/-
This file proves that the conversion of a schema loses and invents nothing: the fields of
the form correspond one to one to the nodes that the conversion visits, and every field is
the field for its node.

Fields and visited nodes are matched along routes, from the root downwards, with the step
from a field to the fields directly below it known already.
-/

import Mathlib.Data.Set.Function
import Formwork.Proofs.Conversion.Visit

namespace Formwork

/-- Whether a control has a rule that requires its value. -/
def Control.RequiresValue (control : Control) : Prop :=
  ∃ validation, control.validation = some validation ∧ validation.required = true

theorem Control.requiresValue_requireIf {control : Control} {required : List String} :
    (control.requireIf required).RequiresValue ↔
      control.name ∈ required ∨ control.RequiresValue := by
  unfold requireIf
  split
  · rename_i listed
    exact iff_of_true ⟨_, rfl, rfl⟩ (Or.inl (List.contains_iff_mem.mp listed))
  · rename_i absent
    exact (or_iff_right fun listed => absent (List.contains_iff_mem.mpr listed)).symm

namespace Schema

variable {defaults : FormDefaults} {schema : Schema}

/-! ### Routes -/

section Routes

variable {visit last last' : Visit} {route route' : List Step}

theorem placeBelow_cons {step : Step} {next : Schema} (leads : step.node? schema = some next)
    (route : List Step) :
    schema.placeBelow (step :: route) = step.segment schema :: next.placeBelow route := by
  rw [placeBelow, leads]

theorem Visit.Below.follow? (below : visit.Below route last) (before : List (Option Field)) :
    ∃ before', Field.follow? before (some (visit.field defaults)) (visit.node.placeBelow route) =
      some (before', some (last.field defaults)) := by
  induction below generalizing before with
  | self => exact ⟨before, rfl⟩
  | step leads _ inductionHypothesis =>
    have found := (@getElem?_inside_iff defaults _ _ _).mpr ⟨_, _, leads, rfl, rfl⟩
    rw [placeBelow_cons leads.node?, Field.follow?, Option.bind_some, found, Option.bind_some]
    exact inductionHypothesis _

theorem exists_below_of_follow? {trail : List Segment} {before before' : List (Option Field)}
    {field : Field}
    (leads : Field.follow? before (some (visit.field defaults)) trail =
      some (before', some field)) :
    ∃ route last, visit.Below route last ∧ visit.node.placeBelow route = trail ∧
      last.field defaults = field := by
  induction trail generalizing visit before with
  | nil =>
    exact ⟨[], visit, .self, rfl, Option.some.inj (Prod.mk.inj (Option.some.inj leads)).2⟩
  | cons segment rest inductionHypothesis =>
    rw [Field.follow?, Option.bind_some] at leads
    obtain ⟨entry, found, follows⟩ := Option.bind_eq_some_iff.mp leads
    cases entry with
    | none => cases rest <;> cases follows
    | some child =>
      obtain ⟨step, next, leads, sameSegment, rfl⟩ := getElem?_inside_iff.mp found
      obtain ⟨route, last, below, placed, made⟩ := inductionHypothesis follows
      refine ⟨step :: route, last, .step leads below, ?_, made⟩
      rw [placeBelow_cons leads.node?, sameSegment, placed]

/-- Visited nodes whose fields stand at the same place are the same. -/
theorem Visit.Below.eq_of_placeBelow (below : visit.Below route last)
    (below' : visit.Below route' last')
    (same : visit.node.placeBelow route = visit.node.placeBelow route') :
    route = route' ∧ last = last' := by
  induction below generalizing route' with
  | self =>
    cases below' with
    | self => exact ⟨rfl, rfl⟩
    | step => cases same
  | step leads _ inductionHypothesis =>
    cases below' with
    | self => cases same
    | step leads' below' =>
      rw [placeBelow_cons leads.node?, placeBelow_cons leads'.node?] at same
      obtain ⟨segments, rest⟩ := List.cons.inj same
      obtain rfl := leads.eq_of_segment leads' segments
      obtain rfl := leads.unique leads'
      obtain ⟨rfl, rfl⟩ := inductionHypothesis below' rest
      exact ⟨rfl, rfl⟩

end Routes

/-! ### Forms -/

section Forms

variable {visit visit' : Visit} {route route' : List Step}

theorem isSome_of_mem_properties {member : String × Option Schema}
    (among : member ∈ schema.properties) : schema.applicators.properties.isSome := by
  unfold properties at among
  cases held : schema.applicators.properties with
  | none =>
    rw [held] at among
    cases among
  | some members => rfl

theorem fields_toForm_of_isSome (present : schema.applicators.properties.isSome) :
    (schema.toForm defaults).fields = schema.mappingFields defaults := by
  rw [fields_toForm_eq, if_pos present]

theorem fields_toForm_of_none (absent : schema.applicators.properties = none) :
    (schema.toForm defaults).fields = [some (Visit.field defaults ⟨"", [], schema⟩)] := by
  rw [fields_toForm_eq, absent, Visit.field, propertyField_nil]
  rfl

theorem place_of_mem_properties {key : String} {node : Schema}
    (member : (key, some node) ∈ schema.properties) (route : List Step) :
    schema.place (.property key :: route) =
      .child (position schema.properties key) :: node.placeBelow route := by
  have leads : (Step.property key).node? schema = some node := lookup_properties member
  rw [place, if_pos (isSome_of_mem_properties member)]
  exact placeBelow_cons leads route

theorem place_of_none (absent : schema.applicators.properties = none) (route : List Step) :
    schema.place route = .child 0 :: schema.placeBelow route := by
  rw [place, absent]
  rfl

theorem Visits.follow?_place (visits : schema.Visits route visit) :
    ∃ before, (schema.toForm defaults).follow? (schema.place route) =
      some (before, some (visit.field defaults)) := by
  cases visits with
  | property member below =>
    have found := (@getElem?_mappingFields defaults _ _ _).mpr ⟨_, _, member, rfl, rfl⟩
    rw [place_of_mem_properties member, Form.follow?,
      fields_toForm_of_isSome (isSome_of_mem_properties member), found, Option.bind_some]
    exact below.follow? _
  | root absent below =>
    rw [place_of_none absent, Form.follow?, fields_toForm_of_none absent,
      List.getElem?_cons_zero, Option.bind_some]
    exact below.follow? _

theorem exists_visits_of_follow? {trail : List Segment} {before : List (Option Field)}
    {field : Field}
    (leads : (schema.toForm defaults).follow? trail = some (before, some field)) :
    ∃ route visit, schema.Visits route visit ∧ schema.place route = trail ∧
      visit.field defaults = field := by
  obtain ⟨position, rest, rfl⟩ := Form.head?_of_follow? leads
  obtain ⟨entry, found, follows⟩ := Option.bind_eq_some_iff.mp leads
  cases entry with
  | none => cases rest <;> cases follows
  | some top =>
    cases held : schema.applicators.properties with
    | none =>
      rw [fields_toForm_of_none held] at found follows
      cases position with
      | zero =>
        obtain rfl := Option.some.inj (Option.some.inj found)
        obtain ⟨route, last, below, placed, made⟩ := exists_below_of_follow? follows
        exact ⟨route, last, .root held below, by rw [place_of_none held, placed], made⟩
      | succ position => cases found
    | some members =>
      have present : schema.applicators.properties.isSome := by rw [held]; rfl
      rw [fields_toForm_of_isSome present] at found follows
      obtain ⟨key, node, member, rfl, rfl⟩ := getElem?_mappingFields.mp found
      obtain ⟨route, last, below, placed, made⟩ := exists_below_of_follow? follows
      refine ⟨.property key :: route, last, .property member below, ?_, made⟩
      rw [place_of_mem_properties member, ← placed]
      rfl

theorem Visits.eq_of_place (visits : schema.Visits route visit)
    (visits' : schema.Visits route' visit')
    (same : schema.place route = schema.place route') : route = route' ∧ visit = visit' := by
  cases visits with
  | property member below =>
    cases visits' with
    | property member' below' =>
      rw [place_of_mem_properties member, place_of_mem_properties member'] at same
      obtain ⟨segments, rest⟩ := List.cons.inj same
      obtain rfl := position_inj schema.ascending_properties member member'
        (Segment.child.inj segments)
      obtain rfl := Option.some.inj
        ((lookup_properties member).symm.trans (lookup_properties member'))
      obtain ⟨rfl, rfl⟩ := below.eq_of_placeBelow below' rest
      exact ⟨rfl, rfl⟩
    | root absent _ =>
      have present := isSome_of_mem_properties member
      rw [absent] at present
      cases present
  | root absent below =>
    cases visits' with
    | property member' _ =>
      have present := isSome_of_mem_properties member'
      rw [absent] at present
      cases present
    | root _ below' =>
      rw [place_of_none absent, place_of_none absent] at same
      exact below.eq_of_placeBelow below' (List.cons.inj same).2

/-- Every field of the form is the field for a visited node. -/
theorem exists_visits_of_has {field : Field} (has : (schema.toForm defaults).Has field) :
    ∃ route visit, schema.Visits route visit ∧ visit.field defaults = field := by
  obtain ⟨trail, before, leads⟩ := Form.exists_follow?_of_has has
  obtain ⟨route, visit, visits, _, made⟩ := exists_visits_of_follow? leads
  exact ⟨route, visit, visits, made⟩

theorem Visit.Below.everywhere {holds : Schema → Prop} {last : Visit}
    (below : visit.Below route last) (everywhere : Everywhere holds visit.node) :
    Everywhere holds last.node := by
  induction below with
  | self => exact everywhere
  | step leads _ inductionHypothesis => exact inductionHypothesis (leads.everywhere everywhere)

theorem Visits.everywhere {holds : Schema → Prop} (visits : schema.Visits route visit)
    (everywhere : Everywhere holds schema) : Everywhere holds visit.node := by
  cases visits with
  | property member below =>
    exact below.everywhere (everywhere.part (mem_parts_of_properties member))
  | root _ below => exact below.everywhere everywhere

end Forms

/-! ### Siblings -/

/-- What holds of every list of fields that the conversion makes: of no fields, of a single field,
and of the fields for a mapping. -/
structure HoldsOfLists (defaults : FormDefaults) (holds : List (Option Field) → Prop) : Prop where
  empty : holds []
  single : ∀ field, holds [some field]
  mapping : ∀ required members, Ascending members →
    holds (orderedFields defaults required members)

namespace HoldsOfLists

variable {holds : List (Option Field) → Prop}

theorem mappingFields (lists : HoldsOfLists defaults holds) :
    holds (schema.mappingFields defaults) := by
  rw [mappingFields_eq]
  exact lists.mapping _ _ schema.ascending_properties

theorem branchFields (lists : HoldsOfLists defaults holds) (branch : Option Schema) :
    holds (branchFields defaults branch) := by
  cases branch with
  | none => exact lists.empty
  | some owner => exact lists.mappingFields

theorem childFields (lists : HoldsOfLists defaults holds) :
    holds (schema.childFields defaults) := by
  unfold Schema.childFields
  split
  · exact lists.mappingFields
  · split
    · exact lists.single _
    · exact lists.empty
  · exact lists.empty

/-- It holds of the lists of fields in the field for a node. -/
theorem part (lists : HoldsOfLists defaults holds) {visit : Visit} {part : List (Option Field)}
    (inside : part ∈ (visit.field defaults).parts) : holds part := by
  have parts : (visit.field defaults).parts = (visit.node.toField defaults visit.name).parts := rfl
  rw [parts, Field.parts, toField_children, toField_gate] at inside
  rcases List.mem_cons.mp inside with rfl | inGate
  · exact lists.childFields
  · cases trigger : trigger? visit.node.applicators.condition with
    | none =>
      rw [trigger] at inGate
      cases inGate
    | some read =>
      rw [trigger] at inGate
      rcases List.mem_cons.mp inGate with rfl | inGate
      · exact lists.branchFields _
      · obtain rfl := List.mem_singleton.mp inGate
        exact lists.branchFields _

/-- It holds of all lists of siblings of the form. -/
theorem everywhere (lists : HoldsOfLists defaults holds) :
    Field.Everywhere holds (schema.toForm defaults).fields := by
  intro siblings below
  cases below with
  | self =>
    cases held : schema.applicators.properties with
    | none =>
      rw [fields_toForm_of_none held]
      exact lists.single _
    | some members =>
      rw [fields_toForm_of_isSome (by rw [held]; rfl)]
      exact lists.mappingFields
  | part above member inside =>
    obtain ⟨route, visit, _, rfl⟩ := exists_visits_of_has ⟨_, above, member⟩
    exact lists.part inside

end HoldsOfLists

/-- All lists of siblings of the form ascend. -/
theorem everywhere_namesAscend :
    Field.Everywhere NamesAscend (schema.toForm defaults).fields :=
  HoldsOfLists.everywhere
    ⟨List.Pairwise.nil, fun _ => List.pairwise_singleton _ _, fun _ _ => namesAscend_orderedFields⟩

/-- No list of siblings of the form has a gap. -/
theorem everywhere_present :
    Field.Everywhere (none ∉ ·) (schema.toForm defaults).fields :=
  HoldsOfLists.everywhere ⟨List.not_mem_nil, by simp, fun _ _ _ => none_not_mem_orderedFields⟩

/-! ### Single fields -/

/-- Whether the condition of a node reads a property and compares it with a value: the constant of
the property, or null. -/
def Compares (schema : Schema) (name : String) (value : Scalar) : Prop :=
  schema.ReadsProperty name ∧ ∃ condition property,
    schema.applicators.condition = some condition ∧ (name, property) ∈ condition.properties ∧
      (property.map (·.constraints.const)).getD .null = value

theorem exists_mem_of_triggerOf? {members : List (String × Option Schema)} {name : String}
    {value : Scalar} (found : triggerOf? members = some (name, value)) :
    ∃ property, (name, property) ∈ members ∧
      (property.map (·.constraints.const)).getD .null = value := by
  cases members with
  | nil => cases found
  | cons first rest =>
    obtain ⟨key, node⟩ := first
    rw [triggerOf?_cons] at found
    split at found
    · cases found
    · obtain ⟨rfl, rfl⟩ := Prod.mk.inj (Option.some.inj found)
      exact ⟨node, List.mem_cons_self, rfl⟩

/-- The gate of the field for a node reads what its condition compares. -/
theorem compares_iff {name : String} {value : Scalar} :
    schema.Compares name value ↔ trigger? schema.applicators.condition = some (name, value) := by
  constructor
  · rintro ⟨reads, condition, property, held, member, rfl⟩
    obtain ⟨value, found⟩ := readsProperty_iff.mp reads
    rw [held] at found ⊢
    obtain ⟨property', member', rfl⟩ := exists_mem_of_triggerOf? found
    have ascending := condition.ascending_properties
    obtain rfl := Option.some.inj ((lookup_of_mem ascending member).symm.trans
      (lookup_of_mem ascending member'))
    exact found
  · intro found
    refine ⟨readsProperty_iff.mpr ⟨value, found⟩, ?_⟩
    cases held : schema.applicators.condition with
    | none =>
      rw [held] at found
      cases found
    | some condition =>
      rw [held] at found
      obtain ⟨property, member, same⟩ := exists_mem_of_triggerOf? found
      exact ⟨condition, property, rfl, member, same⟩

theorem required_controlValidation {constraints : Constraints} {declared : Kind}
    {validation : Validation}
    (held : constraints.controlValidation defaults declared = some validation) :
    validation.required = false := by
  rw [Constraints.controlValidation_eq] at held
  rw [Validation.eq_of_unlessEmpty held]
  rfl

theorem not_requiresValue_toField (name : String) (schema : Schema) :
    ¬ (schema.toField defaults name).control.RequiresValue := by
  rintro ⟨validation, held, required⟩
  rw [toField_control] at held
  rw [required_controlValidation held] at required
  cases required

/-- What the field for a visited node is: the node, converted under its name, with the value
required exactly if the owner of its mapping requires it, and with a gate exactly for what the
condition of the node compares. -/
structure Visit.Gives (defaults : FormDefaults) (visit : Visit) (field : Field) : Prop where
  converted : field = (visit.node.toField defaults visit.name).withControl
    ((visit.node.toField defaults visit.name).control.requireIf visit.required)
  required : field.control.RequiresValue ↔ visit.name ∈ visit.required
  gate : ∀ name value, (∃ gate, field.gate = some gate ∧ gate.condition = name ∧
    gate.trigger = value) ↔ visit.node.Compares name value

theorem Visit.gives_field (visit : Visit) :
    visit.Gives defaults (visit.field defaults) where
  converted := rfl
  required := by
    have named : (visit.node.toField defaults visit.name).control.name = visit.name :=
      control_name_toField visit.name visit.node
    show ((visit.node.toField defaults visit.name).control.requireIf
      visit.required).RequiresValue ↔ _
    rw [Control.requiresValue_requireIf, named,
      or_iff_left (not_requiresValue_toField visit.name visit.node)]
  gate := by
    intro name value
    have sameGate : (visit.field defaults).gate =
        (visit.node.toField defaults visit.name).gate := rfl
    rw [compares_iff, sameGate, toField_gate]
    constructor
    · rintro ⟨gate, held, rfl, rfl⟩
      obtain ⟨read, found, rfl⟩ := Option.map_eq_some_iff.mp held
      exact found
    · intro found
      rw [found]
      exact ⟨_, rfl, rfl, rfl⟩

/-! ### The correspondence -/

/-- The visited nodes of a schema, each with the route to it. -/
def visited (schema : Schema) : Set (List Step × Visit) :=
  {arrival | schema.Visits arrival.1 arrival.2}

/-- Conversion is a bijection: sending every visited node to the place of its route matches the
visited nodes with the trails that lead to fields. The field at the place of a node is the field
for the node, these are all fields of the form, and in every list of siblings the names ascend. -/
theorem fields_correspond_to_visits :
    Set.BijOn (fun arrival => schema.place arrival.1) schema.visited
        {trail | ∃ before field,
          (schema.toForm defaults).follow? trail = some (before, some field)} ∧
      (∀ route visit, schema.Visits route visit → ∃ before field,
        (schema.toForm defaults).follow? (schema.place route) = some (before, some field) ∧
          visit.Gives defaults field) ∧
      (∀ field, (schema.toForm defaults).Has field →
        ∃ trail before, (schema.toForm defaults).follow? trail = some (before, some field)) ∧
      Field.Everywhere NamesAscend (schema.toForm defaults).fields := by
  refine ⟨⟨?mapsTo, ?injective, ?surjective⟩, ?_, fun _ => Form.exists_follow?_of_has,
    everywhere_namesAscend⟩
  case mapsTo =>
    rintro ⟨route, visit⟩ visits
    obtain ⟨before, leads⟩ := Visits.follow?_place visits
    exact ⟨before, _, leads⟩
  case injective =>
    rintro ⟨route, visit⟩ visits ⟨route', visit'⟩ visits' same
    obtain ⟨rfl, rfl⟩ := Visits.eq_of_place visits visits' same
    rfl
  case surjective =>
    rintro trail ⟨before, field, leads⟩
    obtain ⟨route, visit, visits, placed, _⟩ := exists_visits_of_follow? leads
    exact ⟨(route, visit), visits, placed⟩
  · intro route visit visits
    obtain ⟨before, leads⟩ := visits.follow?_place
    exact ⟨before, _, leads, visit.gives_field⟩

/-- The properties that are shown by a condition. -/
def messageBranch : Schema :=
  .node {} { properties := some [("note", none), ("message", some empty), ("card", none)] }
    { required := some ["message"] } {}

/-- A node with a condition on a property that has no schema of its own. -/
def orderSchema : Schema :=
  .node {}
    { condition := some (.node {}
        { properties := some [("gift", some (.node {} {} { const := .bool true } {}))] } {} {})
      consequent := some messageBranch
      properties := some [
        ("items", some (.node {} { items := some empty } { type := some (.single "array") } {})),
        ("gift", none)] }
    {} {}

/-- A schema with a property that is shown when another one has a value. -/
def nestedSchema : Schema :=
  .node {} { properties := some [("order", some orderSchema)] } {} {}

/-- The field for the property that is shown stands first in its list, and its value is required. -/
theorem fields_correspond_to_visits_of_nested :
    nestedSchema.place [.property "order", .consequent "message"] =
        [.child 0, .consequent 0] ∧
      ∃ before field, (nestedSchema.toForm {}).follow? [.child 0, .consequent 0] =
        some (before, some field) ∧ field.control.RequiresValue := by
  have reads : orderSchema.ReadsProperty "gift" :=
    ⟨by decide, _, rfl, ⟨_, List.mem_cons_self⟩,
      fun member among => by rw [List.mem_singleton.mp among]; decide⟩
  have visits : nestedSchema.Visits [.property "order", .consequent "message"]
      (messageBranch.visitOf "message" empty) := by
    have below : (nestedSchema.visitOf "order" orderSchema).Below [.consequent "message"]
        (messageBranch.visitOf "message" empty) :=
      .step (.consequent reads rfl (List.mem_cons_of_mem _ List.mem_cons_self)) .self
    exact .property List.mem_cons_self below
  have placed : nestedSchema.place [.property "order", .consequent "message"] =
      [.child 0, .consequent 0] := by decide
  obtain ⟨before, field, leads, gives⟩ := fields_correspond_to_visits.2.1 _ _ visits
  rw [placed] at leads
  exact ⟨placed, before, field, leads, gives.required.mpr List.mem_cons_self⟩

end Schema

end Formwork
