/-
This file proves that the rules of a converted field are those of its three sources: the bounds
of its node, the bounds on the items of an array and the names that the owner of its mapping
requires.
-/

import Formwork.Proofs.Conversion.Correspondence

namespace Formwork

namespace Schema

variable {defaults : FormDefaults} {schema : Schema}

/-! ### The rules of one field -/

/-- The rules for a visited node from all three sources. -/
def Visit.rules (defaults : FormDefaults) (visit : Visit) : Validation :=
  { visit.node.constraints.rules defaults visit.node.declaredKind with
    required := visit.required.contains visit.name }

theorem Visit.validation_field (visit : Visit) :
    (visit.field defaults).control.validation = (visit.rules defaults).unlessEmpty := by
  have held : (visit.node.toField defaults visit.name).control.validation =
      (visit.node.constraints.rules defaults visit.node.declaredKind).unlessEmpty := by
    rw [toField_control]
    exact Constraints.controlValidation_eq
  have named : (visit.node.toField defaults visit.name).control.name = visit.name :=
    control_name_toField visit.name visit.node
  refine (Control.validation_requireIf held Constraints.rules_explained rfl).trans ?_
  rw [named, rules]

/-- What the block of rules of the field for a visited node is: each rule is set to what its source
says, the block is missing exactly if no rule is set, and it differs from the block for the bounds
of the node in the requirement and the bounds on items alone. -/
structure Visit.Ruled (defaults : FormDefaults) (visit : Visit) (block : Option Validation) :
    Prop where
  required : (block.getD {}).required = true ↔ visit.name ∈ visit.required
  minLength : (block.getD {}).minLength = visit.node.constraints.minLength
  maxLength : (block.getD {}).maxLength = visit.node.constraints.maxLength
  minimum : (block.getD {}).minimum =
    (visit.node.constraints.exclusiveMinimum <|> visit.node.constraints.minimum)
  maximum : (block.getD {}).maximum =
    (visit.node.constraints.exclusiveMaximum <|> visit.node.constraints.maximum)
  step : (block.getD {}).step = visit.node.constraints.multipleOf
  pattern : ∀ text, (block.getD {}).pattern = some text ↔
    visit.node.constraints.pattern = some text ∧ text ≠ ""
  patternError : (block.getD {}).patternError =
    if (block.getD {}).pattern.isSome then defaults.patternMessage else none
  minItems : (block.getD {}).minItems =
    if visit.node.declaredKind = .array then visit.node.constraints.minItems else none
  maxItems : (block.getD {}).maxItems =
    if visit.node.declaredKind = .array then visit.node.constraints.maxItems else none
  missing : block = none ↔
    (block.getD {}).required = false ∧ (block.getD {}).minLength = none ∧
      (block.getD {}).maxLength = none ∧ (block.getD {}).minimum = none ∧
      (block.getD {}).maximum = none ∧ (block.getD {}).pattern = none ∧
      (block.getD {}).step = none ∧ (block.getD {}).minItems = none ∧
      (block.getD {}).maxItems = none
  others : block.getD {} =
    { (visit.node.validation defaults).getD {} with
      required := (block.getD {}).required
      minItems := (block.getD {}).minItems
      maxItems := (block.getD {}).maxItems }

theorem Visit.ruled_field (visit : Visit) :
    visit.Ruled defaults (visit.field defaults).control.validation := by
  have held := @validation_field defaults visit
  have filled : (visit.field defaults).control.validation.getD {} = visit.rules defaults := by
    rw [held]
    exact Validation.getD_unlessEmpty Constraints.bounds_explained
  have bounds : (visit.node.validation defaults).getD {} =
      visit.node.constraints.bounds defaults :=
    Validation.getD_unlessEmpty Constraints.bounds_explained
  constructor
  case required =>
    rw [filled]
    exact List.contains_iff_mem
  case pattern =>
    rw [filled]
    exact fun text => Constraints.effectivePattern_eq_some_iff
  case patternError =>
    rw [filled]
    show visit.node.constraints.effectivePattern.bind _ =
      if visit.node.constraints.effectivePattern.isSome then defaults.patternMessage else none
    cases visit.node.constraints.effectivePattern <;> rfl
  case missing =>
    rw [filled, held]
    exact Validation.unlessEmpty_eq_none_iff
  case others =>
    rw [filled, bounds]
    rfl
  all_goals
    rw [filled]
    rfl

/-! ### All fields of a form -/

/-- At the place of every visited node stands a field with the rules for the node, and every field
that a trail leads to is one of these. -/
theorem ruled_of_visits :
    (∀ route visit, schema.Visits route visit → ∃ before field,
      (schema.toForm defaults).follow? (schema.place route) = some (before, some field) ∧
        visit.Ruled defaults field.control.validation) ∧
    (∀ trail before field, (schema.toForm defaults).follow? trail = some (before, some field) →
      ∃ route visit, schema.Visits route visit ∧ schema.place route = trail ∧
        visit.Ruled defaults field.control.validation) := by
  constructor
  · intro route visit visits
    obtain ⟨before, leads⟩ := visits.follow?_place
    exact ⟨before, _, leads, visit.ruled_field⟩
  · intro trail before field leads
    obtain ⟨route, visit, visits, placed, rfl⟩ := exists_visits_of_follow? leads
    exact ⟨route, visit, visits, placed, visit.ruled_field⟩

/-- A choice that is declared as an array. -/
def topicsSchema : Schema :=
  .node {} {}
    { type := some (.single "array"), enumeration := some [.text "new", .text "old"]
      minimum := some (.infinite true), exclusiveMinimum := some (.zero false)
      pattern := some "", minItems := some 0 } {}

/-- The choice as a property that is required where it is shown. -/
def topicsBranch : Schema :=
  .node {} { properties := some [("topics", some topicsSchema)] } { required := some ["topics"] } {}

/-- A node that shows the choice on a condition. -/
def topicsOrderSchema : Schema :=
  .node {}
    { condition := some (.node {} { properties := some [("gift", some empty)] } {} {})
      consequent := some topicsBranch } {} {}

/-- A schema with the choice. -/
def topicsRootSchema : Schema :=
  .node {} { properties := some [("order", some topicsOrderSchema)] } {} {}

/-- The bounds of the choice that are zero are kept, and its empty pattern is not. -/
theorem ruled_of_topics :
    ∃ before field, (topicsRootSchema.toForm {}).follow? [.child 0, .consequent 0] =
        some (before, some field) ∧
      ∃ rules, field.control.validation = some rules ∧ rules.required = true ∧
        rules.minimum = some (.zero false) ∧ rules.minItems = some 0 ∧ rules.pattern = none := by
  have reads : topicsOrderSchema.ReadsProperty "gift" :=
    ⟨by decide, _, rfl, ⟨_, List.mem_cons_self⟩,
      fun member among => by rw [List.mem_singleton.mp among]; decide⟩
  have visits : topicsRootSchema.Visits [.property "order", .consequent "topics"]
      (topicsBranch.visitOf "topics" topicsSchema) := by
    have below : (topicsRootSchema.visitOf "order" topicsOrderSchema).Below [.consequent "topics"]
        (topicsBranch.visitOf "topics" topicsSchema) :=
      .step (.consequent reads rfl List.mem_cons_self) .self
    exact .property List.mem_cons_self below
  have placed : topicsRootSchema.place [.property "order", .consequent "topics"] =
      [.child 0, .consequent 0] := by decide
  obtain ⟨before, field, leads, ruled⟩ := ruled_of_visits.1 _ _ visits
  rw [placed] at leads
  refine ⟨before, field, leads, ?_⟩
  cases held : field.control.validation with
  | none => exact absurd (ruled.missing.mp held).2.2.2.1 (by rw [ruled.minimum]; decide)
  | some rules =>
    rw [held] at ruled
    have noPattern : rules.pattern = none := by
      refine Option.eq_none_iff_forall_ne_some.mpr fun text set => ?_
      obtain ⟨given, nonempty⟩ := (ruled.pattern text).mp set
      exact nonempty (Option.some.inj given).symm
    exact ⟨rules, rfl, ruled.required.mpr List.mem_cons_self, ruled.minimum, ruled.minItems,
      noPattern⟩

end Schema

end Formwork
