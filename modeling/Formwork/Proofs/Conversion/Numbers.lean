/-
This file says where the doubles of a converted form come from. Those of its defaults, its
fixed values, its options and its triggers are taken from nodes as they are, and those of
its rules are bounds of nodes.
-/

import Formwork.Proofs.Conversion.Coherence
import Formwork.Proofs.Schema.Numbers

namespace Formwork

variable {holds : Binary64 → Prop}

theorem Validation.numbers_congr {validation validation' : Validation}
    (same : validation.bounds = validation'.bounds) : validation.numbers = validation'.numbers := by
  simp only [bounds, Bounds.mk.injEq] at same
  obtain ⟨_, _, minimum, maximum, step, _, _⟩ := same
  have injective : Function.Injective (Option.map Scalar.float) :=
    Option.map_injective fun _ _ => Scalar.float.inj
  rw [numbers, numbers, injective minimum, injective maximum, injective step]

namespace Schema

variable {defaults : FormDefaults} {schema : Schema} {visit : Visit}

/-! ### One node and its field -/

theorem numbers_boundRules (bounded : ∀ number ∈ schema.constraints.numbers, holds number) :
    ∀ number ∈ schema.boundRules.numbers, holds number := by
  simp only [Constraints.numbers, List.reduceOption_mem_iff, List.mem_cons, List.not_mem_nil,
    or_false, or_imp, forall_and, @eq_comm _ (some _)] at bounded
  obtain ⟨multipleOf, minimum, maximum, exclusiveMinimum, exclusiveMaximum⟩ := bounded
  have either : ∀ {exclusive inclusive : Option Binary64},
      (∀ number, exclusive = some number → holds number) →
      (∀ number, inclusive = some number → holds number) →
      ∀ number, (exclusive <|> inclusive) = some number → holds number := by
    intro exclusive inclusive first second number held
    cases exclusive with
    | none => exact second number held
    | some given => exact first number held
  exact Validation.forall_numbers_iff.mpr
    ⟨either exclusiveMinimum minimum, either exclusiveMaximum maximum, multipleOf⟩

/-- The doubles among the rules of the field for a node are bounds of the node. -/
theorem Visit.ruleNumbers_field
    (bounded : ∀ number ∈ visit.node.constraints.numbers, holds number) :
    ∀ number ∈ (visit.field defaults).control.ruleNumbers, holds number := by
  have represents := @represents_propertyField defaults visit.required visit.name visit.node
  rw [Control.ruleNumbers, Visit.field, Validation.numbers_congr represents.bounds]
  exact numbers_boundRules bounded

theorem Visit.default_field (visit : Visit) :
    (visit.field defaults).control.default = visit.node.annotations.default := by
  have kept : (visit.field defaults).control.default =
      (visit.node.toField defaults visit.name).control.default :=
    Control.default_requireIf _ visit.required
  rw [kept, toField_control]
  rfl

theorem Visit.gate_field (visit : Visit) :
    (visit.field defaults).gate = (visit.node.toField defaults visit.name).gate := rfl

/-- All doubles of the field for a node are fixed values and choices of the node and those below
it, apart from those among its rules and in its default. -/
theorem Visit.allNumbers_field_iff (taken : Everywhere (TakesScalars holds) visit.node) :
    (visit.field defaults).AllNumbers holds ↔
      ∀ number ∈ (visit.field defaults).control.ruleNumbers, holds number := by
  refine ⟨fun given => given.control.rules, fun rules => ⟨⟨?_, ?_, rules⟩, fun gate held => ?_⟩⟩
  · rw [Visit.field, value_propertyField, fixedValue]
    split
    · exact taken.here.const
    · trivial
  · rw [Visit.field,
      (@represents_propertyField defaults visit.required visit.name visit.node).options]
    refine List.forall_mem_map.mpr fun choice among => ?_
    unfold Constraints.choices at among
    cases held : visit.node.constraints.enumeration with
    | none =>
      rw [held] at among
      cases among
    | some choices =>
      rw [held] at among
      exact taken.here.choices choices held choice among
  · rw [Visit.gate_field, toField_gate] at held
    obtain ⟨trigger, found, rfl⟩ := Option.map_eq_some_iff.mp held
    exact @allLeaves_trigger? (Json.NumberLeaf holds) trivial _ _ found
      fun condition same part member =>
        ((taken.part (mem_parts_of_condition same)).part member).here.const

/-! ### Converted forms -/

variable {field : Field} (has : (schema.toForm defaults).Has field)
include has

theorem allNumbers_default_of_has (taken : Everywhere (TakesNumbers holds) schema) :
    field.control.default.AllNumbers holds := by
  obtain ⟨route, visit, visits, rfl⟩ := exists_visits_of_has has
  rw [visit.default_field]
  exact (visits.everywhere taken).here.default

theorem allNumbers_iff_of_has (taken : Everywhere (TakesScalars holds) schema) :
    field.AllNumbers holds ↔ ∀ number ∈ field.control.ruleNumbers, holds number := by
  obtain ⟨route, visit, visits, rfl⟩ := exists_visits_of_has has
  exact Visit.allNumbers_field_iff (visits.everywhere taken)

theorem ruleNumbers_of_has
    (bounded : Everywhere (fun node => ∀ number ∈ node.constraints.numbers, holds number) schema) :
    ∀ number ∈ field.control.ruleNumbers, holds number := by
  obtain ⟨route, visit, visits, rfl⟩ := exists_visits_of_has has
  exact Visit.ruleNumbers_field (visits.everywhere bounded).here

end Schema

end Formwork
