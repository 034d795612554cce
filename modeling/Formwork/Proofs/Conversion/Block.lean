/-
This file says what the conversion puts in the block of rules of a control.

The rules for the bounds of a node, the bounds on the items of an array and the requirement are
set one after the other, and each step may have to make the block that it sets a rule in. A
block is left out when it says nothing, so leaving it out and making it anew at the next step
loses no rule: what results is one block with the rules of all steps.
-/

import Formwork.Conversion.Control

namespace Formwork

namespace Validation

variable {validation : Validation}

/-! ### Blocks that are left out -/

/-- Whether the message of a pattern is there only beside a pattern. -/
def Explained (validation : Validation) : Prop :=
  validation.pattern = none → validation.patternError = none

theorem eq_of_isEmpty (explained : validation.Explained) (empty : validation.isEmpty = true) :
    validation = {} := by
  obtain ⟨required, minLength, maxLength, minimum, maximum, pattern, patternError, step, minItems,
    maxItems⟩ := validation
  simp only [isEmpty, Bool.and_eq_true, Bool.not_eq_true', Option.isNone_iff_eq_none] at empty
  simp_all [Explained]

/-- Leaving out an empty block loses neither a rule nor a message. -/
theorem getD_unlessEmpty (explained : validation.Explained) :
    validation.unlessEmpty.getD {} = validation := by
  unfold unlessEmpty
  split
  · rename_i empty
    exact (eq_of_isEmpty explained empty).symm
  · rfl

/-- A rule can be set in a block that may have been left out. -/
theorem some_getD_unlessEmpty (explained : validation.Explained)
    {change : Validation → Validation} (set : (change validation).isEmpty = false) :
    some (change (validation.unlessEmpty.getD {})) = (change validation).unlessEmpty := by
  rw [getD_unlessEmpty explained, unlessEmpty, set]
  rfl

theorem eq_of_unlessEmpty {kept : Validation} (held : validation.unlessEmpty = some kept) :
    kept = validation := by
  unfold unlessEmpty at held
  split at held
  · cases held
  · exact (Option.some.inj held).symm

theorem unlessEmpty_eq_none_iff :
    validation.unlessEmpty = none ↔
      validation.required = false ∧ validation.minLength = none ∧ validation.maxLength = none ∧
        validation.minimum = none ∧ validation.maximum = none ∧ validation.pattern = none ∧
        validation.step = none ∧ validation.minItems = none ∧ validation.maxItems = none := by
  simp [unlessEmpty, isEmpty, and_assoc]

end Validation

/-- The requirement is one more rule of a control. -/
theorem Control.validation_requireIf {control : Control} {required : List String}
    {validation : Validation} (held : control.validation = validation.unlessEmpty)
    (explained : validation.Explained) (optional : validation.required = false) :
    (control.requireIf required).validation =
      { validation with required := required.contains control.name }.unlessEmpty := by
  unfold requireIf
  split
  · rename_i listed
    rw [listed, require, held]
    exact @Validation.some_getD_unlessEmpty validation explained
      (fun validation => { validation with required := true }) rfl
  · rename_i unlisted
    rw [Bool.not_eq_true] at unlisted
    rw [unlisted, held, ← optional]

namespace Schema

variable {defaults : FormDefaults} {constraints : Constraints} {declared : Kind}

/-! ### The rules of one control -/

theorem Constraints.effectivePattern_eq_some_iff {text : String} :
    constraints.effectivePattern = some text ↔ constraints.pattern = some text ∧ text ≠ "" := by
  simp [effectivePattern, Option.filter_eq_some_iff]

theorem Constraints.bounds_explained : (constraints.bounds defaults).Explained := by
  intro absent
  have noPattern : constraints.effectivePattern = none := absent
  rw [bounds, noPattern]
  rfl

/-- The rules that a node gives to a control: those for its bounds and, if it is declared as an
array, those for the bounds on its items. -/
def Constraints.rules (defaults : FormDefaults) (constraints : Constraints) (declared : Kind) :
    Validation :=
  { constraints.bounds defaults with
    minItems := if declared = .array then constraints.minItems else none
    maxItems := if declared = .array then constraints.maxItems else none }

theorem Constraints.rules_explained : (constraints.rules defaults declared).Explained :=
  bounds_explained

/-- The block of a control holds the rules from both sources. -/
theorem Constraints.controlValidation_eq :
    constraints.controlValidation defaults declared =
      (constraints.rules defaults declared).unlessEmpty := by
  unfold controlValidation
  split
  · rename_i bounded
    obtain ⟨rfl, given⟩ := bounded
    have set : (constraints.rules defaults .array).isEmpty = false := by
      rcases given with given | given <;>
        simp [rules, Validation.isEmpty, Option.isNone_eq_false_iff.mpr given]
    exact @Validation.some_getD_unlessEmpty (constraints.bounds defaults) bounds_explained
      (fun validation => { validation with
        minItems := constraints.minItems
        maxItems := constraints.maxItems }) set
  · rename_i unbounded
    have unset : constraints.rules defaults declared = constraints.bounds defaults := by
      by_cases array : declared = .array
      · have absent : constraints.minItems = none ∧ constraints.maxItems = none := by
          simpa [array] using unbounded
        rw [rules, if_pos array, if_pos array, absent.1, absent.2]
        rfl
      · rw [rules, if_neg array, if_neg array]
        rfl
    rw [unset, validation]

end Schema

end Formwork
