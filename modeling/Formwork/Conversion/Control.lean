/-
This file builds the control for a node of a schema: its options, its fixed value
and its rules. Rules come from three places: the bounds of the node, the bounds
on the items of an array, and the list of required names of the node's owner.
-/

import Formwork.Conversion.Inference
import Formwork.Conversion.Defaults
import Formwork.Form.Basic

namespace Formwork

/-- The option for a member of an enumeration, labelled by its text. -/
def FieldOption.ofScalar (value : Scalar) : FieldOption := ⟨value.display, value⟩

/-- The rules, or none when no rule is set. -/
def Validation.unlessEmpty (validation : Validation) : Option Validation :=
  if validation.isEmpty then none else some validation

namespace Schema

/-- The pattern of a string; an empty one counts as absent. -/
def Constraints.effectivePattern (constraints : Constraints) : Option String :=
  constraints.pattern.filter (!·.isEmpty)

/-- The rules for the bounds of a node. An exclusive bound takes the place of the inclusive
one. -/
def Constraints.bounds (defaults : FormDefaults) (constraints : Constraints) : Validation where
  minLength := constraints.minLength
  maxLength := constraints.maxLength
  minimum := constraints.exclusiveMinimum <|> constraints.minimum
  maximum := constraints.exclusiveMaximum <|> constraints.maximum
  pattern := constraints.effectivePattern
  patternError := constraints.effectivePattern.bind fun _ => defaults.patternMessage
  step := constraints.multipleOf

/-- The rules for the bounds of a node, none if it has no bounds. -/
def Constraints.validation (defaults : FormDefaults) (constraints : Constraints) :
    Option Validation :=
  (constraints.bounds defaults).unlessEmpty

/-- The rules of a control, with the bounds on items if it is declared as an array. -/
def Constraints.controlValidation (defaults : FormDefaults) (constraints : Constraints)
    (declared : Kind) : Option Validation :=
  let validation := constraints.validation defaults
  if declared = .array ∧ (constraints.minItems.isSome ∨ constraints.maxItems.isSome) then
    some { validation.getD {} with
      minItems := constraints.minItems
      maxItems := constraints.maxItems }
  else validation

/-- The control for a node with the given declared kind. -/
def controlOf (defaults : FormDefaults) (name : String) (constraints : Constraints)
    (annotations : Annotations) (declared : Kind) : Control where
  name := name
  kind := (constraints.kind declared).name
  label := annotations.title
  description := annotations.description
  default := annotations.default
  value := if constraints.choices.isEmpty then constraints.const else .null
  options := constraints.choices.map .ofScalar
  validation := constraints.controlValidation defaults declared
  readOnly := annotations.readOnly.getD false
  deprecated := annotations.deprecated.getD false

/-- The rules for the bounds of a node, none if it has no bounds. -/
def validation (defaults : FormDefaults) (schema : Schema) : Option Validation :=
  schema.constraints.validation defaults

end Schema

/-- The control with its value required, in addition to its other rules. -/
def Control.require (control : Control) : Control :=
  { control with validation := some { control.validation.getD {} with required := true } }

/-- The control with its value required if its name is among the required ones. -/
def Control.requireIf (required : List String) (control : Control) : Control :=
  if required.contains control.name then control.require else control

end Formwork
