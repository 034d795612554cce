/-
This file checks the bounds among the rules of a field: that some value can meet
them, and that they apply to the kind of the field. A bound is a scalar, so that
bounds of all types are compared and shown in one way.
-/

import Formwork.Check.Fault
import Formwork.Form.Basic
import Formwork.Scalar.Order

namespace Formwork

/-- The bounds among the rules of a field. -/
structure Bounds where
  minLength : Option Scalar := none
  maxLength : Option Scalar := none
  minimum : Option Scalar := none
  maximum : Option Scalar := none
  step : Option Scalar := none
  minItems : Option Scalar := none
  maxItems : Option Scalar := none
  deriving DecidableEq

/-- The bounds among rules. -/
def Validation.bounds (validation : Validation) : Bounds where
  minLength := validation.minLength.map .int
  maxLength := validation.maxLength.map .int
  minimum := validation.minimum.map .float
  maximum := validation.maximum.map .float
  step := validation.step.map .float
  minItems := validation.minItems.map .int
  maxItems := validation.maxItems.map .int

/-- The groups of rules that a kind of control must not carry. -/
def Kind.inapplicable (kind : Kind) : List RuleGroup :=
  if textual.contains kind then [.range, .items]
  else if kind = .number then [.length, .items]
  else if kind = .array then [.length, .range]
  else if choices.contains kind then [.length, .range, .items]
  else []

namespace Bounds

/-- Whether a bound of a group is set. -/
def carries (bounds : Bounds) : RuleGroup → Bool
  | .length => bounds.minLength.isSome || bounds.maxLength.isSome
  | .range => bounds.minimum.isSome || bounds.maximum.isSome || bounds.step.isSome
  | .items => bounds.minItems.isSome || bounds.maxItems.isSome

/-- The fault of a count below zero. -/
def countFault? (rule : CountRule) : Option Scalar → Option Fault
  | some count => if count.less (.int 0) then some (.negativeCount rule) else none
  | none => none

/-- The fault of two bounds of which the lower one is greater. -/
def crossedFault? (crossed : Scalar → Scalar → Fault) :
    Option Scalar → Option Scalar → Option Fault
  | some low, some high => if high.less low then some (crossed low high) else none
  | _, _ => none

/-- The fault of a step that is zero or below. -/
def stepFault? : Option Scalar → Option Fault
  | some step => if step.atMost (.int 0) then some (.stepNotPositive step) else none
  | none => none

/-- The fault of bounds that no value can meet. -/
def ownFault? (bounds : Bounds) : Option Fault :=
  countFault? .minLength bounds.minLength <|>
  countFault? .maxLength bounds.maxLength <|>
  crossedFault? .crossedLengths bounds.minLength bounds.maxLength <|>
  crossedFault? .crossedRange bounds.minimum bounds.maximum <|>
  countFault? .minItems bounds.minItems <|>
  countFault? .maxItems bounds.maxItems <|>
  crossedFault? .crossedItems bounds.minItems bounds.maxItems <|>
  stepFault? bounds.step

/-- The fault of the bounds of a control of some kind: first of the bounds themselves, then of
bounds that do not apply to the kind. -/
def fault? (bounds : Bounds) (kind : Kind) : Option Fault :=
  bounds.ownFault? <|>
  (kind.inapplicable.find? bounds.carries).map fun group => .inapplicableRules group kind

end Bounds

/-- The fault of the rules of a control of some kind. -/
def Validation.fault? (validation : Validation) (kind : Kind) : Option Fault :=
  validation.bounds.fault? kind

end Formwork
