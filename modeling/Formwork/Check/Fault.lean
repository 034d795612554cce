/-
This file defines what can be wrong with a schema or a form that is to be
converted or rendered. A fault is a cause with what its message needs; faults
fall into five categories.
-/

import Formwork.Json.Display
import Formwork.Kind

namespace Formwork

/-- The categories of faults. -/
inductive Category where
  | structural
  | fieldName
  | fieldKind
  | constraint
  | conditionReference
  deriving DecidableEq, Repr

/-- The name of a category in answers. -/
def Category.name : Category → String
  | .structural => "StructuralError"
  | .fieldName => "FieldNameError"
  | .fieldKind => "FieldKindError"
  | .constraint => "ConstraintError"
  | .conditionReference => "ConditionReferenceError"

/-- The rules that count something. -/
inductive CountRule where
  | minLength
  | maxLength
  | minItems
  | maxItems
  deriving DecidableEq, Repr

/-- The name of a counting rule in documents. -/
def CountRule.name : CountRule → String
  | .minLength => "minLength"
  | .maxLength => "maxLength"
  | .minItems => "minItems"
  | .maxItems => "maxItems"

/-- The groups of rules that apply together to a kind of control, or not at all. -/
inductive RuleGroup where
  | length
  | range
  | items
  deriving DecidableEq, Repr

/-- The rules of a group, as messages list them. -/
def RuleGroup.label : RuleGroup → String
  | .length => "minLength/maxLength"
  | .range => "min/max/step"
  | .items => "minItems/maxItems"

/-- The methods by which a form can be submitted. -/
def submitMethods : List String := ["GET", "POST", "PUT", "PATCH", "DELETE", "HEAD", "OPTIONS"]

/-- A cause for which a schema or a form is refused. -/
inductive Fault where
  | noSchema
  | noForm
  | noFields
  | unknownMethod (method : String)
  | noField
  | malformedName (name : String)
  | reservedName (name : String)
  | duplicateName (name : String)
  | unknownKind (kind : String)
  | optionsMissing (kind : Kind)
  | optionsForbidden (kind : Kind)
  | duplicateOption (text : String) (position : Nat)
  | negativeCount (rule : CountRule)
  | crossedLengths (low high : Scalar)
  | crossedRange (low high : Scalar)
  | crossedItems (low high : Scalar)
  | stepNotPositive (step : Scalar)
  | inapplicableRules (group : RuleGroup) (kind : Kind)
  | strayChildren (kind : String)
  | noCondition
  | ownCondition (name : String)
  | unknownCondition (name : String)
  deriving DecidableEq

namespace Fault

/-- The category of a fault. -/
def category : Fault → Category
  | .noSchema | .noForm | .noFields | .noField => .structural
  | .malformedName _ | .reservedName _ | .duplicateName _ => .fieldName
  | .unknownKind _ | .strayChildren _ => .fieldKind
  | .unknownMethod _ | .optionsMissing _ | .optionsForbidden _ | .duplicateOption _ _
  | .negativeCount _ | .crossedLengths _ _ | .crossedRange _ _ | .crossedItems _ _
  | .stepNotPositive _ | .inapplicableRules _ _ => .constraint
  | .noCondition | .ownCondition _ | .unknownCondition _ => .conditionReference

/-- A text between single quotes, without escapes. -/
def quote (text : String) : String := "'" ++ text ++ "'"

/-- A whole number in a message. -/
def showInt (value : Int) : String := (Scalar.int value).display

/-- A count in a message. -/
def showCount (count : Scalar) : String := count.toJson.shown

/-- The text of a fault, without its place. As in `Scalar.display`, a limit on the digits of the
numbers in it is left out. -/
def text : Fault → String
  | .noSchema => "schema cannot be None"
  | .noForm => "form cannot be None"
  | .noFields => "form must have at least one field"
  | .unknownMethod method =>
    "invalid HTTP method: " ++ method ++ " (must be one of: " ++
      ", ".intercalate submitMethods ++ ")"
  | .noField => "field cannot be None"
  | .malformedName name =>
    "invalid field name " ++ quote name ++ " (must start with letter/underscore and contain " ++
      "only letters, digits, underscores, hyphens, and dots)"
  | .reservedName name => "field name " ++ quote name ++ " is reserved and cannot be used"
  | .duplicateName name => "duplicate field name " ++ quote name ++ " at the same level"
  | .unknownKind kind => "invalid field type " ++ quote kind
  | .optionsMissing kind =>
    "field type " ++ quote kind.name ++ " requires at least one option"
  | .optionsForbidden kind => "field type " ++ quote kind.name ++ " cannot have options"
  | .duplicateOption text position =>
    "duplicate option value " ++ quote text ++ " at options[" ++ showInt position ++ "]"
  | .negativeCount rule => "validation." ++ rule.name ++ " cannot be negative"
  | .crossedLengths low high =>
    "validation.minLength (" ++ showCount low ++ ") cannot be greater than maxLength (" ++
      showCount high ++ ")"
  | .crossedRange low high =>
    "validation.min (" ++ low.display ++ ") cannot be greater than max (" ++
      high.display ++ ")"
  | .crossedItems low high =>
    "validation.minItems (" ++ showCount low ++ ") cannot be greater than maxItems (" ++
      showCount high ++ ")"
  | .stepNotPositive step => "validation.step must be positive, got " ++ step.display
  | .inapplicableRules group kind =>
    "validation rules " ++ group.label ++ " are not applicable for field type " ++
      quote kind.name
  | .strayChildren kind =>
    "fields with nested fields must have type 'object' or 'array', got " ++ quote kind
  | .noCondition => "conditional field must specify a condition field name"
  | .ownCondition name => "conditional field cannot reference its own field " ++ quote name
  | .unknownCondition name =>
    "conditional field references non-existent field " ++ quote name

end Fault

end Formwork
