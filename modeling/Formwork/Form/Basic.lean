/-
This file defines forms: trees of fields. A field is a control, which holds all
that is shown or checked of the field alone, together with its children and an
optional gate. A gate names a sibling field and holds two further lists of
fields, of which one is shown depending on the value of the sibling. A list of
fields may have gaps where a field is missing; no document has such gaps, but a
form that is edited may.
-/

import Formwork.Scalar
import Formwork.Kind

namespace Formwork

/-- An option to choose: the text shown for it and the value it submits. -/
structure FieldOption where
  label : String
  value : Scalar := .null
  deriving DecidableEq

/-- The rules that the value of a field must obey. -/
structure Validation where
  required : Bool := false
  minLength : Option Int := none
  maxLength : Option Int := none
  minimum : Option Binary64 := none
  maximum : Option Binary64 := none
  pattern : Option String := none
  patternError : Option String := none
  step : Option Binary64 := none
  minItems : Option Int := none
  maxItems : Option Int := none
  deriving DecidableEq

/-- Whether no rule is set. The message of a pattern is not a rule. -/
def Validation.isEmpty (validation : Validation) : Bool :=
  !validation.required && validation.minLength.isNone && validation.maxLength.isNone &&
    validation.minimum.isNone && validation.maximum.isNone && validation.pattern.isNone &&
    validation.step.isNone && validation.minItems.isNone && validation.maxItems.isNone

/-- All of a field but its children and its gate. The kind is kept as the text that was given,
which need not name a kind. A null default or value counts as absent. -/
structure Control where
  name : String := ""
  kind : String
  label : Option String := none
  description : Option String := none
  placeholder : Option String := none
  default : Json := .null
  value : Scalar := .null
  options : List FieldOption := []
  validation : Option Validation := none
  readOnly : Bool := false
  deprecated : Bool := false
  helpText : Option String := none

/-- A condition on a sibling and the fields shown when it holds and when it does not. -/
structure Gate (Node : Type) where
  condition : String
  trigger : Scalar := .null
  consequent : List (Option Node) := []
  alternative : List (Option Node) := []

/-- A field: a control, the children inside of it, and the gate it carries. -/
inductive Field where
  | mk (control : Control) (children : List (Option Field)) (gate : Option (Gate Field))

namespace Field

/-- All of the field but its children and its gate. -/
def control : Field → Control
  | .mk control _ _ => control

/-- The fields inside of the field. -/
def children : Field → List (Option Field)
  | .mk _ children _ => children

/-- The gate that the field carries. -/
def gate : Field → Option (Gate Field)
  | .mk _ _ gate => gate

/-- The field with another control. -/
def withControl (field : Field) (control : Control) : Field :=
  .mk control field.children field.gate

end Field

/-- A complete form. -/
structure Form where
  title : Option String := none
  description : Option String := none
  action : Option String := none
  method : Option String := none
  fields : List (Option Field) := []

end Formwork
