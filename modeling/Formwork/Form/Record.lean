/-
This file writes the full record of a form: every attribute under its name in
documents, an absent one as null, false or an empty list. Records are compared as
data: attribute by attribute, with numbers compared by value. Since not-a-number
differs from itself, a form that holds one differs from itself too.
-/

import Formwork.Form.Basic
import Formwork.Json.Members

namespace Formwork

open Json (orNull)

/-- The full record of an option. -/
def FieldOption.toRecord (option : FieldOption) : Json :=
  .obj [("label", .str option.label), ("value", option.value.toJson)]

/-- The full record of rules. -/
def Validation.toRecord (validation : Validation) : Json :=
  .obj [
    ("required", .bool validation.required),
    ("minLength", orNull .int validation.minLength),
    ("maxLength", orNull .int validation.maxLength),
    ("min", orNull .float validation.minimum),
    ("max", orNull .float validation.maximum),
    ("pattern", orNull .str validation.pattern),
    ("patternError", orNull .str validation.patternError),
    ("step", orNull .float validation.step),
    ("minItems", orNull .int validation.minItems),
    ("maxItems", orNull .int validation.maxItems)]

/-- The members of the record of a field up to its nested fields. -/
def Control.recordMembers (control : Control) : List (String × Json) := [
  ("name", .str control.name),
  ("type", .str control.kind),
  ("label", orNull .str control.label),
  ("description", orNull .str control.description),
  ("placeholder", orNull .str control.placeholder),
  ("default", control.default),
  ("value", control.value.toJson),
  ("options", .arr (control.options.map FieldOption.toRecord)),
  ("validation", orNull Validation.toRecord control.validation),
  ("readOnly", .bool control.readOnly),
  ("deprecated", .bool control.deprecated)]

namespace Field

mutual

/-- The full record of a field. -/
def toRecord : Field → Json
  | .mk control children gate =>
    .obj (control.recordMembers ++ [
      ("fields", .arr (listToRecords children)),
      ("conditional",
        match gate with
        | some gate => gateToRecord gate
        | none => .null),
      ("helpText", orNull .str control.helpText)])
termination_by structural field => field

/-- The records of the fields of a list, with null for a missing one. -/
def listToRecords : List (Option Field) → List Json
  | [] => []
  | some field :: rest => toRecord field :: listToRecords rest
  | none :: rest => .null :: listToRecords rest
termination_by structural fields => fields

/-- The full record of a gate. -/
def gateToRecord : Gate Field → Json
  | ⟨condition, trigger, consequent, alternative⟩ =>
    .obj [
      ("condition", .str condition),
      ("value", trigger.toJson),
      ("then", .arr (listToRecords consequent)),
      ("else", .arr (listToRecords alternative))]
termination_by structural gate => gate

end

end Field

namespace Form

/-- The full record of a form. -/
def toRecord (form : Form) : Json :=
  .obj [
    ("title", orNull .str form.title),
    ("description", orNull .str form.description),
    ("action", orNull .str form.action),
    ("method", orNull .str form.method),
    ("fields", .arr (Field.listToRecords form.fields))]

/-- Equality of forms as data. -/
def sameValue (form form' : Form) : Bool := form.toRecord.sameValue form'.toRecord

end Form

end Formwork
