/-
This file defines the issues that reading a document can find. An issue is a
place in the document and the way in which the value found there does not fit.
Every document is read to its end, so that all issues are reported at once.
-/

namespace Formwork

/-- One step from a value to a part of it. -/
inductive LocationStep where
  | name (text : String)
  | index (position : Nat)
  deriving DecidableEq, Repr

/-- How a document was given: as text, or as a value that is already decoded. -/
inductive Source where
  | text
  | value
  deriving DecidableEq, Repr

/-- The records that a document may hold. -/
inductive Record where
  | schema
  | form
  | field
  | option
  | validation
  | gate
  deriving DecidableEq, Repr

/-- The name of a record in messages. -/
def Record.title : Record → String
  | .schema => "JSONSchema"
  | .form => "Form"
  | .field => "FormField"
  | .option => "FieldOption"
  | .validation => "FieldValidation"
  | .gate => "ConditionalField"

/-- What a value is read as: a record, a record or null, or a list of records. -/
inductive Target where
  | single (record : Record)
  | orNull (record : Record)
  | list (record : Record)
  deriving DecidableEq, Repr

/-- The name of a target in messages. -/
def Target.title : Target → String
  | .single record => record.title
  | .orNull record => "nullable[" ++ record.title ++ "]"
  | .list record => "list[" ++ record.title ++ "]"

/-- The ways in which a value does not fit. -/
inductive Mismatch where
  | notText
  | notInt
  | unreadableInt
  | fractionalInt
  | oversizedInt
  | notFinite
  | notFloat
  | unreadableFloat
  | notBool
  | unreadableBool
  | notList
  | notMapping
  | notRecord (record : Record)
  | missing
  | frozen
  | malformedText
  deriving DecidableEq, Repr

namespace Mismatch

/-- The short name of a mismatch. -/
def code : Mismatch → String
  | .notText => "string_type"
  | .notInt => "int_type"
  | .unreadableInt => "int_parsing"
  | .fractionalInt => "int_from_float"
  | .oversizedInt => "int_parsing_size"
  | .notFinite => "finite_number"
  | .notFloat => "float_type"
  | .unreadableFloat => "float_parsing"
  | .notBool => "bool_type"
  | .unreadableBool => "bool_parsing"
  | .notList => "list_type"
  | .notMapping => "dict_type"
  | .notRecord _ => "model_type"
  | .missing => "missing"
  | .frozen => "frozen_instance"
  | .malformedText => "json_invalid"

/-- The message of a mismatch. Containers have other names in text than in decoded values, and
malformed text is described by its reader alone. -/
def message? (source : Source) : Mismatch → Option String
  | .notText => some "Input should be a valid string"
  | .notInt => some "Input should be a valid integer"
  | .unreadableInt =>
    some "Input should be a valid integer, unable to parse string as an integer"
  | .fractionalInt =>
    some "Input should be a valid integer, got a number with a fractional part"
  | .oversizedInt =>
    some "Unable to parse input string as an integer, exceeded maximum size"
  | .notFinite => some "Input should be a finite number"
  | .notFloat => some "Input should be a valid number"
  | .unreadableFloat =>
    some "Input should be a valid number, unable to parse string as a number"
  | .notBool => some "Input should be a valid boolean"
  | .unreadableBool => some "Input should be a valid boolean, unable to interpret input"
  | .notList =>
    match source with
    | .text => some "Input should be a valid array"
    | .value => some "Input should be a valid list"
  | .notMapping =>
    match source with
    | .text => some "Input should be an object"
    | .value => some "Input should be a valid dictionary"
  | .notRecord record =>
    match source with
    | .text => some "Input should be an object"
    | .value => some ("Input should be a valid dictionary or instance of " ++ record.title)
  | .missing => some "Field required"
  | .frozen => some "Instance is frozen"
  | .malformedText => none

end Mismatch

/-- A mismatch and its place, from the root of the document inwards. -/
structure Issue where
  location : List LocationStep
  mismatch : Mismatch
  deriving DecidableEq, Repr

end Formwork
