/-
This file finds the kind of control for a node of a schema. A non-empty
enumeration becomes a choice and a constant a hidden control; otherwise the
declared type decides. The declared kind ignores enumerations and constants, and
it alone decides which children the control has.
-/

import Formwork.Schema.Basic
import Formwork.Kind

namespace Formwork

/-- The number of options up to which all of them are shown side by side. -/
def radioMaxOptions : Nat := 3

/-- The length beyond which a text needs several lines. -/
def textareaMinLength : Int := 100

/-- The kind of a choice among a number of options. -/
def Kind.ofOptionCount (count : Nat) : Kind :=
  if count ≤ radioMaxOptions then .radio else .select

/-- The kind for a format of strings, if the format has one. -/
def Kind.ofFormat? : String → Option Kind
  | "email" => some .email
  | "uri" => some .url
  | "url" => some .url
  | "date" => some .date
  | "time" => some .time
  | "date-time" => some .datetime
  | "password" => some .password
  | _ => none

namespace Schema

/-- The kind of a string: by its format, and else by its greatest length. -/
def Constraints.stringKind (constraints : Constraints) : Kind :=
  match constraints.format.bind Kind.ofFormat? with
  | some kind => kind
  | none =>
    match constraints.maxLength with
    | some length => if textareaMinLength < length then .textarea else .text
    | none => .text

/-- The kind for the name of a type; an unknown type is shown as text. -/
def Constraints.kindOfType (constraints : Constraints) : String → Kind
  | "string" => constraints.stringKind
  | "number" => .number
  | "integer" => .number
  | "boolean" => .checkbox
  | "array" => .array
  | "object" => .object
  | _ => .text

/-- The kind by the declared type, where the first member of a union other than null counts.
Without a type the presence of properties or items decides. -/
def declaredKindOf (constraints : Constraints) (hasProperties hasItems : Bool) : Kind :=
  match constraints.type with
  | none => if hasProperties then .object else if hasItems then .array else .text
  | some (.single name) => constraints.kindOfType name
  | some (.union names) =>
    match names.find? (· != "null") with
    | some name => constraints.kindOfType name
    | none => .text

/-- The members of the enumeration, none if there is no enumeration. -/
def Constraints.choices (constraints : Constraints) : List Scalar :=
  constraints.enumeration.getD []

/-- The kind of a control, given its declared kind. -/
def Constraints.kind (constraints : Constraints) (declared : Kind) : Kind :=
  if !constraints.choices.isEmpty then .ofOptionCount constraints.choices.length
  else if constraints.const != .null then .hidden
  else declared

/-- The kind of a node by its declared type. -/
def declaredKind (schema : Schema) : Kind :=
  declaredKindOf schema.constraints schema.applicators.properties.isSome
    schema.applicators.items.isSome

/-- The kind of the control for a node. -/
def kind (schema : Schema) : Kind := schema.constraints.kind schema.declaredKind

end Schema

end Formwork
