/-
This file describes the tools that the server offers: their names, what they are
for, and which arguments they take.
-/

import Formwork.Json.Basic

namespace Formwork

/-- The types of arguments that a tool can ask for. -/
inductive ArgumentType where
  | object
  | string
  | boolean
  deriving DecidableEq, Repr

/-- The name of a type of arguments. -/
def ArgumentType.name : ArgumentType → String
  | .object => "object"
  | .string => "string"
  | .boolean => "boolean"

/-- An argument of a tool. -/
structure ToolArgument where
  name : String
  types : List ArgumentType
  description : String
  default : Option Json := none
  isRequired : Bool := true

/-- The tools. -/
inductive Tool where
  | schemaToForm
  | validateForm
  deriving DecidableEq, Repr

namespace Tool

/-- All tools. -/
def all : List Tool := [.schemaToForm, .validateForm]

/-- The name of a tool. -/
def name : Tool → String
  | .schemaToForm => "schema_to_form"
  | .validateForm => "validate_form"

/-- The tool with a name. -/
def ofName? (name : String) : Option Tool := all.find? (·.name == name)

/-- What a tool is for. -/
def description : Tool → String
  | .schemaToForm =>
    "Convert a JSON Schema into a form definition.\n\n" ++
    "WHEN TO USE:\n" ++
    "- When you have a JSON Schema and need a renderable form for it\n" ++
    "- When you want to know which form controls a schema maps to\n\n" ++
    "RESULT:\n" ++
    "- form: the form definition (fields, options, validation, conditionals)\n" ++
    "- validation: whether the form definition is consistent (when validate=true)\n\n" ++
    "Properties become fields in alphabetical order. Enums with up to 3 values\n" ++
    "become radio buttons, longer enums become selects, const values become\n" ++
    "hidden fields."
  | .validateForm =>
    "Check that a form definition is internally consistent.\n\n" ++
    "Reports the first problem found: invalid, reserved or duplicate field names,\n" ++
    "unknown field types, missing or duplicate options, inconsistent validation\n" ++
    "bounds, or conditionals that reference unknown fields."

/-- The arguments of a tool. -/
def arguments : Tool → List ToolArgument
  | .schemaToForm => [
    { name := "schema"
      types := [.object, .string]
      description := "JSON Schema document (object or JSON text)" },
    { name := "validate"
      types := [.boolean]
      description := "Validate the converted form (default: true)"
      default := some (.bool true)
      isRequired := false }]
  | .validateForm => [
    { name := "form"
      types := [.object, .string]
      description := "Form definition (object or JSON text)" }]

/-- The types of an argument as a JSON value: a name, or a list of names. -/
def typesJson : List ArgumentType → Json
  | [type] => .str type.name
  | types => .arr (types.map (.str ·.name))

/-- The description of an argument as a JSON value. -/
def argumentJson (argument : ToolArgument) : Json :=
  .obj ([("type", typesJson argument.types), ("description", .str argument.description)] ++
    match argument.default with
    | some value => [("default", value)]
    | none => [])

/-- The arguments of a tool as a schema. -/
def inputSchema (tool : Tool) : Json :=
  .obj [
    ("type", .str "object"),
    ("properties", .obj (tool.arguments.map fun argument =>
      (argument.name, argumentJson argument))),
    ("required", .arr ((tool.arguments.filter (·.isRequired)).map (.str ·.name)))]

/-- The description of a tool as a JSON value. -/
def toJson (tool : Tool) : Json :=
  .obj [
    ("name", .str tool.name),
    ("description", .str tool.description),
    ("inputSchema", tool.inputSchema)]

/-- The descriptions of all tools. -/
def catalog : Json := .arr (all.map toJson)

end Tool

end Formwork
