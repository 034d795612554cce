/-
This file converts schemas to fields and forms. The properties of an object
become its children in ascending order of their names, whatever order they are
given in, the items of an array become one child, and the keywords `if`, `then`
and `else` become a gate on the property with the smallest name in the condition.
The result is not checked.
-/

import Formwork.Conversion.Control

namespace Formwork

/-- The name of the child that stands for the items of an array. -/
def arrayItemName : String := "item"

namespace Schema

/-- The name of the property that a condition reads, and the value it is compared with, given the
properties in order: the first name counts, and an empty one gives no condition. -/
def triggerOf? (properties : List (String × Option Schema)) : Option (String × Scalar) :=
  match properties with
  | [] => none
  | (name, schema) :: _ =>
    if name.isEmpty then none
    else
      some (name, match schema with
        | some schema => schema.constraints.const
        | none => .null)

/-- The name and the value that the condition of a node reads. -/
def trigger? (condition : Option Schema) : Option (String × Scalar) :=
  match condition with
  | some schema => triggerOf? schema.properties
  | none => none

/-- The fields that are there, in ascending order of the names of their properties. -/
def fieldsInOrder (fields : List (String × Option Field)) : List (Option Field) :=
  (sortMembers fields).filterMap fun member => member.2.map some

mutual

/-- The field for a node under a name. -/
def toField (defaults : FormDefaults) (name : String) : Schema → Field
  | .node _
      ⟨_, _, _, _, _, condition, consequent, alternative, properties, items⟩
      constraints annotations =>
    let declared := declaredKindOf constraints properties.isSome items.isSome
    .mk (controlOf defaults name constraints annotations declared)
      (match declared, properties, items with
        | .object, some members, _ =>
          fieldsInOrder (namedFields defaults (constraints.required.getD []) members)
        | .array, _, some schema => [some (toField defaults arrayItemName schema)]
        | _, _, _ => [])
      (match trigger? condition with
        | some (name, value) =>
          some ⟨name, value,
            (match consequent with
              | some (.node _ ⟨_, _, _, _, _, _, _, _, some members, _⟩ constraints _) =>
                fieldsInOrder (namedFields defaults (constraints.required.getD []) members)
              | _ => []),
            (match alternative with
              | some (.node _ ⟨_, _, _, _, _, _, _, _, some members, _⟩ constraints _) =>
                fieldsInOrder (namedFields defaults (constraints.required.getD []) members)
              | _ => [])⟩
        | none => none)
termination_by structural schema => schema

/-- The fields for properties, each under the name of its property; a missing schema gives no
field. -/
def namedFields (defaults : FormDefaults) (required : List String) :
    List (String × Option Schema) → List (String × Option Field)
  | [] => []
  | (name, none) :: rest => (name, none) :: namedFields defaults required rest
  | (name, some schema) :: rest =>
    let field := toField defaults name schema
    (name, some (field.withControl (field.control.requireIf required))) ::
      namedFields defaults required rest
termination_by structural members => members

end

/-- The fields for properties, in ascending order of their names. -/
def toFields (defaults : FormDefaults) (required : List String)
    (members : List (String × Option Schema)) : List (Option Field) :=
  fieldsInOrder (namedFields defaults required members)

/-- The gate for a node, if its condition names a property. -/
def toGate (defaults : FormDefaults) (schema : Schema) : Option (Gate Field) :=
  (schema.toField defaults "").gate

/-- The form for a schema: one field for each property of the root, or a single nameless field
when the root has no properties. -/
def toForm (defaults : FormDefaults) (schema : Schema) : Form where
  title := schema.annotations.title
  description := schema.annotations.description
  method := defaults.method
  fields :=
    match schema.applicators.properties with
    | some members => toFields defaults (schema.constraints.required.getD []) members
    | none => [some (schema.toField defaults "")]

end Schema

end Formwork
