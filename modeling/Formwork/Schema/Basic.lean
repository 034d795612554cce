/-
This file defines schemas: trees of nodes that describe JSON documents. A node
holds the keywords that the conversion to a form understands and those that it
accepts without giving them a meaning. Absent keywords are `none`, or null where
the value itself may be anything.
-/

import Formwork.Scalar
import Formwork.Mapping

namespace Formwork

namespace Schema

/-- The declared type of a node: one type name, or a union of them. -/
inductive TypeNames where
  | single (name : String)
  | union (names : List String)
  deriving DecidableEq, Repr

/-- The keywords that identify a node. -/
structure Identity where
  schemaUri : Option String := none
  id : Option String := none
  reference : Option String := none
  comment : Option String := none
  deriving DecidableEq, Repr

/-- The keywords that hold further nodes. A member of `properties` may be null. -/
structure Applicators (Node : Type) where
  definitions : Option (List (String × Node)) := none
  allOf : Option (List Node) := none
  anyOf : Option (List Node) := none
  oneOf : Option (List Node) := none
  negation : Option Node := none
  condition : Option Node := none
  consequent : Option Node := none
  alternative : Option Node := none
  properties : Option (List (String × Option Node)) := none
  items : Option Node := none

/-- The keywords that restrict a value. A null `const` counts as absent. -/
structure Constraints where
  type : Option TypeNames := none
  format : Option String := none
  enumeration : Option (List Scalar) := none
  const : Scalar := .null
  multipleOf : Option Binary64 := none
  minimum : Option Binary64 := none
  maximum : Option Binary64 := none
  exclusiveMinimum : Option Binary64 := none
  exclusiveMaximum : Option Binary64 := none
  minLength : Option Int := none
  maxLength : Option Int := none
  pattern : Option String := none
  minItems : Option Int := none
  maxItems : Option Int := none
  uniqueItems : Option Bool := none
  required : Option (List String) := none
  deriving DecidableEq

/-- The keywords that describe a value. A null `default` counts as absent. -/
structure Annotations where
  title : Option String := none
  description : Option String := none
  default : Json := .null
  readOnly : Option Bool := none
  deprecated : Option Bool := none

end Schema

/-- A node of a schema. -/
inductive Schema where
  | node (identity : Schema.Identity) (applicators : Schema.Applicators Schema)
      (constraints : Schema.Constraints) (annotations : Schema.Annotations)

namespace Schema

/-- The keywords that identify the node. -/
def identity : Schema → Identity
  | .node identity _ _ _ => identity

/-- The keywords of the node that hold further nodes. -/
def applicators : Schema → Applicators Schema
  | .node _ applicators _ _ => applicators

/-- The keywords that restrict a value of the node. -/
def constraints : Schema → Constraints
  | .node _ _ constraints _ => constraints

/-- The keywords that describe a value of the node. -/
def annotations : Schema → Annotations
  | .node _ _ _ annotations => annotations

/-- The properties of the node in ascending order of their names, none if it has no such
keyword. -/
def properties (schema : Schema) : List (String × Option Schema) :=
  sortMembers (schema.applicators.properties.getD [])

/-- The schema that accepts everything. -/
def empty : Schema := .node {} {} {} {}

instance : Inhabited Schema := ⟨empty⟩

end Schema

end Formwork
