/-
This file writes a schema as a JSON value under the names its keywords have in
documents. Absent keywords are left out at every node. Null members of a mapping
of properties, of an enumeration and inside of a default are values and stay.
-/

import Formwork.Schema.Basic
import Formwork.Json.Members

namespace Formwork

namespace Schema

open Json (member? memberUnlessNull)

/-- The declared type as a JSON value. -/
def TypeNames.toJson : TypeNames → Json
  | .single name => .str name
  | .union names => .arr (names.map .str)

/-- The members for the keywords that identify a node. -/
def Identity.members (identity : Identity) : List (String × Json) :=
  member? "$schema" .str identity.schemaUri ++
  member? "$id" .str identity.id ++
  member? "$ref" .str identity.reference ++
  member? "$comment" .str identity.comment

/-- The members for the keywords that restrict a value. -/
def Constraints.members (constraints : Constraints) : List (String × Json) :=
  member? "type" TypeNames.toJson constraints.type ++
  member? "format" .str constraints.format ++
  member? "enum" (fun values => .arr (values.map Scalar.toJson)) constraints.enumeration ++
  memberUnlessNull "const" constraints.const.toJson ++
  member? "multipleOf" .float constraints.multipleOf ++
  member? "minimum" .float constraints.minimum ++
  member? "maximum" .float constraints.maximum ++
  member? "exclusiveMinimum" .float constraints.exclusiveMinimum ++
  member? "exclusiveMaximum" .float constraints.exclusiveMaximum ++
  member? "minLength" .int constraints.minLength ++
  member? "maxLength" .int constraints.maxLength ++
  member? "pattern" .str constraints.pattern ++
  member? "minItems" .int constraints.minItems ++
  member? "maxItems" .int constraints.maxItems ++
  member? "uniqueItems" .bool constraints.uniqueItems ++
  member? "required" (fun names => .arr (names.map .str)) constraints.required

/-- The members for the keywords that describe a value. -/
def Annotations.members (annotations : Annotations) : List (String × Json) :=
  member? "title" .str annotations.title ++
  member? "description" .str annotations.description ++
  memberUnlessNull "default" annotations.default ++
  member? "readOnly" .bool annotations.readOnly ++
  member? "deprecated" .bool annotations.deprecated

mutual

/-- The schema as a JSON value. -/
def toJson : Schema → Json
  | .node identity applicators constraints annotations =>
    .obj (identity.members ++ applicatorMembers applicators ++ constraints.members ++
      annotations.members)
termination_by structural schema => schema

/-- The members for the keywords that hold further nodes. -/
def applicatorMembers : Applicators Schema → List (String × Json)
  | ⟨definitions, allOf, anyOf, oneOf, negation, condition, consequent, alternative, properties,
      items⟩ =>
    definitionsMember "$defs" definitions ++
      listMember "allOf" allOf ++
      listMember "anyOf" anyOf ++
      listMember "oneOf" oneOf ++
      nodeMember "not" negation ++
      nodeMember "if" condition ++
      nodeMember "then" consequent ++
      nodeMember "else" alternative ++
      propertiesMember "properties" properties ++
      nodeMember "items" items
termination_by structural applicators => applicators

/-- The member for a keyword that holds a node. -/
def nodeMember (name : String) : Option Schema → List (String × Json)
  | some schema => [(name, toJson schema)]
  | none => []
termination_by structural schema => schema

/-- The member for a keyword that holds a list of nodes. -/
def listMember (name : String) : Option (List Schema) → List (String × Json)
  | some schemas => [(name, .arr (listToJson schemas))]
  | none => []
termination_by structural schemas => schemas

/-- The member for a keyword that holds a mapping of nodes. -/
def definitionsMember (name : String) : Option (List (String × Schema)) → List (String × Json)
  | some members => [(name, .obj (definitionsToJson members))]
  | none => []
termination_by structural members => members

/-- The member for a keyword that holds a mapping of nodes that may be missing. -/
def propertiesMember (name : String) :
    Option (List (String × Option Schema)) → List (String × Json)
  | some members => [(name, .obj (propertiesToJson members))]
  | none => []
termination_by structural members => members

/-- The schemas of a list as JSON values. -/
def listToJson : List Schema → List Json
  | [] => []
  | schema :: rest => toJson schema :: listToJson rest
termination_by structural schemas => schemas

/-- The schemas of a mapping as JSON values. -/
def definitionsToJson : List (String × Schema) → List (String × Json)
  | [] => []
  | (name, schema) :: rest => (name, toJson schema) :: definitionsToJson rest
termination_by structural members => members

/-- The schemas of a mapping as JSON values, with null for a missing one. -/
def propertiesToJson : List (String × Option Schema) → List (String × Json)
  | [] => []
  | (name, some schema) :: rest => (name, toJson schema) :: propertiesToJson rest
  | (name, none) :: rest => (name, .null) :: propertiesToJson rest
termination_by structural members => members

end

end Schema

end Formwork
