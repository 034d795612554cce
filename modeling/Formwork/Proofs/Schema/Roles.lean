/-
This file lists the roles that the parts of a schema document play: which keywords hold
further nodes, lists or mappings of nodes, numbers that are read as doubles, the names
that are required, or a default. Every other keyword has a plain value.
-/

import Formwork.Proofs.Decoding.Grammar
import Formwork.Schema.Decode

namespace Formwork

namespace Schema

/-- The roles of the parts of a schema document. -/
inductive Role where
  | node
  | nodes
  | mapping
  | number
  | names
  | default
  | plain
  deriving DecidableEq

/-- The keywords whose values are not plain, under the names they go by. -/
def keywordRoles : List (List String × Role) := [
  (["$defs", "defs"], .mapping),
  (["allOf", "all_of"], .nodes),
  (["anyOf", "any_of"], .nodes),
  (["oneOf", "one_of"], .nodes),
  (["not", "not_"], .node),
  (["if", "if_"], .node),
  (["then"], .node),
  (["else", "else_"], .node),
  (["properties"], .mapping),
  (["items"], .node),
  (["multipleOf", "multiple_of"], .number),
  (["minimum"], .number),
  (["maximum"], .number),
  (["exclusiveMinimum", "exclusive_minimum"], .number),
  (["exclusiveMaximum", "exclusive_maximum"], .number),
  (["required"], .names),
  (["default"], .default)]

/-- The role of the value of a keyword. -/
def keywordRole (name : String) : Role :=
  ((keywordRoles.find? fun group => group.1.contains name).map Prod.snd).getD .plain

theorem keywordRole_eq {names : List String} {role : Role} {name : String}
    (listed : (names, role) ∈ keywordRoles) (member : name ∈ names) : keywordRole name = role := by
  have each : ∀ group ∈ keywordRoles, ∀ name ∈ group.1, keywordRole name = group.2 := by decide
  exact each _ listed name member

/-- The role of the member of a name of an object in some role. -/
def Role.ofMember : Role → String → Role
  | .node, name => keywordRole name
  | .mapping, _ => .node
  | .default, _ => .default
  | _, _ => .plain

/-- The role of the items of an array in some role. -/
def Role.ofItem : Role → Role
  | .nodes => .node
  | .default => .default
  | _ => .plain

/-- The grammar of schema documents. -/
def grammar : Grammar Role where
  attributes
    | .node => keywordRoles
    | _ => []
  entries
    | .mapping => some .node
    | _ => none
  items
    | .nodes => some .node
    | _ => none
  number := .number

end Schema

end Formwork
