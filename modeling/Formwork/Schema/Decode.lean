/-
This file reads a schema from a JSON value. The value is read from the inside
out: each part is read in every role that it can play in a schema, and a node
then picks the roles its keywords need. A keyword is looked up by its name in the
document and after that by a plain spelling.
-/

import Formwork.Schema.Basic
import Formwork.Decoding.Attribute

namespace Formwork

namespace Schema

/-! ### Single keywords -/

/-- The declared type: a name or a list of names. A value that is neither is refused in both
roles. -/
def decodeTypeNames : Json → Decoded TypeNames
  | .str name => .ok (.single name)
  | value =>
    match (Decode.list Decode.text value).under (.name "list[str]") with
    | .ok names => .ok (.union names)
    | .failed issues => .failed (⟨[.name "str"], .notText⟩ :: issues)

open Decode in
/-- Reads the keywords that identify a node. -/
def Identity.decode (members : List (String × Json)) : Decoded Identity :=
  Identity.mk
    <$> optional ["$schema", "schema_uri"] text members
    <*> optional ["$id", "id"] text members
    <*> optional ["$ref", "ref"] text members
    <*> optional ["$comment", "comment"] text members

open Decode in
/-- Reads the keywords that restrict a value. -/
def Constraints.decode (source : Source) (members : List (String × Json)) :
    Decoded Constraints :=
  Constraints.mk
    <$> optional ["type"] decodeTypeNames members
    <*> optional ["format"] text members
    <*> optional ["enum"] (list scalar) members
    <*> withDefault ["const"] .null scalar members
    <*> optional ["multipleOf", "multiple_of"] (float source) members
    <*> optional ["minimum"] (float source) members
    <*> optional ["maximum"] (float source) members
    <*> optional ["exclusiveMinimum", "exclusive_minimum"] (float source) members
    <*> optional ["exclusiveMaximum", "exclusive_maximum"] (float source) members
    <*> optional ["minLength", "min_length"] int members
    <*> optional ["maxLength", "max_length"] int members
    <*> optional ["pattern"] text members
    <*> optional ["minItems", "min_items"] int members
    <*> optional ["maxItems", "max_items"] int members
    <*> optional ["uniqueItems", "unique_items"] bool members
    <*> optional ["required"] (list text) members

open Decode in
/-- Reads the keywords that describe a value. -/
def Annotations.decode (members : List (String × Json)) : Decoded Annotations :=
  Annotations.mk
    <$> optional ["title"] text members
    <*> optional ["description"] text members
    <*> withDefault ["default"] .null .ok members
    <*> optional ["readOnly", "read_only"] bool members
    <*> optional ["deprecated"] bool members

/-! ### Values in all their roles -/

/-- What a JSON value is in each role that it can play in a schema. -/
structure Reading where
  raw : Json
  node : Decoded Schema
  nodes : Decoded (List Schema)
  definitions : Decoded (List (String × Schema))
  properties : Decoded (List (String × Option Schema))

namespace Reading

/-- A value as a node that may be null. -/
def node? (reading : Reading) : Decoded (Option Schema) :=
  match reading.raw with
  | .null => .ok none
  | _ => reading.node.map some

/-- A value in a role, or null. -/
def orNull (role : Reading → Decoded α) (reading : Reading) : Decoded (Option α) :=
  match reading.raw with
  | .null => .ok none
  | _ => (role reading).map some

end Reading

/-- Reads the keywords that hold further nodes. -/
def Applicators.decode (members : List (String × Reading)) : Decoded (Applicators Schema) :=
  Applicators.mk
    <$> Decode.entry ["$defs", "defs"] (.ok none) (Reading.orNull Reading.definitions) members
    <*> Decode.entry ["allOf", "all_of"] (.ok none) (Reading.orNull Reading.nodes) members
    <*> Decode.entry ["anyOf", "any_of"] (.ok none) (Reading.orNull Reading.nodes) members
    <*> Decode.entry ["oneOf", "one_of"] (.ok none) (Reading.orNull Reading.nodes) members
    <*> Decode.entry ["not", "not_"] (.ok none) Reading.node? members
    <*> Decode.entry ["if", "if_"] (.ok none) Reading.node? members
    <*> Decode.entry ["then"] (.ok none) Reading.node? members
    <*> Decode.entry ["else", "else_"] (.ok none) Reading.node? members
    <*> Decode.entry ["properties"] (.ok none) (Reading.orNull Reading.properties) members
    <*> Decode.entry ["items"] (.ok none) Reading.node? members

/-- Reads a node from the members of an object. -/
def ofMembers (source : Source) (members : List (String × Reading)) : Decoded Schema :=
  let raw := members.map fun member => (member.1, member.2.raw)
  Schema.node
    <$> Identity.decode raw
    <*> Applicators.decode members
    <*> Constraints.decode source raw
    <*> Annotations.decode raw

namespace Reading

/-- The roles of a value without parts. -/
def ofLeaf (value : Json) : Reading where
  raw := value
  node := .mismatch (.notRecord .schema)
  nodes := .mismatch .notList
  definitions := .mismatch .notMapping
  properties := .mismatch .notMapping

/-- The roles of an array. -/
def ofItems (items : List Reading) : Reading where
  raw := .arr (items.map Reading.raw)
  node := .mismatch (.notRecord .schema)
  nodes := .allIndexed (items.map Reading.node)
  definitions := .mismatch .notMapping
  properties := .mismatch .notMapping

/-- The roles of an object. A mapping reads all members, also those that a later member of the
same name replaces. -/
def ofObject (source : Source) (members : List (String × Reading)) : Reading where
  raw := .obj (collapseMembers (members.map fun member => (member.1, member.2.raw)))
  node := ofMembers source members
  nodes := .mismatch .notList
  definitions :=
    (Decoded.allNamed (members.map fun member => (member.1, member.2.node))).map sortMembers
  properties :=
    (Decoded.allNamed (members.map fun member => (member.1, member.2.node?))).map sortMembers

/-- The roles of a value. -/
def ofJson (source : Source) : Json → Reading := Json.fold ofLeaf ofItems (ofObject source)

end Reading

/-- Reads a schema from a JSON value. -/
def decode (source : Source) (value : Json) : Decoded Schema :=
  (Reading.ofJson source value).node

end Schema

end Formwork
