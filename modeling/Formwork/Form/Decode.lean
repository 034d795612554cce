/-
This file reads a form from a JSON value. As with schemas the value is read from
the inside out, each part in every role that it can play in a form: as a field,
as a list of fields, and as a gate.
-/

import Formwork.Form.Basic
import Formwork.Decoding.Attribute

namespace Formwork

open Decode in
/-- Reads an option from the members of an object. -/
def FieldOption.ofMembers (members : List (String × Json)) : Decoded FieldOption :=
  FieldOption.mk
    <$> required ["label"] text members
    <*> withDefault ["value"] .null scalar members

/-- Reads an option. -/
def FieldOption.decode : Json → Decoded FieldOption
  | .obj members => ofMembers members
  | _ => .mismatch (.notRecord .option)

open Decode in
/-- Reads rules from the members of an object. -/
def Validation.ofMembers (source : Source) (members : List (String × Json)) :
    Decoded Validation :=
  Validation.mk
    <$> withDefault ["required"] false bool members
    <*> optional ["minLength", "min_length"] int members
    <*> optional ["maxLength", "max_length"] int members
    <*> optional ["min", "minimum"] (float source) members
    <*> optional ["max", "maximum"] (float source) members
    <*> optional ["pattern"] text members
    <*> optional ["patternError", "pattern_error"] text members
    <*> optional ["step"] (float source) members
    <*> optional ["minItems", "min_items"] int members
    <*> optional ["maxItems", "max_items"] int members

/-- Reads rules. -/
def Validation.decode (source : Source) : Json → Decoded Validation
  | .obj members => ofMembers source members
  | _ => .mismatch (.notRecord .validation)

namespace Field

/-! ### Values in all their roles -/

/-- What a JSON value is in each role that it can play in a form. -/
structure Reading where
  raw : Json
  field : Decoded Field
  fields : Decoded (List (Option Field))
  gate : Decoded (Gate Field)

/-- A value as a gate, or null. -/
def Reading.gate? (reading : Reading) : Decoded (Option (Gate Field)) :=
  match reading.raw with
  | .null => .ok none
  | _ => reading.gate.map some

open Decode in
/-- Reads a gate from the members of an object. -/
def gateOfMembers (members : List (String × Reading)) : Decoded (Gate Field) :=
  let raw := members.map fun member => (member.1, member.2.raw)
  Gate.mk
    <$> required ["condition"] text raw
    <*> withDefault ["value"] .null scalar raw
    <*> entry ["then"] (.ok []) Reading.fields members
    <*> entry ["else", "else_"] (.ok []) Reading.fields members

open Decode in
/-- Reads a field from the members of an object. The text that helps to fill in the field comes
last, after the nested fields. -/
def ofMembers (source : Source) (members : List (String × Reading)) : Decoded Field :=
  let raw := members.map fun member => (member.1, member.2.raw)
  (fun (makeControl : Option String → Control) children gate helpText =>
      Field.mk (makeControl helpText) children gate)
    <$> (Control.mk
      <$> withDefault ["name"] "" text raw
      <*> required ["type", "kind"] text raw
      <*> optional ["label"] text raw
      <*> optional ["description"] text raw
      <*> optional ["placeholder"] text raw
      <*> withDefault ["default"] .null .ok raw
      <*> withDefault ["value"] .null scalar raw
      <*> withDefault ["options"] [] (list FieldOption.decode) raw
      <*> optional ["validation"] (Validation.decode source) raw
      <*> withDefault ["readOnly", "read_only"] false bool raw
      <*> withDefault ["deprecated"] false bool raw)
    <*> entry ["fields"] (.ok []) Reading.fields members
    <*> entry ["conditional"] (.ok none) Reading.gate? members
    <*> optional ["helpText", "help_text"] text raw

namespace Reading

/-- The roles of a value without parts. -/
def ofLeaf (value : Json) : Reading where
  raw := value
  field := .mismatch (.notRecord .field)
  fields := .mismatch .notList
  gate := .mismatch (.notRecord .gate)

/-- The roles of an array. -/
def ofItems (items : List Reading) : Reading where
  raw := .arr (items.map Reading.raw)
  field := .mismatch (.notRecord .field)
  fields := .allIndexed (items.map fun item => item.field.map some)
  gate := .mismatch (.notRecord .gate)

/-- The roles of an object. -/
def ofObject (source : Source) (members : List (String × Reading)) : Reading where
  raw := .obj (collapseMembers (members.map fun member => (member.1, member.2.raw)))
  field := ofMembers source members
  fields := .mismatch .notList
  gate := gateOfMembers members

/-- The roles of a value. -/
def ofJson (source : Source) : Json → Reading := Json.fold ofLeaf ofItems (ofObject source)

end Reading

/-- Reads a field from a JSON value. -/
def decode (source : Source) (value : Json) : Decoded Field :=
  (Reading.ofJson source value).field

/-- Reads a list of fields from a JSON value. -/
def decodeList (source : Source) (value : Json) : Decoded (List (Option Field)) :=
  (Reading.ofJson source value).fields

/-- Reads a gate from a JSON value. -/
def decodeGate (source : Source) (value : Json) : Decoded (Gate Field) :=
  (Reading.ofJson source value).gate

end Field

open Decode in
/-- Reads a form from a JSON value. -/
def Form.decode (source : Source) : Json → Decoded Form
  | .obj members =>
    Form.mk
      <$> optional ["title"] text members
      <*> optional ["description"] text members
      <*> optional ["action"] text members
      <*> optional ["method"] text members
      <*> entry ["fields"] (.ok []) (Field.decodeList source) members
  | _ => .mismatch (.notRecord .form)

end Formwork
