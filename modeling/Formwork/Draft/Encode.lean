/-
This file writes drafts as JSON values. As with forms the serialized
representation leaves out what is absent, false or empty. A value that does not
have the type of its slot is written as it is, except that numbers without digits
become null.
-/

import Formwork.Draft.Basic
import Formwork.Form.Encode

namespace Formwork

namespace Draft

/-! ### Values without parts -/

/-- A whole number as a double, or as it is if it is beyond all doubles. -/
def measureOfInt (value : Int) : Json :=
  let float := Binary64.ofInt value
  if float.isFinite then .float float else .int value

/-- A value without parts, in a slot that holds some content. -/
def writeLeaf : Json → Content → Json
  | .bool value, .count => .int value.toInt
  | .bool value, .measure => measureOfInt value.toInt
  | .int value, .measure => measureOfInt value
  | .float value, .measure => .float value
  | .float value, .scalar => .float value
  | leaf, _ => finiteLeaf leaf

/-! ### Values with parts -/

/-- A value with its serialized representation for each content of a slot. -/
structure View where
  raw : Json
  write : Content → Json

/-- Whether a slot with a value is left out. -/
def isLeftOut (omission : Omission) (raw written : Json) : Bool :=
  match omission, raw, written with
  | .never, _, _ => false
  | _, .null, _ => true
  | .nullOrFalse, _, .bool false => true
  | .nullOrEmpty, _, .bool false => true
  | .nullOrEmpty, _, .arr [] => true
  | _, _, _ => false

/-- A member of a record, unless it is left out. -/
def writeSlot (record : Record) (name : String) (view : View) : List (String × Json) :=
  match record.slotNamed? name with
  | some slot =>
    let written := view.write slot.content
    if isLeftOut slot.omission view.raw written then [] else [(name, written)]
  | none => []

namespace View

/-- The view of a value without parts. -/
def ofLeaf (value : Json) : View := ⟨value, writeLeaf value⟩

/-- The view of an array. -/
def ofItems (items : List View) : View where
  raw := .arr (items.map View.raw)
  write
    | .parts record => .arr (items.map fun item => item.write (.part record))
    | _ => .arr (items.map fun item => item.write .any)

/-- The view of an object. -/
def ofMembers (members : List (String × View)) : View where
  raw := .obj (members.map fun member => (member.1, member.2.raw))
  write
    | .part record => .obj (members.flatMap fun member => writeSlot record member.1 member.2)
    | _ => .obj (members.map fun member => (member.1, member.2.write .any))

/-- The view of a value. -/
def ofJson : Json → View := Json.fold ofLeaf ofItems ofMembers

end View

/-- A draft in its serialized representation. -/
def toJson (draft : Draft) : Json := (View.ofJson draft.record).write (.part .form)

/-- A draft as JSON text, on one line or indented. -/
def write (draft : Draft) (indent : Option Int) : String :=
  draft.toJson.write (.ofIndent indent)

end Draft

end Formwork
