/-
This file finds the outline of a draft, by which it is checked. A value that
counts as false stands for an absent name, method or condition, and other values
are looked at by their texts.
-/

import Formwork.Check.Walk
import Formwork.Draft.Basic

namespace Formwork

open Json (valueOrNull)

namespace Draft

/-! ### Single slots -/

/-- The text of a value, empty if the value counts as false. -/
def textOrEmpty (value : Json) : String := if value.isTruthy then value.shown else ""

/-- A value as a scalar; an array or object counts as its text. -/
def scalarOf (value : Json) : Scalar := (Scalar.ofJson? value).getD (.text value.display)

/-- A bound, none for null. -/
def boundOf : Json → Option Scalar
  | .null => none
  | value => some (scalarOf value)

/-- The bounds among rules, none for missing rules. -/
def boundsOf : Json → Bounds
  | .obj members => {
    minLength := boundOf (valueOrNull "minLength" members)
    maxLength := boundOf (valueOrNull "maxLength" members)
    minimum := boundOf (valueOrNull "min" members)
    maximum := boundOf (valueOrNull "max" members)
    step := boundOf (valueOrNull "step" members)
    minItems := boundOf (valueOrNull "minItems" members)
    maxItems := boundOf (valueOrNull "maxItems" members) }
  | _ => {}

/-- The text by which an option is told apart. -/
def optionText : Json → String
  | .obj members => (scalarOf (valueOrNull "value" members)).display
  | _ => ""

/-- The texts by which options are told apart. -/
def optionTexts : Json → List String
  | .arr options => options.map optionText
  | _ => []

/-- The facts of a field. -/
def factsOf (members : List (String × Json)) : Facts where
  name := textOrEmpty (valueOrNull "name" members)
  kind := (valueOrNull "type" members).shown
  optionTexts := optionTexts (valueOrNull "options" members)
  bounds := boundsOf (valueOrNull "validation" members)

/-! ### Values in all their roles -/

/-- What a value is in each role that it can play in a draft. -/
structure Reading where
  raw : Json
  field : Option Outline := none
  fields : List (Option Outline) := []
  gate : Option (GateOutline Outline) := none

namespace Reading

/-- The reading under a name, the one of null if there is none. -/
def member (name : String) (members : List (String × Reading)) : Reading :=
  (lastMember? name members).getD { raw := .null }

/-- The roles of an array. -/
def ofItems (items : List Reading) : Reading where
  raw := .arr (items.map Reading.raw)
  fields := items.map Reading.field

/-- The roles of an object. -/
def ofMembers (members : List (String × Reading)) : Reading :=
  let raw := members.map fun entry => (entry.1, entry.2.raw)
  { raw := .obj raw
    field := some (.mk (factsOf raw) (member "fields" members).fields
      (member "conditional" members).gate)
    gate := some {
      condition := scalarOf (valueOrNull "condition" raw)
      consequent := (member "then" members).fields
      alternative := (member "else" members).fields } }

/-- The roles of a value. -/
def ofJson : Json → Reading := Json.fold (fun leaf => { raw := leaf }) ofItems ofMembers

end Reading

/-- The outline of a draft. -/
def outline (draft : Draft) : FormOutline :=
  match draft.record with
  | .obj members => {
    method := textOrEmpty (valueOrNull "method" members)
    fields := (Reading.ofJson (valueOrNull "fields" members)).fields }
  | _ => {}

/-- The first complaint about a draft that may be missing. -/
def complaint? (draft : Option Draft) : Option Complaint :=
  FormOutline.complaint? (draft.map outline)

end Draft

end Formwork
