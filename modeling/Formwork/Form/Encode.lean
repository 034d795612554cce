/-
This file writes forms as JSON values. The serialized representation leaves out
what is absent, false or empty, so that reading it back restores every attribute
by its default. What a default of a field holds is copied as it is, except that
numbers without digits become null.
-/

import Formwork.Form.Basic
import Formwork.Json.Members
import Formwork.Json.Writer

namespace Formwork

open Json (member? memberUnlessNull orNull)

/-! ### Defaults -/

/-- A leaf of a default: an infinity or not-a-number becomes null. -/
def finiteLeaf : Json → Json
  | .float value => if value.isFinite then .float value else .null
  | leaf => leaf

/-- A default with null in place of every number without digits. -/
def Json.finiteOnly : Json → Json := Json.fold finiteLeaf .arr .obj

/-! ### Options and rules -/

/-- An option, always with label and value. -/
def FieldOption.toJson (option : FieldOption) : Json :=
  .obj [("label", .str option.label), ("value", option.value.toJson)]

/-- The rules that are set. A false `required` is left out, and a block without rules stays. -/
def Validation.toJson (validation : Validation) : Json :=
  .obj ((if validation.required then [("required", .bool true)] else []) ++
    member? "minLength" .int validation.minLength ++
    member? "maxLength" .int validation.maxLength ++
    member? "min" .float validation.minimum ++
    member? "max" .float validation.maximum ++
    member? "pattern" .str validation.pattern ++
    member? "patternError" .str validation.patternError ++
    member? "step" .float validation.step ++
    member? "minItems" .int validation.minItems ++
    member? "maxItems" .int validation.maxItems)

/-! ### Fields -/

/-- A list as a member, left out when empty. -/
def listMember (name : String) (items : List Json) : List (String × Json) :=
  if items.isEmpty then [] else [(name, .arr items)]

/-- A flag as a member, left out when false. -/
def flagMember (name : String) (flag : Bool) : List (String × Json) :=
  if flag then [(name, .bool true)] else []

/-- The default as a member, left out when absent. -/
def defaultMember : Json → List (String × Json)
  | .null => []
  | value => [("default", value.finiteOnly)]

/-- The members of a field up to its nested fields. -/
def Control.members (control : Control) : List (String × Json) :=
  [("name", .str control.name), ("type", .str control.kind)] ++
  member? "label" .str control.label ++
  member? "description" .str control.description ++
  member? "placeholder" .str control.placeholder ++
  defaultMember control.default ++
  memberUnlessNull "value" control.value.toJson ++
  listMember "options" (control.options.map FieldOption.toJson) ++
  member? "validation" Validation.toJson control.validation ++
  flagMember "readOnly" control.readOnly ++
  flagMember "deprecated" control.deprecated

namespace Field

mutual

/-- A field in its serialized representation. -/
def toJson : Field → Json
  | .mk control children gate =>
    .obj (control.members ++ listMember "fields" (listToJson children) ++
      (match gate with
        | some ⟨condition, trigger, consequent, alternative⟩ =>
          [("conditional", .obj ([("condition", .str condition)] ++
            memberUnlessNull "value" trigger.toJson ++
            listMember "then" (listToJson consequent) ++
            listMember "else" (listToJson alternative)))]
        | none => []) ++
      member? "helpText" .str control.helpText)
termination_by structural field => field

/-- The fields of a list, with null for a missing one. -/
def listToJson : List (Option Field) → List Json
  | [] => []
  | some field :: rest => toJson field :: listToJson rest
  | none :: rest => .null :: listToJson rest
termination_by structural fields => fields

end

end Field

namespace Form

/-- A form in its serialized representation. Its list of fields is there even when empty. -/
def toJson (form : Form) : Json :=
  .obj (member? "title" .str form.title ++
    member? "description" .str form.description ++
    member? "action" .str form.action ++
    member? "method" .str form.method ++
    [("fields", .arr (Field.listToJson form.fields))])

/-- A form as JSON text, on one line or indented. -/
def write (form : Form) (indent : Option Int) : String :=
  form.toJson.write (.ofIndent indent)

end Form

end Formwork
