/-
This file gives the patterns of a draft a message that is no text. A converted form
cannot hold such a message, but its draft can.
-/

import Formwork.Draft.Encode
import Formwork.Settings

namespace Formwork

namespace Draft

/-- The members of rules with another message for their pattern, if they have one. -/
def withMessage (message : Json) (members : List (String × Json)) : List (String × Json) :=
  match Json.valueOrNull "pattern" members with
  | .null => members
  | _ => putMember "patternError" message members

/-- A value with another message in all its rules, for each content of a slot. -/
def messageIn (message : Json) : Json → Content → Json :=
  Json.fold (fun leaf _ => leaf)
    (fun items content => .arr (items.map fun item =>
      match content with
      | .parts record => item (.part record)
      | _ => item .any))
    (fun members content =>
      match content with
      | .part record =>
        let members := members.map fun (name, value) =>
          (name, value (((record.slotNamed? name).map Slot.content).getD .any))
        .obj (if record = .validation then withMessage message members else members)
      | _ => .obj (members.map fun (name, value) => (name, value .any)))

/-- The draft with another message for every pattern. -/
def withPatternMessage (draft : Draft) (message : Json) : Draft :=
  ⟨messageIn message draft.record (.part .form)⟩

end Draft

namespace Settings

/-- The draft of a converted form, with the message of the settings for its patterns. -/
def draftOf (settings : Settings) (form : Form) : Draft :=
  match settings.patternMessage with
  | .null | .str _ => form.toDraft
  | message => form.toDraft.withPatternMessage message

/-- A converted form in its serialized representation, with the message of the settings for its
patterns. -/
def formJson (settings : Settings) (form : Form) : Json :=
  match settings.patternMessage with
  | .null | .str _ => form.toJson
  | _ => (settings.draftOf form).toJson

end Settings

end Formwork
