/-
This file finds the attributes of a record among the members of an object. An
attribute may go by two names; the first one counts if it is there, even with a
null value. Members that name no attribute are ignored.
-/

import Formwork.Decoding.Coercion

namespace Formwork

namespace Decode

variable {ρ β : Type}

/-- The member found under the first of the names that is there, with that name. -/
def find? (names : List String) (members : List (String × ρ)) : Option (String × ρ) :=
  match names with
  | [] => none
  | name :: rest =>
    match lastMember? name members with
    | some value => some (name, value)
    | none => find? rest members

/-- Reads an attribute, or takes the given result when none of its names is there. Issues are
placed at the name that was found. -/
def entry (names : List String) (absent : Decoded β) (decode : ρ → Decoded β)
    (members : List (String × ρ)) : Decoded β :=
  match find? names members with
  | some (name, value) => (decode value).under (.name name)
  | none => absent

/-- An attribute that may be left out or null. -/
def optional (names : List String) (decode : Json → Decoded β)
    (members : List (String × Json)) : Decoded (Option β) :=
  entry names (.ok none) (nullable decode) members

/-- An attribute that may be left out but not null. -/
def withDefault (names : List String) (absent : β) (decode : Json → Decoded β)
    (members : List (String × Json)) : Decoded β :=
  entry names (.ok absent) decode members

/-- An attribute that must be there. The issue shows the first of its names. -/
def required (names : List String) (decode : Json → Decoded β)
    (members : List (String × Json)) : Decoded β :=
  entry names (.failed [⟨names.take 1 |>.map .name, .missing⟩]) decode members

end Decode

end Formwork
