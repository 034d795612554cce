/-
This file builds the members of objects from values that may be absent, and finds
them again.
-/

import Formwork.Scalar

namespace Formwork

namespace Json

/-- A member for a value that is there, and none for an absent one. -/
def member? (name : String) (encode : α → Json) : Option α → List (String × Json)
  | some value => [(name, encode value)]
  | none => []

/-- A member for a value other than null. -/
def memberUnlessNull (name : String) : Json → List (String × Json)
  | .null => []
  | value => [(name, value)]

/-- A value, or null for an absent one. -/
def orNull (encode : α → Json) : Option α → Json
  | some value => encode value
  | none => .null

/-- The value of the last member with a name, null if there is none. -/
def valueOrNull (name : String) (members : List (String × Json)) : Json :=
  (lastMember? name members).getD .null

end Json

end Formwork
