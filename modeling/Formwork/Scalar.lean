/-
This file defines scalars: the opaque values of options, of fixed fields and of
the triggers of conditions. A scalar keeps its type, so that the number one, the
double one and the truth value are three scalars, and is shown to a person by
`Scalar.display`.
-/

import Formwork.Json.Basic
import Formwork.Number.Shortest

namespace Formwork

/-- A value that is neither an array nor an object; null stands for no value. -/
inductive Scalar where
  | null
  | bool (value : Bool)
  | int (value : Int)
  | float (value : Binary64)
  | text (value : String)
  deriving DecidableEq

namespace Scalar

instance : Inhabited Scalar := ⟨.null⟩

/-- The scalar as a JSON value. -/
def toJson : Scalar → Json
  | .null => .null
  | .bool value => .bool value
  | .int value => .int value
  | .float value => .float value
  | .text value => .str value

/-- The scalar that a JSON value is, if it is one. -/
def ofJson? : Json → Option Scalar
  | .null => some .null
  | .bool value => some (.bool value)
  | .int value => some (.int value)
  | .float value => some (.float value)
  | .str value => some (.text value)
  | .arr _ => none
  | .obj _ => none

/-- The bound below which a whole double is shown as a whole number. -/
def wholeDisplayBound : Nat := Nat.pow 10 21

/-- The text of a double for a person: whole numbers below `10 ^ 21` without a point. -/
def displayFloat (value : Binary64) : List Char :=
  match value.toInt? with
  | some whole =>
    if whole.natAbs < wholeDisplayBound then decimalText whole
    else value.text Binary64.displayNames
  | none => value.text Binary64.displayNames

/-- The text of a scalar for a person. Options are told apart by this text. A whole number is
written out however long it is: a limit on the digits of a number that is turned into text, which
an interpreter may set as it does for the numbers of `Settings`, is left out here. -/
def display : Scalar → String
  | .null => "null"
  | .bool true => "true"
  | .bool false => "false"
  | .int value => String.ofList (decimalText value)
  | .float value => String.ofList (displayFloat value)
  | .text value => value

end Scalar

end Formwork
