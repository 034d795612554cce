/-
This file orders scalars: numbers by their exact values, whatever their types, and
texts by their characters. A truth value counts as one or zero, and scalars that
are not comparable are not below each other.
-/

import Formwork.Scalar
import Formwork.Text.Order

namespace Formwork

namespace Scalar

/-- The whole number that a scalar counts as, if it is one. -/
def wholeNumber? : Scalar → Option Int
  | .int value => some value
  | .bool value => some value.toInt
  | _ => none

/-- Whether a scalar is below another one. -/
def less (low high : Scalar) : Bool :=
  match low, high with
  | .text low, .text high => precedes low high
  | .float low, .float high => low.less high
  | .float low, high => high.wholeNumber?.any low.lessInt
  | low, .float high => low.wholeNumber?.any fun low => Binary64.intLess low high
  | low, high =>
    match low.wholeNumber?, high.wholeNumber? with
    | some low, some high => low < high
    | _, _ => false

/-- Whether a scalar is below another one or a number of the same value. -/
def atMost (low high : Scalar) : Bool := low.less high || low.toJson.sameNumber high.toJson

end Scalar

end Formwork
