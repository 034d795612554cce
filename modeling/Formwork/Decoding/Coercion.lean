/-
This file reads single values leniently: a number may be given as a string, a
truth value as a number or a word, and a whole number as a double without a
fraction. Scalars alone are taken as they are.
-/

import Formwork.Decoding.Decoded
import Formwork.Scalar
import Formwork.Number.Literal

namespace Formwork

namespace Decode

/-! ### Text and numbers -/

/-- A text; nothing else is turned into one. -/
def text : Json → Decoded String
  | .str value => .ok value
  | _ => .mismatch .notText

/-- The number of whole numbers below zero that fit a signed word of 64 bits. -/
def wordBound : Nat := Nat.pow 2 63

/-- The whole number that a double is, if it has no fraction and a moderate size. -/
def wholeFloat (value : Binary64) : Decoded Int :=
  if !value.isFinite then .mismatch .notFinite
  else
    match value.toInt? with
    | none => .mismatch .fractionalInt
    | some whole =>
      if whole.natAbs < wordBound then .ok whole else .mismatch .oversizedInt

/-- A whole number, possibly given as a truth value, a double or a string. -/
def int : Json → Decoded Int
  | .int value => .ok value
  | .bool value => .ok value.toInt
  | .float value => wholeFloat value
  | .str value =>
    match readLenientInt value.toList with
    | .value value => .ok value
    | .unreadable => .mismatch .unreadableInt
    | .oversized => .mismatch .oversizedInt
  | _ => .mismatch .notInt

/-- The double nearest to a whole number. One beyond all doubles is infinite if it was read from
text, and is refused as a decoded value. -/
def floatOfInt (source : Source) (value : Int) : Decoded Binary64 :=
  let float := Binary64.ofInt value
  if source = .value && !float.isFinite then .mismatch .notFloat else .ok float

/-- A double, possibly given as a truth value, a whole number or a string. -/
def float (source : Source) : Json → Decoded Binary64
  | .float value => .ok value
  | .int value => floatOfInt source value
  | .bool value => .ok (Binary64.ofInt value.toInt)
  | .str value =>
    match readLenientFloat? value.toList with
    | some value => .ok value
    | none => .mismatch .unreadableFloat
  | _ => .mismatch .notFloat

/-! ### Truth values -/

/-- The words for true, in lower case. -/
def trueWords : List String := ["1", "on", "t", "true", "y", "yes"]

/-- The words for false, in lower case. -/
def falseWords : List String := ["0", "off", "f", "false", "n", "no"]

/-- The truth value of one or zero. -/
def boolOfInt (value : Int) : Decoded Bool :=
  if value = 1 then .ok true
  else if value = 0 then .ok false
  else .mismatch .unreadableBool

/-- Whether a whole number fits a signed word of 64 bits. -/
def fitsWord (value : Int) : Bool := -(wordBound : Int) ≤ value && value < wordBound

/-- A truth value, possibly given as a word, as one or zero, or as a double of that value. -/
def bool : Json → Decoded Bool
  | .bool value => .ok value
  | .str value =>
    let word := String.ofList (value.toList.map Char.toLower)
    if trueWords.contains word then .ok true
    else if falseWords.contains word then .ok false
    else .mismatch .unreadableBool
  | .int value => if fitsWord value then boolOfInt value else .mismatch .notBool
  | .float value =>
    match wholeFloat value with
    | .ok whole => boolOfInt whole
    | .failed _ => .mismatch .notBool
  | _ => .mismatch .notBool

/-! ### Scalars, lists and absent values -/

/-- A scalar as it is. An array or object fits none of the four types a scalar may have. -/
def scalar (value : Json) : Decoded Scalar :=
  match Scalar.ofJson? value with
  | some scalar => .ok scalar
  | none =>
    .failed [⟨[.name "str"], .notText⟩, ⟨[.name "int"], .notInt⟩,
      ⟨[.name "float"], .notFloat⟩, ⟨[.name "bool"], .notBool⟩]

/-- An array, each of whose items is read in the same way. -/
def list (item : Json → Decoded α) : Json → Decoded (List α)
  | .arr items => .allIndexed (items.map item)
  | _ => .mismatch .notList

/-- A value that may be absent; null stands for an absent one. -/
def nullable (present : Json → Decoded α) : Json → Decoded (Option α)
  | .null => .ok none
  | value => (present value).map some

end Decode

end Formwork
