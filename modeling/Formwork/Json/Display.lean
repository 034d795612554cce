/-
This file shows a JSON value inside a message: strings between single quotes,
names of the constants with a capital letter, and brackets as usual. A string that
is the whole value may also be shown without quotes.
-/

import Formwork.Scalar
import Formwork.Text.Quoted

namespace Formwork

namespace Json

mutual

/-- The text of a value inside a message. -/
def displayChars : Json → List Char
  | .null => "None".toList
  | .bool true => "True".toList
  | .bool false => "False".toList
  | .int value => decimalText value
  | .float value => value.text Binary64.displayNames
  | .str text => quoted text.toList
  | .arr [] => ['[', ']']
  | .arr (item :: rest) => '[' :: displayChars item ++ displayItems rest ++ [']']
  | .obj [] => ['\x7b', '\x7d']
  | .obj ((name, value) :: rest) =>
    '\x7b' :: quoted name.toList ++ [':', ' '] ++ displayChars value ++
      displayMembers rest ++ ['\x7d']

/-- The further items of an array. -/
def displayItems : List Json → List Char
  | [] => []
  | item :: rest => ',' :: ' ' :: displayChars item ++ displayItems rest

/-- The further members of an object. -/
def displayMembers : List (String × Json) → List Char
  | [] => []
  | (name, value) :: rest =>
    ',' :: ' ' :: quoted name.toList ++ [':', ' '] ++ displayChars value ++ displayMembers rest

end

/-- The text of a value inside a message. -/
def display (value : Json) : String := String.ofList (displayChars value)

/-- The name of the type of a value inside a message. -/
def typeName : Json → String
  | .null => "NoneType"
  | .bool _ => "bool"
  | .int _ => "int"
  | .float _ => "float"
  | .str _ => "str"
  | .arr _ => "list"
  | .obj _ => "dict"

/-- The text of a value as such: a string stands for itself, without quotes. -/
def shown : Json → String
  | .str text => text
  | value => value.display

end Json

end Formwork
