/-
This file reads JSON values from tokens. The reader keeps the arrays and objects
it is inside of as a stack and knows at each point which tokens may follow. The
length of the stack is the depth of nesting, which has a limit; an empty array or
object is never on the stack.
-/

import Formwork.Json.Token

namespace Formwork

namespace Json

/-- An array or object that is still open; its finished parts are kept latest first. -/
inductive Frame where
  | array (items : List Json)
  | object (members : List (String × Json)) (name : String)

/-- What may come next, inside of the open frames. -/
inductive Expecting where
  | value (stack : List Frame)
  | firstItem (stack : List Frame)
  | afterItem (items : List Json) (stack : List Frame)
  | firstName (stack : List Frame)
  | name (members : List (String × Json)) (stack : List Frame)
  | colon (members : List (String × Json)) (name : String) (stack : List Frame)
  | afterMember (members : List (String × Json)) (stack : List Frame)
  | nothing (root : Json)

/-- Puts a finished value into the innermost open frame. -/
def place (value : Json) : List Frame → Expecting
  | [] => .nothing value
  | .array items :: stack => .afterItem (value :: items) stack
  | .object members name :: stack => .afterMember ((name, value) :: members) stack

/-- Begins a value with its first token. -/
def beginValue? (stack : List Frame) : Token → Option Expecting
  | .scalar value => some (place value.toJson stack)
  | .openArray => some (.firstItem stack)
  | .openObject => some (.firstName stack)
  | _ => none

/-- Takes one more token. A container takes a place on the stack with its first part only, and
at most `limit` containers may be on it. -/
def advance? (limit : Nat) : Expecting → Token → Option Expecting
  | .value stack, token => beginValue? stack token
  | .firstItem stack, token =>
    if token = .closeArray then some (place (.arr []) stack)
    else if stack.length < limit then beginValue? (.array [] :: stack) token
    else none
  | .afterItem items stack, .comma => some (.value (.array items :: stack))
  | .afterItem items stack, .closeArray => some (place (.arr items.reverse) stack)
  | .firstName stack, .closeObject => some (place (.obj []) stack)
  | .firstName stack, .scalar (.text name) =>
    if stack.length < limit then some (.colon [] name stack) else none
  | .name members stack, .scalar (.text name) => some (.colon members name stack)
  | .colon members name stack, .colon => some (.value (.object members name :: stack))
  | .afterMember members stack, .comma => some (.name members stack)
  | .afterMember members stack, .closeObject => some (place (.obj members.reverse) stack)
  | _, _ => none

/-- The value that a list of tokens denotes, with at most `limit` containers that hold something
inside of each other. -/
def ofTokens? (limit : Nat) (tokens : List Token) : Option Json :=
  match tokens.foldlM (advance? limit) (.value []) with
  | some (.nothing root) => some root
  | _ => none

/-- Reads a text that is one JSON value. -/
def read? (limit : Nat) (text : String) : Option Json :=
  match Token.scan? text.toList with
  | some tokens => ofTokens? limit tokens
  | none => none

end Json

end Formwork
