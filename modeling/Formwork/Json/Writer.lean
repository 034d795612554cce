/-
This file writes JSON values as text, either on one line or with one part on each
line. Only printable ASCII characters are written as themselves: every other
character becomes an escape, in two halves if it lies beyond the basic plane.
-/

import Formwork.Scalar
import Formwork.Text.Quoted

namespace Formwork

namespace Json

/-! ### Strings -/

/-- A code unit as a hexadecimal escape. -/
def escapedUnit (unit : Nat) : List Char := '\\' :: 'u' :: hexDigits 4 unit

/-- One character inside a JSON string. -/
def writeChar (char : Char) : List Char :=
  if char == '"' then ['\\', '"']
  else if char == '\\' then ['\\', '\\']
  else if char == '\n' then ['\\', 'n']
  else if char == '\r' then ['\\', 'r']
  else if char == '\t' then ['\\', 't']
  else if char == '\x08' then ['\\', 'b']
  else if char == '\x0c' then ['\\', 'f']
  else if 32 ≤ char.toNat ∧ char.toNat < 127 then [char]
  else if char.toNat < 0x10000 then escapedUnit char.toNat
  else
    let offset := char.toNat - 0x10000
    escapedUnit (0xD800 + offset / 0x400) ++ escapedUnit (0xDC00 + offset % 0x400)

/-- A JSON string. -/
def writeText (text : String) : List Char := '"' :: text.toList.flatMap writeChar ++ ['"']

/-! ### Values -/

/-- The names of the numbers that JSON has no digits for. -/
def numberNames : Binary64.SpecialNames := ⟨"NaN", "Infinity"⟩

/-- How the parts of arrays and objects are laid out: all on one line, or one on each line behind
a unit of indentation for each level. -/
inductive Layout where
  | line
  | lines (unit : List Char)
  deriving DecidableEq, Repr

namespace Layout

/-- The layout with an indent of some number of blanks; a negative number counts as zero. -/
def ofBlanks (indent : Int) : Layout := .lines (List.replicate indent.toNat ' ')

/-- The layout for an optional number of blanks. -/
def ofIndent : Option Int → Layout
  | none => .line
  | some indent => .ofBlanks indent

/-- The line break before a part at a level. -/
def lineBreak (unit : List Char) (level : Nat) : List Char :=
  '\n' :: (List.replicate level unit).flatten

/-- What stands between the parts of a container at a level. -/
def separator : Layout → Nat → List Char
  | .line, _ => [',', ' ']
  | .lines unit, level => ',' :: lineBreak unit level

/-- What stands at the edge of a container whose parts are at a level. -/
def edge : Layout → Nat → List Char
  | .line, _ => []
  | .lines unit, level => lineBreak unit level

end Layout

mutual

/-- The text of a value whose own parts are at the level after the given one. -/
def writeAt (layout : Layout) (level : Nat) : Json → List Char
  | .null => "null".toList
  | .bool true => "true".toList
  | .bool false => "false".toList
  | .int value => decimalText value
  | .float value => value.text numberNames
  | .str text => writeText text
  | .arr [] => ['[', ']']
  | .arr (item :: rest) =>
    '[' :: layout.edge (level + 1) ++ writeAt layout (level + 1) item ++
      writeItems layout (level + 1) rest ++ layout.edge level ++ [']']
  | .obj [] => ['\x7b', '\x7d']
  | .obj ((name, value) :: rest) =>
    '\x7b' :: layout.edge (level + 1) ++ writeText name ++ [':', ' '] ++
      writeAt layout (level + 1) value ++ writeMembers layout (level + 1) rest ++
      layout.edge level ++ ['\x7d']

/-- The further items of an array, each after a separator. -/
def writeItems (layout : Layout) (level : Nat) : List Json → List Char
  | [] => []
  | item :: rest =>
    layout.separator level ++ writeAt layout level item ++ writeItems layout level rest

/-- The further members of an object, each after a separator. -/
def writeMembers (layout : Layout) (level : Nat) : List (String × Json) → List Char
  | [] => []
  | (name, value) :: rest =>
    layout.separator level ++ writeText name ++ [':', ' '] ++ writeAt layout level value ++
      writeMembers layout level rest

end

/-- The text of a value. Whole numbers are written out however long they are, so that a document may
be written that `Json.read?` does not read: as in `Scalar.display`, a limit on the digits of a
number that is turned into text is left out. -/
def write (layout : Layout) (value : Json) : String := String.ofList (writeAt layout 0 value)

end Json

end Formwork
