/-
This file fills templates: text in which a percent sign begins a place for a named
value. A place has a key between brackets, flags, a least width, a precision, and
a letter that says how the value is written; two percent signs stand for one. A
template is read one character at a time, and the first place that cannot be
filled refuses it. The first place of all may do without a key and then shows all
the values.
-/

import Formwork.Json.Display

namespace Formwork

namespace Template

/-! ### Places -/

/-- Why a template cannot be filled. -/
inductive Failure where
  | incomplete
  | incompleteKey
  | missingKey (key : String)
  | unknownLetter (letter : Char) (position : Nat)
  | noValue
  | starWidth
  | hugeWidth
  | hugePrecision
  | notNumber (letter : Char) (typeName : String)
  | notWhole (letter : Char) (typeName : String)
  | notChar
  deriving DecidableEq, Repr

/-- The message for a template that cannot be filled. -/
def Failure.message : Failure → String
  | .incomplete => "incomplete format"
  | .incompleteKey => "incomplete format key"
  | .missingKey key => String.ofList (quoted key.toList)
  | .unknownLetter letter position =>
    let shown := if 31 ≤ letter.toNat ∧ letter.toNat ≤ 126 then letter else '?'
    "unsupported format character '" ++ String.ofList [shown] ++ "' (0x" ++
      String.ofList (hexDigits 1 letter.toNat) ++ ") at index " ++
      String.ofList (decimalText position)
  | .noValue => "not enough arguments for format string"
  | .starWidth => "* wants int"
  | .hugeWidth => "width too big"
  | .hugePrecision => "precision too big"
  | .notNumber letter typeName =>
    "%" ++ String.ofList [letter] ++ " format: a real number is required, not " ++ typeName
  | .notWhole letter typeName =>
    "%" ++ String.ofList [letter] ++ " format: an integer is required, not " ++ typeName
  | .notChar => "%c requires int or char"

/-- How a value is laid out in its place. -/
structure Style where
  isLeft : Bool := false
  hasSign : Bool := false
  hasBlank : Bool := false
  isAlternate : Bool := false
  isZeroFilled : Bool := false
  width : Nat := 0
  precision : Option Nat := none
  deriving DecidableEq, Repr

namespace Style

/-- The style with a flag set, if the character is one. -/
def withFlag? (style : Style) : Char → Option Style
  | '-' => some { style with isLeft := true }
  | '+' => some { style with hasSign := true }
  | ' ' => some { style with hasBlank := true }
  | '#' => some { style with isAlternate := true }
  | '0' => some { style with isZeroFilled := true }
  | _ => none

/-- A text filled up with blanks to the width. -/
def pad (style : Style) (text : List Char) : List Char :=
  let blanks := List.replicate (style.width - text.length) ' '
  if style.isLeft then text ++ blanks else blanks ++ text

/-- A text cut to the precision and filled up to the width. -/
def padText (style : Style) (text : List Char) : List Char :=
  style.pad (match style.precision with
    | some length => text.take length
    | none => text)

/-- A number with its sign and lead in front of its digits. The precision is the least number of
digits, and zeros may fill the width between the lead and the digits. -/
def padNumber (style : Style) (negative : Bool) (lead digits : List Char) : List Char :=
  let sign :=
    if negative then ['-'] else if style.hasSign then ['+'] else if style.hasBlank then [' ']
    else []
  let digits := List.replicate (style.precision.getD 0 - digits.length) '0' ++ digits
  let width := if style.isZeroFilled && !style.isLeft then style.width else 0
  let zeros := List.replicate (width - (sign ++ lead ++ digits).length) '0'
  style.pad (sign ++ lead ++ zeros ++ digits)

end Style

/-! ### Values -/

/-- A text with escapes in place of all characters beyond ASCII. -/
def asciiOnly (text : List Char) : List Char :=
  text.flatMap fun char =>
    if char.toNat < 0x80 then [char]
    else if char.toNat < 0x100 then '\\' :: 'x' :: hexDigits 2 char.toNat
    else if char.toNat < 0x10000 then '\\' :: 'u' :: hexDigits 4 char.toNat
    else '\\' :: 'U' :: hexDigits 8 char.toNat

/-- The whole number that a value counts as, if it is one. -/
def wholeNumber? : Json → Option Int
  | .int value => some value
  | .bool value => some value.toInt
  | _ => none

/-- A whole number in another base, with a lead that names the base if the style asks for it. -/
def writeBased (style : Style) (base : Nat) (lead : List Char) (value : Int) : List Char :=
  style.padNumber (value < 0) (if style.isAlternate then lead else [])
    (Nat.toDigits base value.natAbs)

/-- Writes a value as a letter asks. The position is the one of the letter. -/
def write (style : Style) (letter : Char) (position : Nat) (value : Json) :
    Except Failure (List Char) :=
  let whole (otherwise : Failure) (text : Int → List Char) : Except Failure (List Char) :=
    match wholeNumber? value with
    | some number => .ok (text number)
    | none => .error otherwise
  match letter with
  | 's' => .ok (style.padText value.shown.toList)
  | 'r' => .ok (style.padText value.displayChars)
  | 'a' => .ok (style.padText (asciiOnly value.displayChars))
  | 'd' | 'i' | 'u' =>
    whole (.notNumber letter value.typeName) fun number =>
      style.padNumber (number < 0) [] (Nat.toDigits 10 number.natAbs)
  | 'o' => whole (.notWhole letter value.typeName) (writeBased style 8 ['0', 'o'])
  | 'x' => whole (.notWhole letter value.typeName) (writeBased style 16 ['0', 'x'])
  | 'X' =>
    whole (.notWhole letter value.typeName) fun number =>
      (writeBased style 16 ['0', 'x'] number).map Char.toUpper
  | 'c' =>
    match value with
    | .str text =>
      match text.toList with
      | [char] => .ok (style.pad [char])
      | _ => .error .notChar
    | _ => whole .notChar fun number => style.pad [Char.ofNat number.toNat]
  | _ => .error (.unknownLetter letter position)

/-! ### Filling -/

/-- How far a place has been read. -/
inductive Stage where
  | flags
  | width
  | point
  | precision
  | size
  deriving DecidableEq, Repr

/-- What has been begun: text, a place, its key with the brackets that are open inside of it, or
the rest of a place with its value. -/
inductive Progress where
  | text
  | opened
  | key (depth : Nat) (reversed : List Char)
  | place (stage : Stage) (style : Style) (value : Option Json)

/-- What has been begun, the number of characters read, the value of a place without a key, and
the filled text, latest first. -/
structure State where
  progress : Progress := .text
  position : Nat := 0
  keyless : Option Json
  filled : List Char := []

/-- The greatest width of a place. -/
def widthLimit : Nat := Nat.pow 2 63 - 1

/-- The greatest precision of a place. -/
def precisionLimit : Nat := Nat.pow 2 31 - 1

namespace Style

/-- The style with one more digit of the width. -/
def withWidthDigit (style : Style) (digit : Char) : Except Failure Style :=
  let width := style.width * 10 + (digit.toNat - 48)
  if width ≤ widthLimit then .ok { style with width } else .error .hugeWidth

/-- The style with one more digit of the precision. -/
def withPrecisionDigit (style : Style) (digit : Char) : Except Failure Style :=
  let precision := style.precision.getD 0 * 10 + (digit.toNat - 48)
  if precision ≤ precisionLimit then .ok { style with precision := some precision }
  else .error .hugePrecision

end Style

/-- Fills a place that ends with its letter. -/
def close (style : Style) (value : Option Json) (letter : Char) (position : Nat) :
    Except Failure (List Char) :=
  match value with
  | some value => write style letter position value
  | none => .error .noValue

/-- Why a star cannot stand for a width or a precision: it takes the value away from the letter,
if it fits at all. -/
def starFailure : Option Json → Failure
  | some value => if (wholeNumber? value).isSome then .noValue else .starWidth
  | none => .noValue

/-- Reads the next character of a place behind its key. -/
def feedPlace (stage : Stage) (style : Style) (value : Option Json) (position : Nat)
    (char : Char) : Except Failure (Progress × List Char) :=
  let go (stage : Stage) (style : Style) : Except Failure (Progress × List Char) :=
    .ok (.place stage style value, [])
  let finish : Except Failure (Progress × List Char) :=
    (close style value char position).map fun text => (.text, text)
  let later : Except Failure (Progress × List Char) :=
    if "hlL".toList.contains char then go .size style else finish
  let point : Except Failure (Progress × List Char) :=
    if char == '.' then go .point { style with precision := some 0 } else later
  match stage with
  | .flags =>
    match style.withFlag? char with
    | some style => go .flags style
    | none =>
      if char == '*' then .error (starFailure value)
      else if char.isDigit then (style.withWidthDigit char).bind (go .width)
      else point
  | .width => if char.isDigit then (style.withWidthDigit char).bind (go .width) else point
  | .point =>
    if char == '*' then .error (starFailure value)
    else if char.isDigit then (style.withPrecisionDigit char).bind (go .precision)
    else later
  | .precision =>
    if char.isDigit then (style.withPrecisionDigit char).bind (go .precision) else later
  | .size => finish

/-- Reads the next character. -/
def feed (values : List (String × Json)) (state : State) (char : Char) :
    Except Failure State :=
  let advance (result : Progress × List Char) : State :=
    { state with
      progress := result.1
      position := state.position + 1
      filled := result.2.reverse ++ state.filled }
  match state.progress with
  | .text => .ok (advance (if char == '%' then (.opened, []) else (.text, [char])))
  | .opened =>
    if char == '%' then .ok (advance (.text, ['%']))
    else if char == '(' then .ok (advance (.key 0 [], []))
    else (feedPlace .flags {} state.keyless state.position char).map fun result =>
      { advance result with keyless := none }
  | .key depth reversed =>
    if char == '(' then .ok (advance (.key (depth + 1) (char :: reversed), []))
    else if char == ')' then
      match depth with
      | depth + 1 => .ok (advance (.key depth (char :: reversed), []))
      | 0 =>
        let key := String.ofList reversed.reverse
        match lastMember? key values with
        | some value =>
          .ok { advance (.place .flags {} (some value), []) with keyless := none }
        | none => .error (.missingKey key)
    else .ok (advance (.key depth (char :: reversed), []))
  | .place stage style value =>
    (feedPlace stage style value state.position char).map advance

/-- The filled text of a template that has ended. -/
def finish (state : State) : Except Failure (List Char) :=
  match state.progress with
  | .text => .ok state.filled.reverse
  | .key _ _ => .error .incompleteKey
  | _ => .error .incomplete

end Template

/-- Fills a template with named values. -/
def fillTemplate (values : List (String × Json)) (template : List Char) :
    Except Template.Failure (List Char) :=
  (template.foldlM (Template.feed values) { keyless := some (.obj values) }).bind Template.finish

end Formwork
