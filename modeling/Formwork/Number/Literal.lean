/-
This file reads numbers from text. There are four grammars: the numbers of a
JSON document, the two lenient spellings that are accepted where a number is
expected but a string is found, and the whole numbers of a setting, which may use
the digits of any script. All share one scanner for digits, fraction and
exponent.
-/

import Formwork.Number.Binary64
import Formwork.Text.Blank
import Formwork.Text.DecimalDigit

namespace Formwork

/-! ### Scanning -/

/-- An unsigned decimal literal, cut into its parts. The fraction is present when there is a
point and the exponent when there is an exponent mark. -/
structure NumberLiteral where
  whole : List Char
  fraction : Option (List Char)
  exponent : Option Int
  deriving DecidableEq, Repr

/-- The value of a list of digits. -/
def digitsValue (digits : List Char) : Nat := Nat.ofDigitChars 10 digits 0

/-- Splits a leading sign from a text. -/
def splitSign : List Char → Option Char × List Char
  | '+' :: rest => (some '+', rest)
  | '-' :: rest => (some '-', rest)
  | text => (none, text)

/-- Reads a non-empty list of digits with an optional sign. -/
def scanExponent? (text : List Char) : Option Int :=
  let (sign, digits) := splitSign text
  if digits.isEmpty || !digits.all Char.isDigit then none
  else if sign == some '-' then some (-(digitsValue digits : Int))
  else some (digitsValue digits)

/-- Reads the fraction after the whole part, if a point follows, and returns what is left. -/
def scanFraction : List Char → Option (List Char) × List Char
  | '.' :: rest => (some (rest.takeWhile Char.isDigit), rest.dropWhile Char.isDigit)
  | text => (none, text)

namespace NumberLiteral

/-- Cuts a whole text into digits, fraction and exponent. Each part may have no digits. -/
def scan? (text : List Char) : Option NumberLiteral :=
  let whole := text.takeWhile Char.isDigit
  let (fraction, rest) := scanFraction (text.dropWhile Char.isDigit)
  match rest with
  | [] => some ⟨whole, fraction, none⟩
  | mark :: rest =>
    if mark == 'e' || mark == 'E' then
      (scanExponent? rest).map fun exponent => ⟨whole, fraction, some exponent⟩
    else none

/-- Whether the literal is written as a whole number. -/
def isWhole (literal : NumberLiteral) : Bool :=
  literal.fraction.isNone && literal.exponent.isNone

/-- The double nearest to the literal. -/
def toBinary64 (literal : NumberLiteral) (negative : Bool) : Binary64 :=
  let fraction := literal.fraction.getD []
  Binary64.ofDecimal negative (digitsValue (literal.whole ++ fraction))
    (literal.exponent.getD 0 - fraction.length)

end NumberLiteral

/-! ### Numbers in a document -/

/-- A number of a document: exact if written as a whole number, a double otherwise. -/
inductive Numeral where
  | whole (value : Int)
  | real (value : Binary64)
  deriving DecidableEq

/-- The greatest number of digits that a whole number may be written with. The digits alone are
counted: a minus sign in front of this many digits is read, in front of one more it is not. There
are decoders that count the sign as a digit, and what is proved of texts is true of these as well:
it is about numbers that keep to the limit together with their sign (`Json.Short`). -/
def digitLimit : Nat := 4300

/-- Reads a number by the grammar of JSON: a minus sign at most, no needless leading zero, and
a digit on both sides of a point. The digits before the point are limited in number. -/
def readNumeral? (text : List Char) : Option Numeral :=
  let (sign, digits) := splitSign text
  match NumberLiteral.scan? digits with
  | none => none
  | some literal =>
    if sign == some '+' || literal.whole.isEmpty || literal.fraction == some [] ||
        (literal.whole.head? == some '0' && literal.whole.length != 1) ||
        digitLimit < literal.whole.length then none
    else if literal.isWhole then
      let value : Int := digitsValue literal.whole
      some (.whole (if sign == some '-' then -value else value))
    else some (.real (literal.toBinary64 (sign == some '-')))

/-! ### Numbers in strings -/

/-- Removes single underscores that stand between two digits; all else must be digits. -/
def joinDigits? : List Char → Option (List Char)
  | [] => none
  | [digit] => if digit.isDigit then some [digit] else none
  | digit :: '_' :: rest => if digit.isDigit then (joinDigits? rest).map (digit :: ·) else none
  | digit :: rest => if digit.isDigit then (joinDigits? rest).map (digit :: ·) else none

/-- Drops a point and one or more zeros at the end of a text. -/
def dropZeroFraction (text : List Char) : List Char :=
  let zeros := text.reverse.takeWhile (· == '0')
  match text.reverse.dropWhile (· == '0') with
  | '.' :: rest => if zeros.isEmpty then text else rest.reverse
  | _ => text

/-- Whether two neighbours in the text are both underscores. -/
def hasDoubleUnderscore : List Char → Bool
  | '_' :: '_' :: _ => true
  | _ :: rest => hasDoubleUnderscore rest
  | [] => false

/-- Removes the underscores of a text in which none stands at an end or next to another one. A
text with a misplaced underscore is kept as it is. -/
def dropUnderscores (text : List Char) : List Char :=
  if text.head? == some '_' || text.getLast? == some '_' || hasDoubleUnderscore text then text
  else text.filter (· != '_')

/-- Drops zeros and underscores up to the first digit other than zero or a dash. The last dropped
character is kept if a point follows or nothing at all; any other character is refused. -/
def dropZerosAfter? (last : Char) : List Char → Option (List Char)
  | [] => some [last]
  | char :: rest =>
    if char == '0' || char == '_' then dropZerosAfter? char rest
    else if char == '.' then some (last :: char :: rest)
    else if char.isDigit || char == '-' then some (char :: rest)
    else none

/-- Drops the leading zeros of a text, which must begin with a digit. -/
def dropLeadingZeros? : List Char → Option (List Char)
  | '0' :: rest => dropZerosAfter? '0' rest
  | char :: rest => if char.isDigit then some (char :: rest) else none
  | [] => none

/-- The plain spelling of a whole number given as a string: trimmed, without a plus sign,
leading zeros, a fraction of zeros, and grouping underscores. -/
def plainInt? (text : List Char) : Option (List Char) :=
  let (sign, digits) := splitSign (trimBlanks text)
  (dropLeadingZeros? digits).map fun digits =>
    let digits := dropUnderscores (dropZeroFraction digits)
    if sign == some '-' then '-' :: digits else digits

/-- Whether a text begins like a whole number with more digits than the limit, and with neither
blanks nor zeros in front of them. As in a document, a minus sign is not counted. -/
def beginsOversized (text : List Char) : Bool :=
  let digits := match text with
    | '-' :: rest => rest
    | _ => text
  digits.head? != some '0' && digitLimit < (digits.takeWhile Char.isDigit).length

/-- What a string says where a whole number is expected. -/
inductive IntReading where
  | value (value : Int)
  | unreadable
  | oversized
  deriving DecidableEq, Repr

/-- Reads a string where a whole number is expected: its plain spelling must be a whole number of
a document. A text that begins with too many digits is oversized, whatever follows them. -/
def readLenientInt (text : List Char) : IntReading :=
  if beginsOversized text then .oversized
  else
    match (plainInt? text).bind readNumeral? with
    | some (.whole value) => .value value
    | _ => .unreadable

/-- The words for numbers without digits, in lower case. -/
def readSpecial? (negative : Bool) (word : List Char) : Option Binary64 :=
  let lower := String.ofList (word.map Char.toLower)
  if lower == "nan" then some .nan
  else if lower == "inf" || lower == "infinity" then some (.infinite negative)
  else none

/-- Reads a signed decimal literal with a digit somewhere before the exponent, or a special
word in any case. -/
def readFloat? (text : List Char) : Option Binary64 :=
  let (sign, body) := splitSign text
  let negative := sign == some '-'
  match readSpecial? negative body with
  | some value => some value
  | none =>
    match NumberLiteral.scan? body with
    | none => none
    | some literal =>
      if literal.whole.isEmpty && (literal.fraction.getD []).isEmpty then none
      else some (literal.toBinary64 negative)

/-- Reads a string where a double is expected: trimmed, and if that fails once more without its
underscores, where no blanks are allowed. -/
def readLenientFloat? (text : List Char) : Option Binary64 :=
  match readFloat? (trimBlanks text) with
  | some value => some value
  | none => readFloat? (dropUnderscores text)

/-! ### Numbers in settings -/

/-- Writes a digit of any script as an ASCII digit and keeps all other characters. -/
def plainDigit (char : Char) : Char :=
  match digitValue? char with
  | some value => Nat.digitChar value
  | none => char

/-- What a text says where a setting should be a whole number. -/
inductive SettingReading where
  | value (value : Int)
  | invalid
  | oversized (digits : Nat)
  deriving DecidableEq, Repr

/-- Reads the whole number of a setting: trimmed, with a sign, grouping underscores and the
digits of any script allowed. The digits are counted before the rest of the text is looked at. -/
def readSettingInt (text : String) : SettingReading :=
  let (sign, body) := splitSign ((trimBlanks text.toList).map plainDigit)
  let isPart (char : Char) : Bool := char.isDigit || char == '_'
  match joinDigits? (body.takeWhile isPart) with
  | none => .invalid
  | some digits =>
    if digitLimit < digits.length then .oversized digits.length
    else if !(body.dropWhile isPart).isEmpty then .invalid
    else
      let value : Int := digitsValue digits
      .value (if sign == some '-' then -value else value)

end Formwork
