/-
This file cuts JSON text into tokens. The lexer reads one character at a time
and keeps what it has begun: a word, which is a number or a name such as `true`,
or a quoted string with its escapes. Beyond the standard the three words `NaN`,
`Infinity` and `-Infinity` are numbers.
-/

import Formwork.Scalar
import Formwork.Number.Literal

namespace Formwork

/-- A token of JSON text. -/
inductive Token where
  | openArray
  | closeArray
  | openObject
  | closeObject
  | comma
  | colon
  | scalar (value : Scalar)
  deriving DecidableEq

namespace Token

/-! ### Words -/

/-- Whether a character may stand in a word. -/
def isWordChar (char : Char) : Bool :=
  char.isAlphanum || char == '-' || char == '+' || char == '.'

/-- The scalar that a word denotes. -/
def readWord? (word : List Char) : Option Scalar :=
  if word == "null".toList then some .null
  else if word == "true".toList then some (.bool true)
  else if word == "false".toList then some (.bool false)
  else if word == "NaN".toList then some (.float .nan)
  else if word == "Infinity".toList then some (.float (.infinite false))
  else if word == "-Infinity".toList then some (.float (.infinite true))
  else (readNumeral? word).map fun
    | .whole value => .int value
    | .real value => .float value

/-! ### The lexer -/

/-- What the lexer has begun. Characters of an unfinished token are kept latest first. -/
inductive Progress where
  | between
  | word (reversed : List Char)
  | quoted (reversed : List Char)
  | escaped (reversed : List Char)
  | codeUnit (reversed : List Char) (high : Option Nat) (missing value : Nat)
  | afterHigh (reversed : List Char) (high : Nat)
  | afterHighEscape (reversed : List Char) (high : Nat)

/-- The state of the lexer: what it has begun and the finished tokens, latest first. -/
structure Lexer where
  progress : Progress
  tokens : List Token

/-- Whether a character separates tokens. -/
def isSeparator (char : Char) : Bool :=
  char == ' ' || char == '\t' || char == '\n' || char == '\r'

/-- The token that is one character of punctuation. -/
def punctuation? : Char → Option Token
  | '[' => some .openArray
  | ']' => some .closeArray
  | '\x7b' => some .openObject
  | '\x7d' => some .closeObject
  | ',' => some .comma
  | ':' => some .colon
  | _ => none

/-- The character that follows a backslash as a short escape. -/
def shortEscape? : Char → Option Char
  | '"' => some '"'
  | '\\' => some '\\'
  | '/' => some '/'
  | 'b' => some '\x08'
  | 'f' => some '\x0c'
  | 'n' => some '\n'
  | 'r' => some '\r'
  | 't' => some '\t'
  | _ => none

/-- The value of a hexadecimal digit. -/
def hexValue? (char : Char) : Option Nat :=
  if '0' ≤ char ∧ char ≤ '9' then some (char.toNat - 48)
  else if 'a' ≤ char ∧ char ≤ 'f' then some (char.toNat - 87)
  else if 'A' ≤ char ∧ char ≤ 'F' then some (char.toNat - 55)
  else none

/-- Whether a code unit is the first half of a surrogate pair. -/
def isHighSurrogate (unit : Nat) : Bool := 0xD800 ≤ unit && unit < 0xDC00

/-- Whether a code unit is the second half of a surrogate pair. -/
def isLowSurrogate (unit : Nat) : Bool := 0xDC00 ≤ unit && unit < 0xE000

/-- Goes on after a complete code unit: a first half waits for its second half, a second half
completes a waiting first half, and neither may stand alone. -/
def Lexer.closeUnit? (tokens : List Token) (reversed : List Char) (high : Option Nat)
    (unit : Nat) : Option Lexer :=
  match high with
  | some high =>
    if isLowSurrogate unit then
      let code := 0x10000 + (high - 0xD800) * 0x400 + (unit - 0xDC00)
      some ⟨.quoted (Char.ofNat code :: reversed), tokens⟩
    else none
  | none =>
    if isHighSurrogate unit then some ⟨.afterHigh reversed unit, tokens⟩
    else if isLowSurrogate unit then none
    else some ⟨.quoted (Char.ofNat unit :: reversed), tokens⟩

/-- Begins a token, or skips a separator. -/
def Lexer.begin? (tokens : List Token) (char : Char) : Option Lexer :=
  if isSeparator char then some ⟨.between, tokens⟩
  else if char == '"' then some ⟨.quoted [], tokens⟩
  else if isWordChar char then some ⟨.word [char], tokens⟩
  else (punctuation? char).map fun token => ⟨.between, token :: tokens⟩

/-- Takes one more character. -/
def Lexer.feed? (lexer : Lexer) (char : Char) : Option Lexer :=
  match lexer.progress with
  | .between => begin? lexer.tokens char
  | .word reversed =>
    if isWordChar char then some ⟨.word (char :: reversed), lexer.tokens⟩
    else
      match readWord? reversed.reverse with
      | some value => begin? (.scalar value :: lexer.tokens) char
      | none => none
  | .quoted reversed =>
    if char == '"' then
      some ⟨.between, .scalar (.text (String.ofList reversed.reverse)) :: lexer.tokens⟩
    else if char == '\\' then some ⟨.escaped reversed, lexer.tokens⟩
    else if char.toNat < 32 then none
    else some ⟨.quoted (char :: reversed), lexer.tokens⟩
  | .escaped reversed =>
    if char == 'u' then some ⟨.codeUnit reversed none 4 0, lexer.tokens⟩
    else (shortEscape? char).map fun meant => ⟨.quoted (meant :: reversed), lexer.tokens⟩
  | .codeUnit reversed high missing value =>
    match hexValue? char with
    | none => none
    | some digit =>
      if missing ≤ 1 then closeUnit? lexer.tokens reversed high (value * 16 + digit)
      else some ⟨.codeUnit reversed high (missing - 1) (value * 16 + digit), lexer.tokens⟩
  | .afterHigh reversed high =>
    if char == '\\' then some ⟨.afterHighEscape reversed high, lexer.tokens⟩ else none
  | .afterHighEscape reversed high =>
    if char == 'u' then some ⟨.codeUnit reversed (some high) 4 0, lexer.tokens⟩ else none

/-- The tokens of a text that has ended, in order. -/
def Lexer.finish? (lexer : Lexer) : Option (List Token) :=
  match lexer.progress with
  | .between => some lexer.tokens.reverse
  | .word reversed =>
    (readWord? reversed.reverse).map fun value => (.scalar value :: lexer.tokens).reverse
  | _ => none

/-- The tokens of a text. -/
def scan? (text : List Char) : Option (List Token) :=
  match text.foldlM Lexer.feed? ⟨.between, []⟩ with
  | some lexer => lexer.finish?
  | none => none

end Token

end Formwork
