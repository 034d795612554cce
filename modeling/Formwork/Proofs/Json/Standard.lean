/-
This file states the grammar of standard JSON text, which knows no names for numbers
without digits, and proves which texts of values conform to it: exactly those of values
whose doubles all have digits.

A text that conforms is built along the value. That no other text conforms is shown by the
characters outside of the strings of a text: standard text has neither of the letters there
with which the names of numbers begin.
-/

import Formwork.Proofs.Json.Lexing

namespace Formwork

namespace Standard

/-! ### The grammar -/

/-- Blanks between the parts of a text. -/
def IsBlank (text : List Char) : Prop := ∀ char ∈ text, char ∈ [' ', '\t', '\n', '\r']

/-- One or more decimal digits. -/
structure IsDigits (text : List Char) : Prop where
  nonempty : text ≠ []
  digits : ∀ char ∈ text, char.isDigit = true

/-- The whole part of a number, without a leading zero. -/
structure IsWhole (text : List Char) : Prop where
  digits : IsDigits text
  leading : text.head? = some '0' → text = ['0']

/-- The fraction of a number, which may be missing. -/
inductive IsFraction : List Char → Prop where
  | none : IsFraction []
  | point {digits : List Char} : IsDigits digits → IsFraction ('.' :: digits)

/-- The exponent of a number, which may be missing. -/
inductive IsExponent : List Char → Prop where
  | none : IsExponent []
  | power {mark : Char} {sign digits : List Char} :
    mark ∈ ['e', 'E'] → sign ∈ [[], ['-'], ['+']] → IsDigits digits →
      IsExponent (mark :: sign ++ digits)

/-- A number. -/
inductive IsNumber : List Char → Prop where
  | parts {sign whole fraction exponent : List Char} :
    sign ∈ [[], ['-']] → IsWhole whole → IsFraction fraction → IsExponent exponent →
      IsNumber (sign ++ whole ++ fraction ++ exponent)

/-- Whether a character is a hexadecimal digit. -/
def isHexDigit (char : Char) : Bool :=
  char.isDigit || ('a' ≤ char && char ≤ 'f') || ('A' ≤ char && char ≤ 'F')

/-- One character of a string: the character itself, or an escape. -/
inductive IsStringChar : List Char → Prop where
  | plain {char : Char} :
    32 ≤ char.toNat → char ≠ '"' → char ≠ '\\' → IsStringChar [char]
  | short {char : Char} :
    char ∈ ['"', '\\', '/', 'b', 'f', 'n', 'r', 't'] → IsStringChar ['\\', char]
  | unit {digits : List Char} :
    digits.length = 4 → (∀ char ∈ digits, isHexDigit char = true) →
      IsStringChar ('\\' :: 'u' :: digits)

/-- A string, quotes included. -/
inductive IsString : List Char → Prop where
  | quoted {chars : List (List Char)} :
    (∀ char ∈ chars, IsStringChar char) → IsString ('"' :: chars.flatten ++ ['"'])

/-- The parts of a text: a value, a member of an object, and parts of one sort with commas between
them. -/
inductive Part where
  | value
  | member
  | several (part : Part)

/-- Which texts are parts of standard JSON text. -/
inductive Derives : Part → List Char → Prop where
  | null : Derives .value "null".toList
  | true : Derives .value "true".toList
  | false : Derives .value "false".toList
  | number {text : List Char} : IsNumber text → Derives .value text
  | string {text : List Char} : IsString text → Derives .value text
  | emptyArray {blank : List Char} : IsBlank blank → Derives .value ('[' :: blank ++ [']'])
  | array {items : List Char} :
    Derives (.several .value) items → Derives .value ('[' :: items ++ [']'])
  | emptyObject {blank : List Char} :
    IsBlank blank → Derives .value ('\x7b' :: blank ++ ['\x7d'])
  | object {members : List Char} :
    Derives (.several .member) members → Derives .value ('\x7b' :: members ++ ['\x7d'])
  | member {name before after value : List Char} :
    IsString name → IsBlank before → IsBlank after → Derives .value value →
      Derives .member (name ++ before ++ ':' :: after ++ value)
  | last {part : Part} {before text after : List Char} :
    IsBlank before → Derives part text → IsBlank after →
      Derives (.several part) (before ++ text ++ after)
  | more {part : Part} {before text after rest : List Char} :
    IsBlank before → Derives part text → IsBlank after → Derives (.several part) rest →
      Derives (.several part) (before ++ text ++ after ++ ',' :: rest)

/-- Whether a text is standard JSON text: a value between blanks. -/
def IsText (text : String) : Prop :=
  ∃ before value after, IsBlank before ∧ Derives .value value ∧ IsBlank after ∧
    text.toList = before ++ value ++ after

/-! ### Numbers -/

theorem isDigits_toDigits (value : Nat) : IsDigits (Nat.toDigits 10 value) :=
  ⟨Nat.toDigits_ne_nil, fun _ member => isDigit_of_mem_toDigits member⟩

theorem isExponent_exponentText (exponent : Int) :
    IsExponent ('e' :: exponentText exponent) := by
  have digits : IsDigits (if (Nat.toDigits 10 exponent.natAbs).length < 2 then
      '0' :: Nat.toDigits 10 exponent.natAbs else Nat.toDigits 10 exponent.natAbs) := by
    have given := isDigits_toDigits exponent.natAbs
    split
    · exact ⟨List.cons_ne_nil _ _, List.forall_mem_cons.mpr ⟨by decide, given.digits⟩⟩
    · exact given
  unfold exponentText
  by_cases negative : exponent < 0
  · rw [if_pos negative]
    exact @IsExponent.power 'e' ['-'] _ (by decide) (by decide) digits
  · rw [if_neg negative]
    exact @IsExponent.power 'e' ['+'] _ (by decide) (by decide) digits

theorem signText_mem (negative : Bool) : NumberLiteral.signText negative ∈ [[], ['-']] := by
  cases negative <;> decide

/-- A number of a document is a standard number. -/
theorem isNumber_text {literal : NumberLiteral} (numeral : literal.IsNumeral) (negative : Bool) :
    IsNumber (NumberLiteral.signText negative ++ literal.text) := by
  obtain ⟨⟨⟨wholeDigits, fractionDigits⟩, wholeNonempty⟩, fractionNonempty, noLeadingZero, _⟩ :=
    numeral
  have whole : IsWhole literal.whole := by
    refine ⟨⟨wholeNonempty, wholeDigits⟩, fun zero => ?_⟩
    obtain ⟨first, single⟩ := List.length_eq_one_iff.mp (noLeadingZero zero)
    rw [single] at zero ⊢
    exact congrArg (fun char => [char]) (Option.some.inj zero)
  rw [NumberLiteral.text, ← List.append_assoc, ← List.append_assoc]
  refine .parts (signText_mem negative) whole ?_ ?_
  · cases held : literal.fraction with
    | none => exact .none
    | some digits =>
      exact .point ⟨fun empty => fractionNonempty (held.trans (congrArg some empty)),
        fractionDigits digits held⟩
  · cases literal.exponent with
    | none => exact .none
    | some value => exact isExponent_exponentText value

theorem isNumber_decimalText (value : Int) : IsNumber (decimalText value) := by
  have whole : IsWhole (Nat.toDigits 10 value.natAbs) := by
    refine ⟨isDigits_toDigits _, fun zero => ?_⟩
    by_cases positive : 0 < value.natAbs
    · exact absurd zero (head?_toDigits positive)
    · rw [Nat.eq_zero_of_not_pos positive]
      decide
  have parts := IsNumber.parts (signText_mem (decide (value < 0))) whole .none .none
  rw [decimalText_eq]
  simpa only [NumberLiteral.text, NumberLiteral.ofWhole, List.append_assoc] using parts

theorem isNumber_floatText {number : Binary64} (finite : number.isFinite = true) :
    IsNumber (number.text Json.numberNames) := by
  cases number with
  | nan => cases finite
  | infinite negative => cases finite
  | finite negative quanta representable =>
    obtain ⟨literal, written, numeral, _, _⟩ :=
      Binary64.text_finite Json.numberNames negative quanta representable
    rw [written]
    exact isNumber_text numeral negative

/-! ### Strings -/

theorem isStringChar_escapedUnit {unit : Nat} (small : unit < 0x10000) :
    IsStringChar (Json.escapedUnit unit) := by
  have hexadecimal : ∀ digit < 16, isHexDigit (Nat.digitChar digit) = true := by decide
  rw [Json.escapedUnit]
  refine .unit ?_ ?_
  · rw [Token.hexDigits_four small]
    rfl
  · rw [Token.hexDigits_four small]
    simp only [List.forall_mem_cons]
    exact ⟨hexadecimal _ (by omega), hexadecimal _ (by omega), hexadecimal _ (by omega),
      hexadecimal _ (by omega), List.forall_mem_nil _⟩

/-- What is written for a character consists of characters of strings; there are two of them for a
character beyond the basic plane. -/
theorem exists_writeChar (char : Char) : ∃ chars : List (List Char),
    (∀ piece ∈ chars, IsStringChar piece) ∧ Json.writeChar char = chars.flatten := by
  have single : ∀ {text : List Char}, IsStringChar text → ∃ chars : List (List Char),
      (∀ piece ∈ chars, IsStringChar piece) ∧ text = chars.flatten :=
    fun {text} holds => ⟨[text], List.forall_mem_singleton.mpr holds, by simp⟩
  unfold Json.writeChar
  split
  · exact single (.short (by decide))
  rename_i notQuote
  split
  · exact single (.short (by decide))
  rename_i notBackslash
  split
  · exact single (.short (by decide))
  split
  · exact single (.short (by decide))
  split
  · exact single (.short (by decide))
  split
  · exact single (.short (by decide))
  split
  · exact single (.short (by decide))
  split
  · rename_i printable
    exact single (.plain printable.1 (by simpa using notQuote) (by simpa using notBackslash))
  split
  · rename_i basic
    exact single (isStringChar_escapedUnit basic)
  · have valid : char.toNat < 0xD800 ∨ 0xDFFF < char.toNat ∧ char.toNat < 0x110000 := char.valid
    refine ⟨[Json.escapedUnit (0xD800 + (char.toNat - 0x10000) / 0x400),
      Json.escapedUnit (0xDC00 + (char.toNat - 0x10000) % 0x400)], ?_, by simp⟩
    exact List.forall_mem_cons.mpr ⟨isStringChar_escapedUnit (by omega),
      List.forall_mem_singleton.mpr (isStringChar_escapedUnit (by omega))⟩

theorem isString_writeText (text : String) : IsString (Json.writeText text) := by
  have pieces : ∀ chars : List Char, ∃ pieces : List (List Char),
      (∀ piece ∈ pieces, IsStringChar piece) ∧ chars.flatMap Json.writeChar = pieces.flatten := by
    intro chars
    induction chars with
    | nil => exact ⟨[], List.forall_mem_nil _, rfl⟩
    | cons char rest inductionHypothesis =>
      obtain ⟨first, firstHolds, firstWritten⟩ := exists_writeChar char
      obtain ⟨others, othersHold, othersWritten⟩ := inductionHypothesis
      exact ⟨first ++ others, List.forall_mem_append.mpr ⟨firstHolds, othersHold⟩, by
        rw [List.flatMap_cons, firstWritten, othersWritten, List.flatten_append]⟩
  obtain ⟨pieces, holds, written⟩ := pieces text.toList
  rw [Json.writeText, written]
  exact .quoted holds

/-! ### Values -/

variable {layout : Json.Layout}

theorem isBlank_edge (blank : layout.Blank) (level : Nat) : IsBlank (layout.edge level) := by
  intro char member
  have separator := Json.Layout.isSeparator_of_mem_edge blank level char member
  simpa [Token.isSeparator, or_assoc] using separator

theorem exists_separator (blank : layout.Blank) (level : Nat) :
    ∃ blanks, layout.separator level = ',' :: blanks ∧ IsBlank blanks := by
  obtain ⟨blanks, written, onlyBlanks⟩ := Json.Layout.separator_eq blank level
  exact ⟨blanks, written, fun char member => by
    simpa [Token.isSeparator, or_assoc] using onlyBlanks char member⟩

theorem isBlank_nil : IsBlank [] := List.forall_mem_nil _

/-- The text of a member of an object. -/
def memberText (layout : Json.Layout) (level : Nat) (member : String × Json) : List Char :=
  Json.writeText member.1 ++ [':', ' '] ++ member.2.writeAt layout level

theorem writeItems_eq (level : Nat) (items : List Json) :
    Json.writeItems layout level items =
      (items.map (·.writeAt layout level)).flatMap (layout.separator level ++ ·) := by
  induction items with
  | nil => rfl
  | cons item rest inductionHypothesis =>
    rw [Json.writeItems, inductionHypothesis, List.map_cons, List.flatMap_cons]

theorem writeMembers_eq (level : Nat) (members : List (String × Json)) :
    Json.writeMembers layout level members =
      (members.map (memberText layout level)).flatMap (layout.separator level ++ ·) := by
  induction members with
  | nil => rfl
  | cons member rest inductionHypothesis =>
    rw [Json.writeMembers, inductionHypothesis, List.map_cons, List.flatMap_cons, memberText]
    simp only [List.append_assoc]

/-- A part between blanks and further parts behind it, each after a separator. -/
theorem derives_several (blank : layout.Blank) (level : Nat) {part : Part}
    {rest : List (List Char)} (each : ∀ text ∈ rest, Derives part text)
    {before text after : List Char} (blankBefore : IsBlank before) (derives : Derives part text)
    (blankAfter : IsBlank after) :
    Derives (.several part)
      (before ++ text ++ rest.flatMap (layout.separator level ++ ·) ++ after) := by
  induction rest generalizing before text with
  | nil => simpa using Derives.last blankBefore derives blankAfter
  | cons next rest inductionHypothesis =>
    obtain ⟨blanks, written, onlyBlanks⟩ := exists_separator blank level
    obtain ⟨first, others⟩ := List.forall_mem_cons.mp each
    have whole := Derives.more blankBefore derives isBlank_nil
      (inductionHypothesis others onlyBlanks first)
    rw [List.flatMap_cons, written]
    simpa only [written, List.append_assoc, List.cons_append, List.nil_append] using whole

theorem derives_memberText {level : Nat} {member : String × Json}
    (derives : Derives .value (member.2.writeAt layout level)) :
    Derives .member (memberText layout level member) := by
  have space : IsBlank [' '] := List.forall_mem_singleton.mpr (by decide)
  have whole := Derives.member (isString_writeText member.1) isBlank_nil space derives
  simpa only [memberText, List.append_nil] using whole

/-- The text of a value whose doubles all have digits is standard. -/
theorem derives_writeAt (blank : layout.Blank) {value : Json}
    (finite : value.AllNumbers (·.isFinite)) (level : Nat) :
    Derives .value (value.writeAt layout level) := by
  have edge := isBlank_edge blank
  induction value using Json.induction generalizing level with
  | null => exact .null
  | bool value => cases value <;> first | exact .true | exact .false
  | int value => exact .number (isNumber_decimalText value)
  | float number => exact .number (isNumber_floatText finite)
  | str text => exact .string (isString_writeText text)
  | arr items inductionHypothesis =>
    have each : ∀ item ∈ items, Derives .value (item.writeAt layout (level + 1)) :=
      fun item inside => inductionHypothesis item inside
        (Json.allNumbers_arr.mp finite item inside) (level + 1)
    cases items with
    | nil => exact .emptyArray isBlank_nil
    | cons item rest =>
      obtain ⟨first, others⟩ := List.forall_mem_cons.mp each
      have whole := Derives.array (derives_several blank (level + 1)
        (List.forall_mem_map.mpr others) (edge (level + 1)) first (edge level))
      rw [Json.writeAt, writeItems_eq]
      simpa only [List.append_assoc, List.cons_append] using whole
  | obj members inductionHypothesis =>
    have each : ∀ member ∈ members, Derives .member (memberText layout (level + 1) member) :=
      fun member inside => derives_memberText (inductionHypothesis member inside
        (Json.allNumbers_obj.mp finite member inside) (level + 1))
    cases members with
    | nil => exact .emptyObject isBlank_nil
    | cons member rest =>
      obtain ⟨first, others⟩ := List.forall_mem_cons.mp each
      have whole := Derives.object (derives_several blank (level + 1)
        (List.forall_mem_map.mpr others) (edge (level + 1)) first (edge level))
      rw [Json.writeAt, writeMembers_eq]
      simpa only [memberText, List.append_assoc, List.cons_append] using whole

/-! ### Characters outside of strings -/

/-- Where a character stands in a text: outside of strings, in a string, or in a string behind a
backslash. -/
inductive Quoting where
  | outside
  | inside
  | escaped

/-- The characters of a text that stand outside of its strings. -/
def bare : Quoting → List Char → List Char
  | _, [] => []
  | .outside, char :: rest =>
    if char = '"' then bare .inside rest else char :: bare .outside rest
  | .inside, char :: rest =>
    if char = '"' then bare .outside rest
    else if char = '\\' then bare .escaped rest
    else bare .inside rest
  | .escaped, _ :: rest => bare .inside rest

/-- Whether a text ends all strings that begin in it, and has the given characters outside of
them. -/
def Bares (text chars : List Char) : Prop :=
  ∀ rest, bare .outside (text ++ rest) = chars ++ bare .outside rest

theorem Bares.append {text text' chars chars' : List Char} (bares : Bares text chars)
    (bares' : Bares text' chars') : Bares (text ++ text') (chars ++ chars') := by
  intro rest
  rw [List.append_assoc, bares, bares', List.append_assoc]

theorem bares_of_unquoted {text : List Char} (unquoted : '"' ∉ text) : Bares text text := by
  intro rest
  induction text with
  | nil => rfl
  | cons char others inductionHypothesis =>
    have different : char ≠ '"' := fun same => unquoted (same ▸ List.mem_cons_self)
    have others := inductionHypothesis fun later => unquoted (List.mem_cons_of_mem _ later)
    rw [List.cons_append, bare, if_neg different, others, List.cons_append]

theorem Bares.unique {text chars chars' : List Char} (bares : Bares text chars)
    (bares' : Bares text chars') : chars = chars' := by
  have same := (bares []).symm.trans (bares' [])
  simpa [bare] using same

theorem bare_stringChar {piece : List Char} (holds : IsStringChar piece) (rest : List Char) :
    bare .inside (piece ++ rest) = bare .inside rest := by
  cases holds with
  | plain _ notQuote notBackslash =>
    rw [List.singleton_append, bare, if_neg notQuote, if_neg notBackslash]
  | short _ => rfl
  | @unit digits _ hexadecimal =>
    have skips : ∀ digits : List Char, (∀ char ∈ digits, isHexDigit char = true) →
        bare .inside (digits ++ rest) = bare .inside rest := by
      intro digits hexadecimal
      induction digits with
      | nil => rfl
      | cons digit others inductionHypothesis =>
        obtain ⟨first, others⟩ := List.forall_mem_cons.mp hexadecimal
        have notQuote : digit ≠ '"' := by
          rintro rfl
          exact absurd first (by decide)
        have notBackslash : digit ≠ '\\' := by
          rintro rfl
          exact absurd first (by decide)
        rw [List.cons_append, bare, if_neg notQuote, if_neg notBackslash,
          inductionHypothesis others]
    exact skips digits hexadecimal

theorem bares_string {text : List Char} (holds : IsString text) : Bares text [] := by
  intro rest
  obtain @⟨chars, holds⟩ := holds
  have skips : ∀ chars : List (List Char), (∀ char ∈ chars, IsStringChar char) →
      bare .inside (chars.flatten ++ '"' :: rest) = bare .outside rest := by
    intro chars holds
    induction chars with
    | nil => rfl
    | cons char others inductionHypothesis =>
      obtain ⟨first, others⟩ := List.forall_mem_cons.mp holds
      rw [List.flatten_cons, List.append_assoc, bare_stringChar first, inductionHypothesis others]
  rw [List.append_assoc]
  exact skips chars holds

/-! ### Standard text has no names of numbers -/

/-- Whether none of the characters begins the name of a number. -/
def Nameless (chars : List Char) : Prop := ∀ char ∈ chars, char ∉ ['N', 'I']

/-- Whether a text ends its strings and begins no name of a number outside of them. -/
def Modest (text : List Char) : Prop := ∃ chars, Bares text chars ∧ Nameless chars

theorem Modest.append {text text' : List Char} (modest : Modest text) (modest' : Modest text') :
    Modest (text ++ text') := by
  obtain ⟨chars, bares, nameless⟩ := modest
  obtain ⟨chars', bares', nameless'⟩ := modest'
  exact ⟨chars ++ chars', bares.append bares', List.forall_mem_append.mpr ⟨nameless, nameless'⟩⟩

theorem modest_of_forall {text : List Char} (plain : ∀ char ∈ text, char ∉ ['"', 'N', 'I']) :
    Modest text :=
  ⟨text, bares_of_unquoted fun quote => plain _ quote List.mem_cons_self,
    fun char member named => plain char member (List.mem_cons_of_mem _ named)⟩

theorem modest_nil : Modest [] := modest_of_forall (List.forall_mem_nil _)

theorem Modest.cons {char : Char} {text : List Char} (modest : Modest text)
    (plain : char ∉ ['"', 'N', 'I']) : Modest (char :: text) :=
  Modest.append (modest_of_forall (List.forall_mem_singleton.mpr plain)) modest

theorem modest_of_isBlank {text : List Char} (blank : IsBlank text) : Modest text := by
  refine modest_of_forall fun char member => ?_
  have each : ∀ char ∈ [' ', '\t', '\n', '\r'], char ∉ ['"', 'N', 'I'] := by simp
  exact each char (blank char member)

theorem modest_of_isString {text : List Char} (string : IsString text) : Modest text :=
  ⟨[], bares_string string, List.forall_mem_nil _⟩

theorem modest_of_isDigits {text : List Char} (digits : IsDigits text) : Modest text := by
  refine modest_of_forall fun char member named => ?_
  have digit := digits.digits char member
  simp only [List.mem_cons, List.not_mem_nil, or_false] at named
  rcases named with rfl | rfl | rfl <;> exact absurd digit (by decide)

theorem modest_of_isNumber {text : List Char} (number : IsNumber text) : Modest text := by
  have signs : ∀ sign ∈ [[], ['-'], ['+']], Modest sign := by
    intro sign among
    refine modest_of_forall ?_
    have each : ∀ sign ∈ [[], ['-'], ['+']], ∀ char ∈ sign, char ∉ ['"', 'N', 'I'] := by simp
    exact each sign among
  obtain ⟨sign, whole, fraction, exponent⟩ := number
  refine Modest.append (Modest.append (Modest.append (signs _ ?_)
    (modest_of_isDigits whole.digits)) ?_) ?_
  · exact List.mem_of_mem_take (i := 2) sign
  · cases fraction with
    | none => exact modest_nil
    | point digits => exact (modest_of_isDigits digits).cons (by decide)
  · cases exponent with
    | none => exact modest_nil
    | power mark sign digits =>
      have marks : ∀ mark ∈ ['e', 'E'], mark ∉ ['"', 'N', 'I'] := by simp
      exact ((signs _ sign).append (modest_of_isDigits digits)).cons (marks _ mark)

/-- Standard text ends its strings and begins no name of a number outside of them. -/
theorem modest_of_derives {part : Part} {text : List Char} (derives : Derives part text) :
    Modest text := by
  induction derives with
  | null => exact modest_of_forall (by simp)
  | true => exact modest_of_forall (by simp)
  | false => exact modest_of_forall (by simp)
  | number number => exact modest_of_isNumber number
  | string string => exact modest_of_isString string
  | emptyArray blank =>
    exact ((modest_of_isBlank blank).append (modest_nil.cons (by decide))).cons (by decide)
  | array _ items => exact (items.append (modest_nil.cons (by decide))).cons (by decide)
  | emptyObject blank =>
    exact ((modest_of_isBlank blank).append (modest_nil.cons (by decide))).cons (by decide)
  | object _ members => exact (members.append (modest_nil.cons (by decide))).cons (by decide)
  | member name before after _ value =>
    exact (((modest_of_isString name).append (modest_of_isBlank before)).append
      ((modest_of_isBlank after).cons (by decide))).append value
  | last before _ after text =>
    exact ((modest_of_isBlank before).append text).append (modest_of_isBlank after)
  | more before _ after _ text rest =>
    exact (((modest_of_isBlank before).append text).append (modest_of_isBlank after)).append
      (rest.cons (by decide))

/-! ### Texts with names of numbers -/

/-- Whether a text ends its strings and, if it begins no name of a number outside of them, something
holds. -/
def Reveals (text : List Char) (fact : Prop) : Prop :=
  ∃ chars, Bares text chars ∧ (Nameless chars → fact)

theorem Reveals.append {text text' : List Char} {fact fact' : Prop} (reveals : Reveals text fact)
    (reveals' : Reveals text' fact') : Reveals (text ++ text') (fact ∧ fact') := by
  obtain ⟨chars, bares, implies⟩ := reveals
  obtain ⟨chars', bares', implies'⟩ := reveals'
  refine ⟨chars ++ chars', bares.append bares', fun nameless => ?_⟩
  obtain ⟨first, second⟩ := List.forall_mem_append.mp nameless
  exact ⟨implies first, implies' second⟩

theorem Reveals.mono {text : List Char} {fact fact' : Prop} (reveals : Reveals text fact)
    (implies : fact → fact') : Reveals text fact' := by
  obtain ⟨chars, bares, given⟩ := reveals
  exact ⟨chars, bares, fun nameless => implies (given nameless)⟩

theorem Modest.reveals {text : List Char} (modest : Modest text) : Reveals text True := by
  obtain ⟨chars, bares, _⟩ := modest
  exact ⟨chars, bares, fun _ => trivial⟩

theorem Reveals.between {before text after : List Char} {fact : Prop}
    (reveals : Reveals text fact) (modest : Modest before) (modest' : Modest after) :
    Reveals (before ++ text ++ after) fact :=
  ((modest.reveals.append reveals).append modest'.reveals).mono fun holds => holds.1.2

theorem reveals_of_derives {part : Part} {text : List Char} (derives : Derives part text)
    {fact : Prop} (holds : fact) : Reveals text fact :=
  (modest_of_derives derives).reveals.mono fun _ => holds

theorem modest_separator (blank : layout.Blank) (level : Nat) :
    Modest (layout.separator level) := by
  obtain ⟨blanks, written, onlyBlanks⟩ := exists_separator blank level
  rw [written]
  exact (modest_of_isBlank onlyBlanks).cons (by decide)

/-- Parts after separators reveal what each of them reveals. -/
theorem reveals_flatMap {α : Type} (blank : layout.Blank) (level : Nat) {parts : List α}
    {text : α → List Char} {fact : α → Prop}
    (each : ∀ part ∈ parts, Reveals (text part) (fact part)) :
    Reveals ((parts.map text).flatMap (layout.separator level ++ ·))
      (∀ part ∈ parts, fact part) := by
  induction parts with
  | nil => exact modest_nil.reveals.mono fun _ => List.forall_mem_nil _
  | cons part rest inductionHypothesis =>
    obtain ⟨first, others⟩ := List.forall_mem_cons.mp each
    have whole := ((modest_separator blank level).reveals.append first).append
      (inductionHypothesis others)
    rw [List.map_cons, List.flatMap_cons]
    exact whole.mono fun holds => List.forall_mem_cons.mpr ⟨holds.1.2, holds.2⟩

/-- The names of the infinities and of not-a-number stand outside of strings. -/
theorem reveals_floatText (number : Binary64) :
    Reveals (number.text Json.numberNames) (number.isFinite = true) := by
  have named : ∀ name : List Char, '"' ∉ name → ∀ char ∈ name, char ∈ ['N', 'I'] →
      Reveals name (number.isFinite = true) := by
    intro name unquoted char member begins
    exact ⟨name, bares_of_unquoted unquoted, fun nameless =>
      absurd begins (nameless char member)⟩
  cases number with
  | nan => exact named _ (by decide) 'N' (by decide) (by decide)
  | infinite negative => cases negative <;> exact named _ (by decide) 'I' (by decide) (by decide)
  | finite negative quanta representable =>
    exact reveals_of_derives (.number (isNumber_floatText rfl)) rfl

/-- The text of a value begins the name of a number for each double in it that has no digits. -/
theorem reveals_writeAt (blank : layout.Blank) (value : Json) (level : Nat) :
    Reveals (value.writeAt layout level) (value.AllNumbers (·.isFinite)) := by
  have edge : ∀ level, Modest (layout.edge level) :=
    fun level => modest_of_isBlank (isBlank_edge blank level)
  have bracket : ∀ char ∈ ['[', ']', '\x7b', '\x7d'], char ∉ ['"', 'N', 'I'] := by simp
  induction value using Json.induction generalizing level with
  | float number => exact reveals_floatText number
  | arr items inductionHypothesis =>
    have each : ∀ item ∈ items, Reveals (item.writeAt layout (level + 1))
        (item.AllNumbers (·.isFinite)) :=
      fun item inside => inductionHypothesis item inside (level + 1)
    rw [Json.allNumbers_arr]
    cases items with
    | nil => exact reveals_of_derives (.emptyArray isBlank_nil) (List.forall_mem_nil _)
    | cons item rest =>
      obtain ⟨first, others⟩ := List.forall_mem_cons.mp each
      have parts := (first.append (reveals_flatMap blank (level + 1) others)).between
        ((edge (level + 1)).cons (bracket '[' (by decide)))
        ((edge level).append (modest_nil.cons (bracket ']' (by decide))))
      rw [Json.writeAt, writeItems_eq, List.forall_mem_cons]
      simpa only [List.append_assoc, List.cons_append] using parts
  | obj members inductionHypothesis =>
    have each : ∀ member ∈ members, Reveals (memberText layout (level + 1) member)
        (member.2.AllNumbers (·.isFinite)) := by
      intro member inside
      have name := ((modest_of_isString (isString_writeText member.1)).append
        (modest_of_forall (by simp : ∀ char ∈ [':', ' '], char ∉ ['"', 'N', 'I'])))
      exact (name.reveals.append (inductionHypothesis member inside (level + 1))).mono And.right
    rw [Json.allNumbers_obj]
    cases members with
    | nil => exact reveals_of_derives (.emptyObject isBlank_nil) (List.forall_mem_nil _)
    | cons member rest =>
      obtain ⟨first, others⟩ := List.forall_mem_cons.mp each
      have parts := (first.append (reveals_flatMap blank (level + 1) others)).between
        ((edge (level + 1)).cons (bracket '\x7b' (by decide)))
        ((edge level).append (modest_nil.cons (bracket '\x7d' (by decide))))
      rw [Json.writeAt, writeMembers_eq, List.forall_mem_cons]
      simpa only [memberText, List.append_assoc, List.cons_append] using parts
  | _ => exact reveals_of_derives (derives_writeAt blank (by trivial) level) (by trivial)

/-- The text of a value is standard JSON text exactly if all of its doubles have digits. -/
theorem isText_write_iff (blank : layout.Blank) {value : Json} :
    IsText (value.write layout) ↔ value.AllNumbers (·.isFinite) := by
  constructor
  · rintro ⟨before, text, after, blankBefore, derives, blankAfter, whole⟩
    obtain ⟨chars, bares, implies⟩ := reveals_writeAt blank value 0
    obtain ⟨chars', bares', nameless⟩ := ((modest_of_isBlank blankBefore).append
      (modest_of_derives derives)).append (modest_of_isBlank blankAfter)
    rw [Json.write, String.toList_ofList] at whole
    rw [← whole] at bares'
    exact implies (bares.unique bares' ▸ nameless)
  · intro finite
    exact ⟨[], value.writeAt layout 0, [], isBlank_nil, derives_writeAt blank finite 0,
      isBlank_nil, by simp [Json.write]⟩

end Standard

end Formwork
