/-
This file proves that cutting the text of a JSON value into tokens gives the tokens
of the value, in every layout that uses blanks and line breaks only.

A word has no end of its own: it is finished by the first character after it. The
tokens of a lexer are therefore counted together with the word that it has begun,
and any character that cannot stand in a word is taken as if the word were
finished. Strings are followed character by character, also through the escapes
and the surrogate pairs of their text.
-/

import Formwork.Json.Token
import Formwork.Json.Writer
import Formwork.Proofs.Json.Tree
import Formwork.Proofs.Number.Reading

namespace Formwork

/-- The scalar that a number of a document is. -/
def Numeral.toScalar : Numeral → Scalar
  | .whole value => .int value
  | .real value => .float value

namespace Token

/-! ### The tokens of a lexer -/

/-- Takes several more characters. -/
def Lexer.feedAll? (lexer : Lexer) (text : List Char) : Option Lexer :=
  text.foldlM Lexer.feed? lexer

/-- The tokens of a lexer, latest first, where a word that it has begun counts as finished. -/
def Lexer.settled? (lexer : Lexer) : Option (List Token) :=
  match lexer.progress with
  | .between => some lexer.tokens
  | .word reversed => (readWord? reversed.reverse).map fun value => .scalar value :: lexer.tokens
  | _ => none

namespace Lexer

theorem feedAll?_nil (lexer : Lexer) : lexer.feedAll? [] = some lexer := rfl

theorem feedAll?_cons (lexer : Lexer) (char : Char) (rest : List Char) :
    lexer.feedAll? (char :: rest) = (lexer.feed? char).bind (·.feedAll? rest) := rfl

theorem feedAll?_append (lexer : Lexer) (first second : List Char) :
    lexer.feedAll? (first ++ second) = (lexer.feedAll? first).bind (·.feedAll? second) :=
  List.foldlM_append

theorem finish?_eq (lexer : Lexer) : lexer.finish? = lexer.settled?.map List.reverse := by
  obtain ⟨progress, tokens⟩ := lexer
  cases progress with
  | word reversed =>
    simp only [finish?, settled?]
    cases readWord? reversed.reverse <;> rfl
  | _ => rfl

/-- A character that cannot stand in a word is taken as if a word before it were finished. -/
theorem feed?_of_settled {lexer : Lexer} {tokens : List Token} {char : Char}
    (settled : lexer.settled? = some tokens) (outside : isWordChar char = false) :
    lexer.feed? char = begin? tokens char := by
  obtain ⟨progress, tokens'⟩ := lexer
  cases progress with
  | between =>
    cases settled
    rfl
  | word reversed =>
    simp only [settled?] at settled
    cases read : readWord? reversed.reverse with
    | none => simp [read] at settled
    | some value =>
      rw [read] at settled
      cases settled
      simp only [feed?, outside, Bool.false_eq_true, if_false, read]
  | _ => cases settled

/-! ### Blanks and punctuation -/

/-- Blanks after a token finish it and are skipped. -/
theorem feedAll?_blanks {lexer : Lexer} {tokens : List Token} {blanks : List Char}
    (settled : lexer.settled? = some tokens)
    (onlyBlanks : ∀ char ∈ blanks, isSeparator char = true) :
    ∃ next, lexer.feedAll? blanks = some next ∧ next.settled? = some tokens := by
  induction blanks generalizing lexer with
  | nil => exact ⟨lexer, rfl, settled⟩
  | cons blank rest inductionHypothesis =>
    have separator : isSeparator blank = true := onlyBlanks blank List.mem_cons_self
    have outside : isWordChar blank = false := by
      simp only [isSeparator, Bool.or_eq_true, beq_iff_eq] at separator
      rcases separator with ((rfl | rfl) | rfl) | rfl <;> decide
    rw [feedAll?_cons, feed?_of_settled settled outside, begin?, if_pos separator]
    exact inductionHypothesis rfl fun char member =>
      onlyBlanks char (List.mem_cons_of_mem _ member)

/-- Between tokens blanks change nothing. -/
theorem feedAll?_between {tokens : List Token} {blanks : List Char}
    (onlyBlanks : ∀ char ∈ blanks, isSeparator char = true) :
    feedAll? ⟨.between, tokens⟩ blanks = some ⟨.between, tokens⟩ := by
  induction blanks with
  | nil => rfl
  | cons blank rest inductionHypothesis =>
    have separator : isSeparator blank = true := onlyBlanks blank List.mem_cons_self
    rw [feedAll?_cons, feed?, begin?, if_pos separator]
    exact inductionHypothesis fun char member => onlyBlanks char (List.mem_cons_of_mem _ member)

theorem feed?_punctuation {lexer : Lexer} {tokens : List Token} {char : Char} {token : Token}
    (settled : lexer.settled? = some tokens) (mark : punctuation? char = some token) :
    lexer.feed? char = some ⟨.between, token :: tokens⟩ := by
  have outside : isWordChar char = false ∧ isSeparator char = false ∧ (char == '"') = false := by
    unfold punctuation? at mark
    split at mark <;> first | exact ⟨by decide, by decide, by decide⟩ | cases mark
  rw [feed?_of_settled settled outside.1, begin?, outside.2.1, outside.2.2, outside.1, mark]
  rfl

/-- A mark of punctuation after blanks. -/
theorem feedAll?_blanks_punctuation {lexer : Lexer} {tokens : List Token} {blanks : List Char}
    {char : Char} {token : Token} (settled : lexer.settled? = some tokens)
    (onlyBlanks : ∀ char ∈ blanks, isSeparator char = true)
    (mark : punctuation? char = some token) :
    lexer.feedAll? (blanks ++ [char]) = some ⟨.between, token :: tokens⟩ := by
  obtain ⟨next, fed, settledNext⟩ := feedAll?_blanks settled onlyBlanks
  rw [feedAll?_append, fed, Option.bind_some, feedAll?_cons, feed?_punctuation settledNext mark]
  rfl

/-- A mark of punctuation before blanks. -/
theorem feedAll?_punctuation_blanks {lexer : Lexer} {tokens : List Token} {blanks : List Char}
    {char : Char} {token : Token} (settled : lexer.settled? = some tokens)
    (mark : punctuation? char = some token)
    (onlyBlanks : ∀ char ∈ blanks, isSeparator char = true) :
    lexer.feedAll? (char :: blanks) = some ⟨.between, token :: tokens⟩ := by
  rw [feedAll?_cons, feed?_punctuation settled mark, Option.bind_some]
  exact feedAll?_between onlyBlanks

/-! ### Words -/

theorem feed?_word {tokens : List Token} {reversed : List Char} {char : Char}
    (inside : isWordChar char = true) :
    feed? ⟨.word reversed, tokens⟩ char = some ⟨.word (char :: reversed), tokens⟩ := by
  simp only [feed?, inside, if_true]

theorem feedAll?_word {tokens : List Token} {reversed word : List Char}
    (onlyWord : ∀ char ∈ word, isWordChar char = true) :
    feedAll? ⟨.word reversed, tokens⟩ word = some ⟨.word (word.reverse ++ reversed), tokens⟩ := by
  induction word generalizing reversed with
  | nil => rfl
  | cons char rest inductionHypothesis =>
    rw [feedAll?_cons, feed?_word (onlyWord char List.mem_cons_self), Option.bind_some,
      inductionHypothesis fun char member => onlyWord char (List.mem_cons_of_mem _ member)]
    simp

/-- Between tokens a word is begun and kept until it ends. -/
theorem feedAll?_whole_word {tokens : List Token} {word : List Char}
    (nonempty : word ≠ []) (onlyWord : ∀ char ∈ word, isWordChar char = true) :
    feedAll? ⟨.between, tokens⟩ word = some ⟨.word word.reverse, tokens⟩ := by
  obtain ⟨first, rest, rfl⟩ := List.exists_cons_of_ne_nil nonempty
  have inside : isWordChar first = true := onlyWord first List.mem_cons_self
  have outside : isSeparator first = false ∧ (first == '"') = false := by
    have apart : ∀ char : Char, isSeparator char = true ∨ (char == '"') = true →
        isWordChar char = false := by
      intro char which
      simp only [isSeparator, Bool.or_eq_true, beq_iff_eq] at which
      rcases which with (((rfl | rfl) | rfl) | rfl) | rfl <;> decide
    constructor
    · exact Bool.eq_false_iff.mpr fun hit =>
        absurd inside (Bool.eq_false_iff.mp (apart first (Or.inl hit)))
    · exact Bool.eq_false_iff.mpr fun hit =>
        absurd inside (Bool.eq_false_iff.mp (apart first (Or.inr hit)))
  rw [feedAll?_cons, feed?, begin?, outside.1, outside.2, inside, List.reverse_cons]
  exact feedAll?_word fun char member => onlyWord char (List.mem_cons_of_mem _ member)

/-- A word that denotes a scalar. -/
theorem feedAll?_scalar {tokens : List Token} {word : List Char} {value : Scalar}
    (nonempty : word ≠ []) (onlyWord : ∀ char ∈ word, isWordChar char = true)
    (reads : readWord? word = some value) :
    ∃ next, feedAll? ⟨.between, tokens⟩ word = some next ∧
      next.settled? = some (.scalar value :: tokens) :=
  ⟨_, feedAll?_whole_word nonempty onlyWord, by simp [settled?, reads]⟩

end Lexer

/-! ### Escapes -/

theorem hexValue?_digitChar {digit : Nat} (small : digit < 16) :
    hexValue? (Nat.digitChar digit) = some digit := by
  have each : ∀ digit < 16, hexValue? (Nat.digitChar digit) = some digit := by decide
  exact each digit small

theorem hexDigits_one {value : Nat} (small : value < 16) :
    hexDigits 1 value = [Nat.digitChar value] := by
  simp [hexDigits, Nat.toDigits_of_lt_base small]

/-- The last of the hexadecimal digits of a number. -/
theorem hexDigits_succ {width : Nat} (positive : 0 < width) (value : Nat) :
    hexDigits (width + 1) value =
      hexDigits width (value / 16) ++ [Nat.digitChar (value % 16)] := by
  by_cases small : value < 16
  · have zero : value / 16 = 0 := by omega
    have same : value % 16 = value := by omega
    have shorter : width - 1 + 1 = width := by omega
    simp only [hexDigits, zero, same, Nat.toDigits_of_lt_base small,
      Nat.toDigits_of_lt_base (show 0 < 16 by decide), List.length_singleton, Nat.add_sub_cancel]
    conv => lhs; rw [← shorter, List.replicate_succ']
    rfl
  · have large : 16 ≤ value := by omega
    simp only [hexDigits, Nat.toDigits_of_base_le (show 1 < 16 by decide) large,
      List.length_append, List.length_singleton, Nat.add_sub_add_right, List.append_assoc]

theorem hexDigits_four {unit : Nat} (small : unit < 0x10000) :
    hexDigits 4 unit = [Nat.digitChar (unit / 4096), Nat.digitChar (unit / 256 % 16),
      Nat.digitChar (unit / 16 % 16), Nat.digitChar (unit % 16)] := by
  rw [hexDigits_succ (by decide), hexDigits_succ (by decide), hexDigits_succ (by decide),
    hexDigits_one (by omega)]
  simp [Nat.div_div_eq_div_mul]

namespace Lexer

variable {tokens : List Token} {reversed : List Char}

theorem feed?_codeUnit_more {high : Option Nat} {missing value digit : Nat}
    (several : 1 < missing) (small : digit < 16) :
    feed? ⟨.codeUnit reversed high missing value, tokens⟩ (Nat.digitChar digit) =
      some ⟨.codeUnit reversed high (missing - 1) (value * 16 + digit), tokens⟩ := by
  simp only [feed?, hexValue?_digitChar small, if_neg (Nat.not_le.mpr several)]

theorem feed?_codeUnit_last {high : Option Nat} {value digit : Nat} (small : digit < 16) :
    feed? ⟨.codeUnit reversed high 1 value, tokens⟩ (Nat.digitChar digit) =
      closeUnit? tokens reversed high (value * 16 + digit) := by
  simp only [feed?, hexValue?_digitChar small, Nat.le_refl, if_true]

/-- Four hexadecimal digits are a code unit. -/
theorem feedAll?_hexDigits {high : Option Nat} {unit : Nat} (small : unit < 0x10000) :
    feedAll? ⟨.codeUnit reversed high 4 0, tokens⟩ (hexDigits 4 unit) =
      closeUnit? tokens reversed high unit := by
  have value : (((0 * 16 + unit / 4096) * 16 + unit / 256 % 16) * 16 + unit / 16 % 16) * 16 +
      unit % 16 = unit := by omega
  rw [hexDigits_four small, feedAll?_cons, feed?_codeUnit_more (by decide) (by omega),
    Option.bind_some, feedAll?_cons, feed?_codeUnit_more (by decide) (by omega),
    Option.bind_some, feedAll?_cons, feed?_codeUnit_more (by decide) (by omega),
    Option.bind_some, feedAll?_cons, feed?_codeUnit_last (by omega), value]
  cases closeUnit? tokens reversed high unit <;> rfl

/-- An escape inside of a string is a code unit of its own. -/
theorem feedAll?_escapedUnit {unit : Nat} (small : unit < 0x10000) :
    feedAll? ⟨.quoted reversed, tokens⟩ (Json.escapedUnit unit) =
      closeUnit? tokens reversed none unit :=
  feedAll?_hexDigits small

/-- After the first half of a pair the next escape is its second half. -/
theorem feedAll?_escapedUnit_afterHigh {high unit : Nat} (small : unit < 0x10000) :
    feedAll? ⟨.afterHigh reversed high, tokens⟩ (Json.escapedUnit unit) =
      closeUnit? tokens reversed (some high) unit :=
  feedAll?_hexDigits small

/-! ### Strings -/

theorem closeUnit?_char {char : Char} (basic : char.toNat < 0x10000) :
    closeUnit? tokens reversed none char.toNat = some ⟨.quoted (char :: reversed), tokens⟩ := by
  have valid : char.toNat < 0xD800 ∨ 0xDFFF < char.toNat ∧ char.toNat < 0x110000 := char.valid
  have notHigh : isHighSurrogate char.toNat = false := by
    simp only [isHighSurrogate, Bool.and_eq_false_iff, decide_eq_false_iff_not]
    omega
  have notLow : isLowSurrogate char.toNat = false := by
    simp only [isLowSurrogate, Bool.and_eq_false_iff, decide_eq_false_iff_not]
    omega
  simp only [closeUnit?, notHigh, notLow, Bool.false_eq_true, if_false, Char.ofNat_toNat]

/-- The two halves of a pair are the character beyond the basic plane. -/
theorem feedAll?_pair {char : Char} (beyond : 0x10000 ≤ char.toNat) :
    feedAll? ⟨.quoted reversed, tokens⟩
        (Json.escapedUnit (0xD800 + (char.toNat - 0x10000) / 0x400) ++
          Json.escapedUnit (0xDC00 + (char.toNat - 0x10000) % 0x400)) =
      some ⟨.quoted (char :: reversed), tokens⟩ := by
  have valid : char.toNat < 0xD800 ∨ 0xDFFF < char.toNat ∧ char.toNat < 0x110000 := char.valid
  have high : isHighSurrogate (0xD800 + (char.toNat - 0x10000) / 0x400) = true := by
    simp only [isHighSurrogate, Bool.and_eq_true, decide_eq_true_eq]
    omega
  have low : isLowSurrogate (0xDC00 + (char.toNat - 0x10000) % 0x400) = true := by
    simp only [isLowSurrogate, Bool.and_eq_true, decide_eq_true_eq]
    omega
  have code : 0x10000 + (0xD800 + (char.toNat - 0x10000) / 0x400 - 0xD800) * 0x400 +
      (0xDC00 + (char.toNat - 0x10000) % 0x400 - 0xDC00) = char.toNat := by omega
  rw [feedAll?_append, feedAll?_escapedUnit (by omega), closeUnit?, if_pos high,
    Option.bind_some, feedAll?_escapedUnit_afterHigh (by omega)]
  simp only [closeUnit?, low, if_true, code, Char.ofNat_toNat]

/-- What is written for a character of a string reads as the character. -/
theorem feedAll?_writeChar (char : Char) :
    feedAll? ⟨.quoted reversed, tokens⟩ (Json.writeChar char) =
      some ⟨.quoted (char :: reversed), tokens⟩ := by
  unfold Json.writeChar
  split
  · rename_i same
    rw [beq_iff_eq.mp same]
    rfl
  rename_i notQuote
  split
  · rename_i same
    rw [beq_iff_eq.mp same]
    rfl
  rename_i notBackslash
  split
  · rename_i same
    rw [beq_iff_eq.mp same]
    rfl
  split
  · rename_i same
    rw [beq_iff_eq.mp same]
    rfl
  split
  · rename_i same
    rw [beq_iff_eq.mp same]
    rfl
  split
  · rename_i same
    rw [beq_iff_eq.mp same]
    rfl
  split
  · rename_i same
    rw [beq_iff_eq.mp same]
    rfl
  split
  · rename_i printable
    rw [feedAll?_cons]
    simp only [feed?, notQuote, notBackslash, Nat.not_lt.mpr printable.1, Bool.false_eq_true,
      if_false, Option.bind_some, feedAll?_nil]
  split
  · rename_i basic
    rw [feedAll?_escapedUnit basic, closeUnit?_char basic]
  · rename_i beyond
    exact feedAll?_pair (Nat.not_lt.mp beyond)

theorem feedAll?_flatMap_writeChar (text : List Char) :
    feedAll? ⟨.quoted reversed, tokens⟩ (text.flatMap Json.writeChar) =
      some ⟨.quoted (text.reverse ++ reversed), tokens⟩ := by
  induction text generalizing reversed with
  | nil => rfl
  | cons char rest inductionHypothesis =>
    rw [List.flatMap_cons, feedAll?_append, feedAll?_writeChar, Option.bind_some,
      inductionHypothesis]
    simp

/-- The text of a string reads as the string. -/
theorem feedAll?_writeText (text : String) :
    feedAll? ⟨.between, tokens⟩ (Json.writeText text) =
      some ⟨.between, .scalar (.text text) :: tokens⟩ := by
  have opened : feed? ⟨.between, tokens⟩ '"' = some ⟨.quoted [], tokens⟩ := rfl
  rw [Json.writeText, List.cons_append, feedAll?_cons, opened, Option.bind_some, feedAll?_append,
    feedAll?_flatMap_writeChar, Option.bind_some, feedAll?_cons]
  simp [feed?, feedAll?_nil]

end Lexer

/-! ### Numbers -/

theorem isWordChar_of_isDigit {char : Char} (digit : char.isDigit = true) :
    isWordChar char = true := by
  simp [isWordChar, Char.isAlphanum, digit]

theorem isWordChar_text {literal : NumberLiteral} (onlyDigits : literal.OnlyDigits)
    (negative : Bool) :
    ∀ char ∈ NumberLiteral.signText negative ++ literal.text, isWordChar char = true := by
  have exponents : ∀ (exponent : Int), ∀ char ∈ exponentText exponent, isWordChar char = true := by
    intro exponent char member
    rcases List.mem_cons.mp member with sign | member
    · rw [sign]
      split <;> decide
    · have digits : ∀ char ∈ Nat.toDigits 10 exponent.natAbs, isWordChar char = true :=
        fun char member => isWordChar_of_isDigit (isDigit_of_mem_toDigits member)
      split at member
      · rcases List.mem_cons.mp member with zero | member
        · rw [zero]
          decide
        · exact digits char member
      · exact digits char member
  intro char member
  rcases List.mem_append.mp member with sign | member
  · cases negative with
    | false => cases sign
    | true =>
      rw [List.mem_singleton.mp sign]
      decide
  rcases List.mem_append.mp member with member | exponent
  · rcases List.mem_append.mp member with whole | fraction
    · exact isWordChar_of_isDigit (onlyDigits.1 char whole)
    · cases found : literal.fraction with
      | none =>
        rw [found] at fraction
        cases fraction
      | some digits =>
        rw [found] at fraction
        rcases List.mem_cons.mp fraction with point | fraction
        · rw [point]
          decide
        · exact isWordChar_of_isDigit (onlyDigits.2 digits found char fraction)
  · cases found : literal.exponent with
    | none =>
      rw [found] at exponent
      cases exponent
    | some value =>
      rw [found] at exponent
      rcases List.mem_cons.mp exponent with mark | exponent
      · rw [mark]
        decide
      · exact exponents value char exponent

/-- A number is none of the words that are names, since a digit comes first in it. -/
theorem readWord?_text {literal : NumberLiteral} (spelled : literal.IsSpelled)
    (negative : Bool) :
    readWord? (NumberLiteral.signText negative ++ literal.text) =
      (readNumeral? (NumberLiteral.signText negative ++ literal.text)).map Numeral.toScalar := by
  obtain ⟨first, after, begins, digit⟩ := spelled.text_eq_cons
  have unsigned : (splitSign (NumberLiteral.signText negative ++ literal.text)).2.head? =
      some first := by
    rw [spelled.splitSign_text, begins]
    rfl
  have names : ∀ name : List Char, (splitSign name).2.head?.any Char.isDigit = false →
      (NumberLiteral.signText negative ++ literal.text == name) = false := by
    intro name noDigit
    rw [beq_eq_false_iff_ne]
    rintro rfl
    rw [unsigned, Option.any_some, digit] at noDigit
    cases noDigit
  unfold readWord?
  rw [names "null".toList (by decide), names "true".toList (by decide),
    names "false".toList (by decide), names "NaN".toList (by decide),
    names "Infinity".toList (by decide), names "-Infinity".toList (by decide)]
  rfl

end Token

/-! ### The tokens of a value -/

namespace Json

mutual

/-- The tokens of a value. -/
def tokens : Json → List Token
  | .null => [.scalar .null]
  | .bool value => [.scalar (.bool value)]
  | .int value => [.scalar (.int value)]
  | .float value => [.scalar (.float value)]
  | .str text => [.scalar (.text text)]
  | .arr [] => [.openArray, .closeArray]
  | .arr (item :: rest) => .openArray :: tokens item ++ itemTokens rest ++ [.closeArray]
  | .obj [] => [.openObject, .closeObject]
  | .obj ((name, value) :: rest) =>
    .openObject :: .scalar (.text name) :: .colon :: tokens value ++ memberTokens rest ++
      [.closeObject]

/-- The tokens of the further items of an array. -/
def itemTokens : List Json → List Token
  | [] => []
  | item :: rest => .comma :: tokens item ++ itemTokens rest

/-- The tokens of the further members of an object. -/
def memberTokens : List (String × Json) → List Token
  | [] => []
  | (name, value) :: rest =>
    .comma :: .scalar (.text name) :: .colon :: tokens value ++ memberTokens rest

end

/-- Whether a layout adds nothing but blanks and line breaks. -/
def Layout.Blank : Layout → Prop
  | .line => True
  | .lines unit => ∀ char ∈ unit, Token.isSeparator char = true

theorem Layout.blank_ofIndent (indent : Option Int) : (Layout.ofIndent indent).Blank := by
  cases indent with
  | none => trivial
  | some indent =>
    intro char member
    rw [List.eq_of_mem_replicate member]
    decide

theorem Layout.isSeparator_of_mem_edge {layout : Layout} (blank : layout.Blank) (level : Nat) :
    ∀ char ∈ layout.edge level, Token.isSeparator char = true := by
  cases layout with
  | line => exact fun _ none => by cases none
  | lines unit =>
    intro char member
    rcases List.mem_cons.mp member with feed | indent
    · rw [feed]
      decide
    · obtain ⟨copy, copies, inside⟩ := List.mem_flatten.mp indent
      exact blank char (List.eq_of_mem_replicate copies ▸ inside)

/-- Between two parts stands a comma with blanks after it. -/
theorem Layout.separator_eq {layout : Layout} (blank : layout.Blank) (level : Nat) :
    ∃ blanks, layout.separator level = ',' :: blanks ∧
      ∀ char ∈ blanks, Token.isSeparator char = true := by
  cases layout with
  | line => exact ⟨[' '], rfl, List.forall_mem_singleton.mpr rfl⟩
  | lines unit =>
    exact ⟨_, rfl, @isSeparator_of_mem_edge (.lines unit) blank level⟩

end Json

/-! ### Cutting the text of a value -/

namespace Token

/-- Whether a text, begun between two tokens, is cut into the given tokens. -/
def Cuts (text : List Char) (found : List Token) : Prop :=
  ∀ before : List Token, ∃ next, Lexer.feedAll? ⟨.between, before⟩ text = some next ∧
    next.settled? = some (found.reverse ++ before)

/-- Whether a text, begun after a token, is cut into the given tokens. -/
def CutsAfter (text : List Char) (found : List Token) : Prop :=
  ∀ (lexer : Lexer) (before : List Token), lexer.settled? = some before →
    ∃ next, lexer.feedAll? text = some next ∧ next.settled? = some (found.reverse ++ before)

theorem CutsAfter.append {first second : List Char} {found found' : List Token}
    (cuts : CutsAfter first found) (cuts' : CutsAfter second found') :
    CutsAfter (first ++ second) (found ++ found') := by
  intro lexer before settled
  obtain ⟨between, fed, settledBetween⟩ := cuts lexer before settled
  obtain ⟨next, fed', settledNext⟩ := cuts' between _ settledBetween
  refine ⟨next, ?_, ?_⟩
  · rw [Lexer.feedAll?_append, fed, Option.bind_some, fed']
  · rw [settledNext, List.reverse_append, List.append_assoc]

theorem Cuts.append {first second : List Char} {found found' : List Token}
    (cuts : Cuts first found) (cuts' : CutsAfter second found') :
    Cuts (first ++ second) (found ++ found') := by
  intro before
  obtain ⟨between, fed, settledBetween⟩ := cuts before
  obtain ⟨next, fed', settledNext⟩ := cuts' between _ settledBetween
  refine ⟨next, ?_, ?_⟩
  · rw [Lexer.feedAll?_append, fed, Option.bind_some, fed']
  · rw [settledNext, List.reverse_append, List.append_assoc]

theorem cutsAfter_nil : CutsAfter [] [] :=
  fun lexer _ settled => ⟨lexer, rfl, settled⟩

/-- Blanks and a mark of punctuation. -/
theorem cutsAfter_blanks_punctuation (blanks : List Char) (char : Char) {token : Token}
    (onlyBlanks : ∀ char ∈ blanks, isSeparator char = true)
    (mark : punctuation? char = some token) : CutsAfter (blanks ++ [char]) [token] :=
  fun _ _ settled => ⟨_, Lexer.feedAll?_blanks_punctuation settled onlyBlanks mark, rfl⟩

/-- A mark of punctuation and blanks, followed by a text that begins between two tokens. -/
theorem Cuts.after_punctuation {text : List Char} {found : List Token} (cuts : Cuts text found)
    (char : Char) (blanks : List Char) {token : Token} (mark : punctuation? char = some token)
    (onlyBlanks : ∀ char ∈ blanks, isSeparator char = true) :
    CutsAfter (char :: blanks ++ text) (token :: found) := by
  intro lexer before settled
  obtain ⟨next, fed, settledNext⟩ := cuts (token :: before)
  refine ⟨next, ?_, ?_⟩
  · rw [Lexer.feedAll?_append, Lexer.feedAll?_punctuation_blanks settled mark onlyBlanks,
      Option.bind_some, fed]
  · rw [settledNext, List.reverse_cons, List.append_assoc]
    rfl

theorem CutsAfter.cuts {text : List Char} {found : List Token} (cuts : CutsAfter text found) :
    Cuts text found :=
  fun before => cuts ⟨.between, before⟩ before rfl

theorem cuts_word {word : List Char} {value : Scalar} (nonempty : word ≠ [])
    (onlyWord : ∀ char ∈ word, isWordChar char = true) (reads : readWord? word = some value) :
    Cuts word [.scalar value] :=
  fun _ => Lexer.feedAll?_scalar nonempty onlyWord reads

/-- A word that is the name of a scalar. -/
theorem cuts_name (name : String) {value : Scalar} (reads : readWord? name.toList = some value)
    (nonempty : name.toList ≠ []) (onlyWord : name.toList.all isWordChar = true) :
    Cuts name.toList [.scalar value] :=
  cuts_word nonempty (List.all_eq_true.mp onlyWord) reads

theorem cuts_writeText (text : String) : Cuts (Json.writeText text) [.scalar (.text text)] :=
  fun _ => ⟨_, Lexer.feedAll?_writeText text, rfl⟩

/-- A number, written without blanks, is cut into what it denotes. -/
theorem cuts_text {literal : NumberLiteral} (numeral : literal.IsNumeral) {negative : Bool}
    {value : Numeral}
    (reads : readNumeral? (NumberLiteral.signText negative ++ literal.text) = some value) :
    Cuts (NumberLiteral.signText negative ++ literal.text) [.scalar value.toScalar] := by
  refine cuts_word ?_ (isWordChar_text numeral.onlyDigits negative) ?_
  · obtain ⟨first, after, begins, _⟩ := numeral.text_eq_cons
    rw [begins]
    exact List.append_ne_nil_of_right_ne_nil _ (List.cons_ne_nil _ _)
  · rw [readWord?_text numeral.toIsSpelled, reads, Option.map_some]

theorem cuts_decimalText {value : Int}
    (short : Binary64.decimalWidth value.natAbs ≤ digitLimit) :
    Cuts (decimalText value) [.scalar (.int value)] := by
  have reads := readNumeral?_decimalText short
  rw [decimalText_eq] at reads ⊢
  exact cuts_text (NumberLiteral.isNumeral_ofWhole short) reads

theorem cuts_floatText (value : Binary64) :
    Cuts (value.text Json.numberNames) [.scalar (.float value)] := by
  cases value with
  | nan => exact cuts_name "NaN" rfl (by decide) (by decide)
  | infinite negative =>
    cases negative with
    | false => exact cuts_name "Infinity" rfl (by decide) (by decide)
    | true => exact cuts_name "-Infinity" rfl (by decide) (by decide)
  | finite negative quanta representable =>
    obtain ⟨literal, written, numeral, real, value⟩ :=
      Binary64.text_finite Json.numberNames negative quanta representable
    have reads : readNumeral? (NumberLiteral.signText negative ++ literal.text) =
        some (.real (.finite negative quanta representable)) := by
      rw [NumberLiteral.readNumeral?_text numeral, real, if_neg Bool.false_ne_true, value]
    rw [written]
    exact cuts_text numeral reads

/-! ### Arrays and objects -/

variable {layout : Json.Layout}

theorem cutsAfter_separator (blank : layout.Blank) (level : Nat) {text : List Char}
    {found : List Token} (cuts : Cuts text found) :
    CutsAfter (layout.separator level ++ text) (.comma :: found) := by
  obtain ⟨blanks, written, onlyBlanks⟩ := Json.Layout.separator_eq blank level
  rw [written]
  exact cuts.after_punctuation ',' blanks rfl onlyBlanks

/-- A name, the colon and a value. -/
theorem cuts_member (name : String) {text : List Char} {found : List Token}
    (cuts : Cuts text found) :
    Cuts (Json.writeText name ++ ([':', ' '] ++ text))
      (.scalar (.text name) :: .colon :: found) :=
  (cuts_writeText name).append
    (cuts.after_punctuation ':' [' '] rfl (List.forall_mem_singleton.mpr rfl))

theorem cutsAfter_writeItems (blank : layout.Blank) (level : Nat) {items : List Json}
    (cuts : ∀ item ∈ items, Cuts (item.writeAt layout level) item.tokens) :
    CutsAfter (Json.writeItems layout level items) (Json.itemTokens items) := by
  induction items with
  | nil => exact cutsAfter_nil
  | cons item rest inductionHypothesis =>
    rw [Json.writeItems, Json.itemTokens]
    exact (cutsAfter_separator blank level (cuts item List.mem_cons_self)).append
      (inductionHypothesis fun item member => cuts item (List.mem_cons_of_mem _ member))

theorem cutsAfter_writeMembers (blank : layout.Blank) (level : Nat)
    {members : List (String × Json)}
    (cuts : ∀ member ∈ members, Cuts (member.2.writeAt layout level) member.2.tokens) :
    CutsAfter (Json.writeMembers layout level members) (Json.memberTokens members) := by
  induction members with
  | nil => exact cutsAfter_nil
  | cons member rest inductionHypothesis =>
    obtain ⟨name, value⟩ := member
    have first := cutsAfter_separator blank level
      (cuts_member name (cuts (name, value) List.mem_cons_self))
    have others := inductionHypothesis fun member later =>
      cuts member (List.mem_cons_of_mem _ later)
    rw [Json.writeMembers, Json.memberTokens]
    simpa only [List.append_assoc, List.cons_append] using first.append others

/-- The text of a value is cut into its tokens. -/
theorem cuts_writeAt (blank : layout.Blank) (value : Json) (legible : value.Legible)
    (level : Nat) : Cuts (value.writeAt layout level) value.tokens := by
  induction value using Json.induction generalizing level with
  | null => exact cuts_name "null" rfl (by decide) (by decide)
  | bool value =>
    cases value with
    | false => exact cuts_name "false" rfl (by decide) (by decide)
    | true => exact cuts_name "true" rfl (by decide) (by decide)
  | int value => exact cuts_decimalText (Json.legible_int.mp legible)
  | float value => exact cuts_floatText value
  | str text => exact cuts_writeText text
  | arr items inductionHypothesis =>
    have closing : CutsAfter (layout.edge level ++ [']']) [.closeArray] :=
      cutsAfter_blanks_punctuation _ ']' (Json.Layout.isSeparator_of_mem_edge blank level) rfl
    cases items with
    | nil =>
      have empty : CutsAfter [']'] [.closeArray] :=
        cutsAfter_blanks_punctuation [] ']' (by simp) rfl
      exact (empty.cuts.after_punctuation '[' [] rfl (by simp)).cuts
    | cons item rest =>
      have each : ∀ item' ∈ item :: rest,
          Cuts (item'.writeAt layout (level + 1)) item'.tokens := fun item' member =>
        inductionHypothesis item' member (Json.legible_arr.mp legible item' member) (level + 1)
      have first := (each item List.mem_cons_self).after_punctuation '[' _ rfl
        (Json.Layout.isSeparator_of_mem_edge blank (level + 1))
      have others := cutsAfter_writeItems blank (level + 1)
        fun item' member => each item' (List.mem_cons_of_mem _ member)
      have whole := (first.append others).append closing
      rw [Json.writeAt, Json.tokens]
      simpa only [List.append_assoc, List.cons_append] using whole.cuts
  | obj members inductionHypothesis =>
    have closing : CutsAfter (layout.edge level ++ ['\x7d']) [.closeObject] :=
      cutsAfter_blanks_punctuation _ '\x7d' (Json.Layout.isSeparator_of_mem_edge blank level) rfl
    cases members with
    | nil =>
      have empty : CutsAfter ['\x7d'] [.closeObject] :=
        cutsAfter_blanks_punctuation [] '\x7d' (by simp) rfl
      exact (empty.cuts.after_punctuation '\x7b' [] rfl (by simp)).cuts
    | cons member rest =>
      obtain ⟨name, value⟩ := member
      have each : ∀ member ∈ (name, value) :: rest,
          Cuts (member.2.writeAt layout (level + 1)) member.2.tokens := fun member inside =>
        inductionHypothesis member inside (Json.legible_obj.mp legible member inside) (level + 1)
      have first := (cuts_member name (each (name, value) List.mem_cons_self)).after_punctuation
        '\x7b' _ rfl (Json.Layout.isSeparator_of_mem_edge blank (level + 1))
      have others := cutsAfter_writeMembers blank (level + 1)
        fun member inside => each member (List.mem_cons_of_mem _ inside)
      have whole := (first.append others).append closing
      rw [Json.writeAt, Json.tokens]
      simpa only [List.append_assoc, List.cons_append] using whole.cuts

/-- Cutting the text of a value gives its tokens. -/
theorem scan?_writeAt (blank : layout.Blank) {value : Json} (legible : value.Legible) :
    scan? (value.writeAt layout 0) = some value.tokens := by
  obtain ⟨next, fed, settled⟩ := cuts_writeAt blank value legible 0 []
  have run : (value.writeAt layout 0).foldlM Lexer.feed? ⟨.between, []⟩ = some next := fed
  simp only [scan?, run, Lexer.finish?_eq, settled, Option.map_some, List.append_nil,
    List.reverse_reverse]

end Token

end Formwork
