/-
This file proves that numbers read back from their text. A whole number is
written in full and reads as itself; a double is written by its shortest digits
and reads as the same double, down to the sign of zero.

Both directions meet in the literal, the parts that a number in text is cut into:
a literal has a text, cutting the text gives the literal, and the layouts of a
double are the texts of literals with one and the same value.
-/

import Formwork.Number.Literal
import Formwork.Proofs.Number.Rounding

namespace Formwork

/-! ### The text of a literal -/

namespace NumberLiteral

/-- The text of a literal. -/
def text (literal : NumberLiteral) : List Char :=
  literal.whole ++
    (match literal.fraction with | some fraction => '.' :: fraction | none => []) ++
    (match literal.exponent with | some exponent => 'e' :: exponentText exponent | none => [])

/-- Whether whole part and fraction hold digits only. -/
def OnlyDigits (literal : NumberLiteral) : Prop :=
  (∀ char ∈ literal.whole, char.isDigit = true) ∧
    ∀ fraction, literal.fraction = some fraction → ∀ char ∈ fraction, char.isDigit = true

end NumberLiteral

theorem isDigit_of_mem_toDigits {value : Nat} {char : Char}
    (member : char ∈ Nat.toDigits 10 value) : char.isDigit = true :=
  Nat.isDigit_of_mem_toDigits (by decide) (by decide) member

theorem digitsValue_toDigits (value : Nat) : digitsValue (Nat.toDigits 10 value) = value :=
  Nat.ofDigitChars_ten_toDigits

theorem digitsValue_zero_cons (digits : List Char) :
    digitsValue ('0' :: digits) = digitsValue digits := by
  rw [digitsValue, Nat.ofDigitChars_cons]
  rfl

theorem digitsValue_zeros_append (count : Nat) (digits : List Char) :
    digitsValue (List.replicate count '0' ++ digits) = digitsValue digits := by
  rw [digitsValue, Nat.ofDigitChars_append, Nat.ofDigitChars_replicate_zero, Nat.mul_zero,
    digitsValue]

theorem digitsValue_append_zeros (digits : List Char) (count : Nat) :
    digitsValue (digits ++ List.replicate count '0') = digitsValue digits * Nat.pow 10 count := by
  rw [digitsValue, Nat.ofDigitChars_append, Nat.ofDigitChars_replicate_zero, Nat.mul_comm,
    digitsValue]
  rfl

theorem splitSign_of_isDigit {first : Char} (digit : first.isDigit = true) (rest : List Char) :
    splitSign (first :: rest) = (none, first :: rest) := by
  unfold splitSign
  split
  · rename_i same
    cases same
    exact absurd digit (by decide)
  · rename_i same
    cases same
    exact absurd digit (by decide)
  · rfl

theorem scanExponent?_exponentText (exponent : Int) :
    scanExponent? (exponentText exponent) = some exponent := by
  have digits : ∀ char ∈ Nat.toDigits 10 exponent.natAbs, char.isDigit = true :=
    fun _ member => isDigit_of_mem_toDigits member
  -- Padding to two digits changes neither that these are digits nor their value.
  have padded : ∃ text, text ≠ [] ∧ (∀ char ∈ text, char.isDigit = true) ∧
      digitsValue text = exponent.natAbs ∧
      exponentText exponent = (if exponent < 0 then '-' else '+') :: text := by
    by_cases short : (Nat.toDigits 10 exponent.natAbs).length < 2
    · refine ⟨'0' :: Nat.toDigits 10 exponent.natAbs, by simp, ?_, ?_, ?_⟩
      · intro char member
        rcases List.mem_cons.mp member with same | member
        · rw [same]
          rfl
        · exact digits char member
      · rw [digitsValue_zero_cons, digitsValue_toDigits]
      · simp only [exponentText, if_pos short]
    · refine ⟨Nat.toDigits 10 exponent.natAbs, Nat.toDigits_ne_nil, digits,
        digitsValue_toDigits _, ?_⟩
      simp only [exponentText, if_neg short]
  obtain ⟨text, nonempty, onlyDigits, value, written⟩ := padded
  have allDigits : text.all Char.isDigit = true := List.all_eq_true.mpr onlyDigits
  have notEmpty : text.isEmpty = false := by simpa using nonempty
  rw [written]
  by_cases negative : exponent < 0
  · have read : scanExponent? ('-' :: text) = some (-(digitsValue text : Int)) := by
      simp [scanExponent?, splitSign, allDigits, notEmpty]
    have same : -(exponent.natAbs : Int) = exponent := by omega
    rw [if_pos negative, read, value, same]
  · have read : scanExponent? ('+' :: text) = some (digitsValue text : Int) := by
      simp [scanExponent?, splitSign, allDigits, notEmpty]
    have same : (exponent.natAbs : Int) = exponent := by omega
    rw [if_neg negative, read, value, same]

namespace NumberLiteral

/-- Cutting the text of a literal gives the literal. -/
theorem scan?_text {literal : NumberLiteral} (onlyDigits : literal.OnlyDigits) :
    scan? literal.text = some literal := by
  obtain ⟨whole, fraction, exponent⟩ := literal
  obtain ⟨wholeDigits, fractionDigits⟩ := onlyDigits
  simp only at wholeDigits fractionDigits
  have takeWhole : ∀ tail : List Char, (∀ char ∈ tail.head?, char.isDigit = false) →
      (whole ++ tail).takeWhile Char.isDigit = whole ∧
        (whole ++ tail).dropWhile Char.isDigit = tail := by
    intro tail stops
    rw [List.takeWhile_append_of_pos wholeDigits, List.dropWhile_append_of_pos wholeDigits]
    cases tail with
    | nil => simp
    | cons first rest =>
      have stop : first.isDigit = false := stops first (by simp)
      simp [stop]
  cases fraction with
  | none =>
    cases exponent with
    | none =>
      obtain ⟨taken, dropped⟩ := takeWhole [] (by simp)
      simp only [List.append_nil] at taken dropped
      simp [scan?, text, taken, dropped, scanFraction]
    | some exponent =>
      obtain ⟨taken, dropped⟩ := takeWhole ('e' :: exponentText exponent) (by simp)
      simp [scan?, text, taken, dropped, scanFraction, scanExponent?_exponentText]
  | some fraction =>
    have digits := fractionDigits fraction rfl
    cases exponent with
    | none =>
      obtain ⟨taken, dropped⟩ := takeWhole ('.' :: fraction) (by simp)
      have all := @List.takeWhile_append_of_pos _ _ _ [] digits
      have nothing := @List.dropWhile_append_of_pos _ _ _ [] digits
      simp only [List.append_nil, List.takeWhile_nil, List.dropWhile_nil] at all nothing
      simp [scan?, text, taken, dropped, scanFraction, all, nothing]
    | some exponent =>
      obtain ⟨taken, dropped⟩ := takeWhole ('.' :: fraction ++ 'e' :: exponentText exponent)
        (by simp)
      have stop : ('e' : Char).isDigit = false := by decide
      simp only [List.cons_append] at taken dropped
      simp [scan?, text, taken, dropped, scanFraction, List.takeWhile_append_of_pos digits,
        List.dropWhile_append_of_pos digits, stop, scanExponent?_exponentText]

/-- Whether whole part and fraction hold digits only, and the whole part holds some. -/
structure IsSpelled (literal : NumberLiteral) : Prop where
  onlyDigits : literal.OnlyDigits
  wholeNonempty : literal.whole ≠ []

/-- Whether the text of a literal, with or without a minus sign, is a number of a document. -/
structure IsNumeral (literal : NumberLiteral) : Prop extends literal.IsSpelled where
  fractionNonempty : literal.fraction ≠ some []
  noLeadingZero : literal.whole.head? = some '0' → literal.whole.length = 1
  wholeLength : literal.whole.length ≤ digitLimit

/-- The minus sign of a negative number. -/
def signText (negative : Bool) : List Char := if negative then ['-'] else []

/-- A number begins with a digit. -/
theorem IsSpelled.text_eq_cons {literal : NumberLiteral} (spelled : literal.IsSpelled) :
    ∃ first after, literal.text = first :: after ∧ first.isDigit = true := by
  obtain ⟨first, rest, whole⟩ := List.exists_cons_of_ne_nil spelled.wholeNonempty
  have digit : first.isDigit = true := spelled.onlyDigits.1 first (by rw [whole]; simp)
  unfold text
  rw [whole]
  exact ⟨first, _, rfl, digit⟩

theorem IsSpelled.splitSign_text {literal : NumberLiteral} (spelled : literal.IsSpelled)
    (negative : Bool) :
    splitSign (signText negative ++ literal.text) =
      (if negative then some '-' else none, literal.text) := by
  cases negative with
  | true => rfl
  | false =>
    obtain ⟨first, after, begins, digit⟩ := spelled.text_eq_cons
    rw [signText, if_neg Bool.false_ne_true, List.nil_append, begins,
      splitSign_of_isDigit digit]
    rfl

theorem readNumeral?_text {literal : NumberLiteral} (numeral : literal.IsNumeral)
    (negative : Bool) :
    readNumeral? (signText negative ++ literal.text) =
      some (if literal.isWhole then
        .whole (if negative then -(digitsValue literal.whole : Int)
          else digitsValue literal.whole)
      else .real (literal.toBinary64 negative)) := by
  have accepted : ((if negative then some '-' else none) == some '+' ||
      literal.whole.isEmpty || literal.fraction == some [] ||
      (literal.whole.head? == some '0' && literal.whole.length != 1) ||
      decide (digitLimit < literal.whole.length)) = false := by
    have sign : ((if negative then some '-' else none) == some '+') = false := by
      cases negative <;> rfl
    have nonempty : literal.whole.isEmpty = false := by simpa using numeral.wholeNonempty
    have fraction : (literal.fraction == some []) = false :=
      beq_eq_false_iff_ne.mpr numeral.fractionNonempty
    have leading : (literal.whole.head? == some '0' && literal.whole.length != 1) = false := by
      by_cases zero : literal.whole.head? = some '0'
      · simp [numeral.noLeadingZero zero]
      · simp [zero]
    have short : decide (digitLimit < literal.whole.length) = false :=
      decide_eq_false (Nat.not_lt.mpr numeral.wholeLength)
    rw [sign, nonempty, fraction, leading, short]
    rfl
  unfold readNumeral?
  rw [numeral.splitSign_text]
  simp only [scan?_text numeral.onlyDigits, accepted, Bool.false_eq_true, if_false]
  cases negative <;> cases literal.isWhole <;> simp

/-- A number with too many digits before its point is refused. -/
theorem readNumeral?_text_of_lt {literal : NumberLiteral} (spelled : literal.IsSpelled)
    (long : digitLimit < literal.whole.length) (negative : Bool) :
    readNumeral? (signText negative ++ literal.text) = none := by
  unfold readNumeral?
  rw [spelled.splitSign_text]
  simp only [scan?_text spelled.onlyDigits, decide_eq_true long, Bool.or_true, if_true]

/-- The literal that a whole number is written as, apart from its sign. -/
def ofWhole (value : Int) : NumberLiteral := ⟨Nat.toDigits 10 value.natAbs, none, none⟩

end NumberLiteral

/-! ### Whole numbers -/

/-- Apart from zero no number is written with a leading zero. -/
theorem head?_toDigits {value : Nat} (positive : 0 < value) :
    (Nat.toDigits 10 value).head? ≠ some '0' := by
  induction value using Nat.strongRecOn with
  | ind value inductionHypothesis =>
    by_cases small : value < 10
    · rw [Nat.toDigits_of_lt_base small]
      have digits : ∀ digit < 10, 0 < digit → [Nat.digitChar digit].head? ≠ some '0' := by decide
      exact digits value small positive
    · rw [Nat.toDigits_of_base_le (by decide) (Nat.le_of_not_lt small), List.head?_append]
      have shorter := inductionHypothesis (value / 10) (by omega) (by omega)
      cases found : (Nat.toDigits 10 (value / 10)).head? with
      | none => exact absurd (List.head?_eq_none_iff.mp found) Nat.toDigits_ne_nil
      | some first =>
        rw [found] at shorter
        exact shorter

theorem decimalText_eq (value : Int) :
    decimalText value =
      NumberLiteral.signText (decide (value < 0)) ++ (NumberLiteral.ofWhole value).text := by
  unfold decimalText NumberLiteral.signText NumberLiteral.text NumberLiteral.ofWhole
  by_cases negative : value < 0 <;> simp [negative]

theorem NumberLiteral.isSpelled_ofWhole (value : Int) : (ofWhole value).IsSpelled where
  onlyDigits := ⟨fun _ member => isDigit_of_mem_toDigits member, fun _ absent => by cases absent⟩
  wholeNonempty := Nat.toDigits_ne_nil

theorem NumberLiteral.isNumeral_ofWhole {value : Int}
    (short : Binary64.decimalWidth value.natAbs ≤ digitLimit) : (ofWhole value).IsNumeral where
  toIsSpelled := isSpelled_ofWhole value
  fractionNonempty := by simp [ofWhole]
  noLeadingZero := by
    intro zero
    by_cases positive : 0 < value.natAbs
    · exact absurd zero (head?_toDigits positive)
    · have none : value.natAbs = 0 := by omega
      simp [ofWhole, none]
  wholeLength := short

/-- A whole number that has no more digits than a document may have reads as itself. -/
theorem readNumeral?_decimalText {value : Int}
    (short : Binary64.decimalWidth value.natAbs ≤ digitLimit) :
    readNumeral? (decimalText value) = some (.whole value) := by
  rw [decimalText_eq, NumberLiteral.readNumeral?_text (NumberLiteral.isNumeral_ofWhole short)]
  simp only [NumberLiteral.isWhole, NumberLiteral.ofWhole, Option.isNone_none, Bool.and_self,
    if_true, digitsValue_toDigits]
  by_cases negative : value < 0
  · simp only [negative, decide_true, if_true]
    congr 2
    omega
  · simp only [negative, decide_false, Bool.false_eq_true, if_false]
    congr 2
    omega

/-! ### Doubles -/

/-- The digits without their trailing zeros, and the zeros. -/
theorem dropTrailingZeros_append (digits : List Char) :
    ∃ count, dropTrailingZeros digits ++ List.replicate count '0' = digits := by
  refine ⟨(digits.reverse.takeWhile (· == '0')).length, ?_⟩
  have zeros : digits.reverse.takeWhile (· == '0') =
      List.replicate (digits.reverse.takeWhile (· == '0')).length '0' := by
    refine List.eq_replicate_iff.mpr ⟨rfl, fun char member => ?_⟩
    exact beq_iff_eq.mp (List.all_eq_true.mp List.all_takeWhile char member)
  rw [dropTrailingZeros, ← List.reverse_inj, List.reverse_append, List.reverse_reverse,
    List.reverse_replicate, ← zeros]
  exact List.takeWhile_append_dropWhile

/-- The digits of a positive number without the trailing zeros: there is one, none of them leads
with a zero, and with the zeros they have the length and the value of the number. -/
theorem dropTrailingZeros_toDigits {value : Nat} (positive : 0 < value) {digits : List Char}
    (stripped : dropTrailingZeros (Nat.toDigits 10 value) = digits) :
    digits ≠ [] ∧ (∀ char ∈ digits, char.isDigit = true) ∧ digits.head? ≠ some '0' ∧
      ∃ count, (Nat.toDigits 10 value).length = digits.length + count ∧
        digitsValue digits * Nat.pow 10 count = value := by
  obtain ⟨count, withZeros⟩ := dropTrailingZeros_append (Nat.toDigits 10 value)
  rw [stripped] at withZeros
  have leadingFull := head?_toDigits positive
  refine ⟨?_, ?_, ?_, count, ?_, ?_⟩
  · rintro rfl
    cases count with
    | zero => exact Nat.toDigits_ne_nil withZeros.symm
    | succ count =>
      rw [← withZeros, List.nil_append, List.replicate_succ] at leadingFull
      exact leadingFull rfl
  · intro char member
    have among : char ∈ Nat.toDigits 10 value := by
      rw [← withZeros]
      exact List.mem_append_left _ member
    exact isDigit_of_mem_toDigits among
  · intro found
    rw [← withZeros, List.head?_append, found] at leadingFull
    exact leadingFull rfl
  · rw [← withZeros, List.length_append, List.length_replicate]
  · rw [← digitsValue_append_zeros, withZeros, digitsValue_toDigits]

namespace NumberLiteral

/-- The literal that digits with a leading exponent are written as. -/
def ofDigits (digits : List Char) (exponent : Int) : NumberLiteral :=
  if exponent < -4 ∨ 16 ≤ exponent then
    ⟨digits.take 1, if (digits.drop 1).isEmpty then none else some (digits.drop 1), some exponent⟩
  else if exponent < 0 then
    ⟨['0'], some (List.replicate (-exponent - 1).toNat '0' ++ digits), none⟩
  else
    let count := exponent.toNat + 1
    ⟨digits.take count ++ List.replicate (count - (digits.take count).length) '0',
      some (if (digits.drop count).isEmpty then ['0'] else digits.drop count), none⟩

theorem layoutDigits_eq {digits : List Char} (nonempty : digits ≠ []) (exponent : Int) :
    layoutDigits digits exponent = (ofDigits digits exponent).text := by
  unfold layoutDigits ofDigits text
  by_cases scientific : exponent < -4 ∨ 16 ≤ exponent
  · rw [if_pos scientific, if_pos scientific]
    obtain ⟨first, rest, rfl⟩ := List.exists_cons_of_ne_nil nonempty
    cases rest <;> simp
  · rw [if_neg scientific, if_neg scientific]
    by_cases small : exponent < 0
    · simp [if_pos small]
    · simp [if_neg small]

/-- Whatever the layout, the value is that of the digits with the last one at its place. -/
theorem toBinary64_ofDigits {digits : List Char} (nonempty : digits ≠ []) (exponent : Int)
    (negative : Bool) :
    (ofDigits digits exponent).toBinary64 negative =
      Binary64.ofDecimal negative (digitsValue digits) (exponent + 1 - digits.length) := by
  unfold ofDigits toBinary64
  by_cases scientific : exponent < -4 ∨ 16 ≤ exponent
  · rw [if_pos scientific]
    obtain ⟨first, rest, rfl⟩ := List.exists_cons_of_ne_nil nonempty
    cases rest with
    | nil => simp
    | cons second rest =>
      simp only [List.take_succ_cons, List.take_zero, List.drop_succ_cons, List.drop_zero,
        List.isEmpty_cons, Bool.false_eq_true, if_false, Option.getD_some, List.length_cons,
        List.cons_append, List.nil_append]
      congr 1
      omega
  rw [if_neg scientific]
  by_cases small : exponent < 0
  · rw [if_pos small]
    simp only [Option.getD_some, Option.getD_none, List.cons_append, List.nil_append,
      digitsValue_zero_cons, digitsValue_zeros_append, List.length_append, List.length_replicate]
    congr 1
    omega
  rw [if_neg small]
  by_cases long : exponent.toNat + 1 < digits.length
  · have rest : (digits.drop (exponent.toNat + 1)).isEmpty = false := by
      simp only [List.isEmpty_eq_false_iff, ne_eq, List.drop_eq_nil_iff]
      omega
    have full : (digits.take (exponent.toNat + 1)).length = exponent.toNat + 1 := by
      rw [List.length_take]
      omega
    simp only [rest, full, Nat.sub_self, List.replicate_zero, List.append_nil, Bool.false_eq_true,
      if_false, Option.getD_some, Option.getD_none, List.take_append_drop, List.length_drop]
    congr 1
    omega
  · have rest : digits.drop (exponent.toNat + 1) = [] := List.drop_eq_nil_iff.mpr (by omega)
    have full : digits.take (exponent.toNat + 1) = digits := List.take_of_length_le (by omega)
    simp only [rest, full, List.isEmpty_nil, if_true, Option.getD_some, Option.getD_none,
      List.length_singleton]
    rw [show ['0'] = List.replicate 1 '0' from rfl, List.append_assoc,
      List.replicate_append_replicate,
      digitsValue_append_zeros, Binary64.ofDecimal_mul_pow_ten]
    congr 1
    omega

section Layouts

variable {digits : List Char} {exponent : Int}

theorem head?_take_succ (count : Nat) : (digits.take (count + 1)).head? = digits.head? := by
  cases digits <;> simp

theorem isDigit_of_mem_replicate {count : Nat} {char : Char}
    (member : char ∈ List.replicate count '0') : char.isDigit = true := by
  rw [List.eq_of_mem_replicate member]
  rfl

theorem isNumeral_ofDigits_scientific (nonempty : digits ≠ [])
    (onlyDigits : ∀ char ∈ digits, char.isDigit = true) (leading : digits.head? ≠ some '0')
    (scientific : exponent < -4 ∨ 16 ≤ exponent) : (ofDigits digits exponent).IsNumeral := by
  have limit : 16 ≤ digitLimit := by decide
  rw [ofDigits, if_pos scientific]
  refine ⟨⟨⟨fun char member => onlyDigits char (List.mem_of_mem_take member), ?_⟩, ?_⟩,
    ?_, ?_, ?_⟩
  · intro fraction found char member
    simp only at found
    split at found
    · cases found
    · cases found
      exact onlyDigits char (List.mem_of_mem_drop member)
  · simpa using nonempty
  · simp only [ne_eq]
    split
    · simp
    · rename_i rest
      simpa using rest
  · intro zero
    exact absurd ((head?_take_succ 0).symm.trans zero) leading
  · simp only [List.length_take]
    omega

theorem isNumeral_ofDigits_small (nonempty : digits ≠ [])
    (onlyDigits : ∀ char ∈ digits, char.isDigit = true)
    (notScientific : ¬ (exponent < -4 ∨ 16 ≤ exponent)) (small : exponent < 0) :
    (ofDigits digits exponent).IsNumeral := by
  have limit : 16 ≤ digitLimit := by decide
  rw [ofDigits, if_neg notScientific, if_pos small]
  refine ⟨⟨⟨List.forall_mem_singleton.mpr rfl, ?_⟩, by simp⟩, by simpa using fun _ => nonempty,
    by simp, ?_⟩
  · intro fraction found char member
    cases found
    rcases List.mem_append.mp member with pad | digit
    · exact isDigit_of_mem_replicate pad
    · exact onlyDigits char digit
  · simp only [List.length_singleton]
    omega

theorem isNumeral_ofDigits_large (nonempty : digits ≠ [])
    (onlyDigits : ∀ char ∈ digits, char.isDigit = true) (leading : digits.head? ≠ some '0')
    (notScientific : ¬ (exponent < -4 ∨ 16 ≤ exponent)) (large : ¬ exponent < 0) :
    (ofDigits digits exponent).IsNumeral := by
  have limit : 16 ≤ digitLimit := by decide
  rw [ofDigits, if_neg notScientific, if_neg large]
  refine ⟨⟨⟨?_, ?_⟩, by simpa using fun empty => absurd empty nonempty⟩, ?_, ?_, ?_⟩
  · intro char member
    rcases List.mem_append.mp member with digit | pad
    · exact onlyDigits char (List.mem_of_mem_take digit)
    · exact isDigit_of_mem_replicate pad
  · intro fraction found char member
    simp only [Option.some.injEq] at found
    subst found
    split at member
    · rw [List.mem_singleton.mp member]
      rfl
    · exact onlyDigits char (List.mem_of_mem_drop member)
  · simp only [ne_eq, Option.some.injEq]
    split
    · simp
    · rename_i rest
      simpa using rest
  · intro zero
    simp only [List.head?_append, head?_take_succ] at zero
    obtain ⟨first, rest, rfl⟩ := List.exists_cons_of_ne_nil nonempty
    exact absurd zero leading
  · simp only [List.length_append, List.length_take, List.length_replicate]
    omega

end Layouts

/-- Digits without a leading zero are always laid out as a number of a document. -/
theorem isNumeral_ofDigits {digits : List Char} (nonempty : digits ≠ [])
    (onlyDigits : ∀ char ∈ digits, char.isDigit = true) (leading : digits.head? ≠ some '0')
    (exponent : Int) : (ofDigits digits exponent).IsNumeral := by
  by_cases scientific : exponent < -4 ∨ 16 ≤ exponent
  · exact isNumeral_ofDigits_scientific nonempty onlyDigits leading scientific
  · by_cases small : exponent < 0
    · exact isNumeral_ofDigits_small nonempty onlyDigits scientific small
    · exact isNumeral_ofDigits_large nonempty onlyDigits leading scientific small

end NumberLiteral

namespace Binary64

/-- The text of a finite double is that of a literal which is not whole and which reads as the
double. -/
theorem text_finite (names : SpecialNames) (negative : Bool) (quanta : Nat)
    (representable : Representable quanta) :
    ∃ literal : NumberLiteral,
      (finite negative quanta representable).text names =
        NumberLiteral.signText negative ++ literal.text ∧
      literal.IsNumeral ∧ literal.isWhole = false ∧
      literal.toBinary64 negative = .finite negative quanta representable := by
  by_cases zero : quanta = 0
  · subst zero
    refine ⟨⟨['0'], some ['0'], none⟩, ?_, ⟨⟨⟨List.forall_mem_singleton.mpr rfl, ?_⟩,
      by simp⟩, by simp, by simp, by decide⟩,
      rfl, rfl⟩
    · cases negative <;> rfl
    · intro fraction found
      cases found
      exact List.forall_mem_singleton.mpr rfl
  have positive : 0 < quanta := Nat.pos_of_ne_zero zero
  have reads := Decimal.shortest_readsBack representable positive
  generalize shortest : Decimal.shortest quanta = decimal at reads
  have rounded := Decimal.ofDecimal_of_readsBack reads representable negative
  have significandPositive : 0 < decimal.significand := by
    refine Nat.pos_of_ne_zero fun none => ?_
    rw [none, ofDecimal, if_pos rfl, Binary64.zero] at rounded
    injection rounded with _ same
    exact zero same.symm
  generalize stripped : dropTrailingZeros (Nat.toDigits 10 decimal.significand) = digits
  obtain ⟨nonempty, onlyDigits, leading, count, length, value⟩ :=
    dropTrailingZeros_toDigits significandPositive stripped
  refine ⟨.ofDigits digits (decimal.exponent + (digits.length + count : Nat) - 1), ?_,
    NumberLiteral.isNumeral_ofDigits nonempty onlyDigits leading _, ?_, ?_⟩
  · rw [← NumberLiteral.layoutDigits_eq nonempty]
    simp only [text, if_neg zero, shortest, Decimal.scientific, stripped, length,
      NumberLiteral.signText]
  · unfold NumberLiteral.ofDigits NumberLiteral.isWhole
    split
    · simp
    · split <;> simp
  · rw [NumberLiteral.toBinary64_ofDigits nonempty, ← rounded, ← value,
      ofDecimal_mul_pow_ten]
    congr 1
    omega

end Binary64

end Formwork
