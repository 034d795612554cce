/-
This file says which scalars are shown by the same text.

A scalar other than a text is shown in one of three ways: by a word, as a whole number, or as
a double with a point or an exponent. The text says in which way and reads back as what is
shown, because cutting it into sign and literal tells words, whole numbers and doubles apart.
What is shown in the same way is the same, up to the two zeros and up to whole doubles below
`10 ^ 21`, which are shown like the whole number of their value.
-/

import Mathlib.Data.Rat.Cast.Order
import Formwork.Proofs.Number.Reading
import Formwork.Scalar

namespace Formwork

/-! ### Cutting the text of a number -/

/-- The sign in front of a text and the literal that the rest of it is, if there are any. -/
def cutNumber (text : List Char) : Option Char × Option NumberLiteral :=
  ((splitSign text).1, NumberLiteral.scan? (splitSign text).2)

/-- The sign in front of a number. -/
def signOf? (negative : Bool) : Option Char := if negative then some '-' else none

theorem splitSign_toDigits (value : Nat) :
    splitSign (Nat.toDigits 10 value) = (none, Nat.toDigits 10 value) := by
  obtain ⟨first, rest, begins⟩ := List.exists_cons_of_ne_nil (@Nat.toDigits_ne_nil value 10)
  have member : first ∈ Nat.toDigits 10 value := begins ▸ List.mem_cons_self
  rw [begins, splitSign_of_isDigit (isDigit_of_mem_toDigits member)]

theorem cutNumber_decimalText (value : Int) :
    cutNumber (decimalText value) =
      (signOf? (decide (value < 0)), some (NumberLiteral.ofWhole value)) := by
  have digits : (NumberLiteral.ofWhole value).OnlyDigits :=
    ⟨fun _ member => isDigit_of_mem_toDigits member, fun _ absent => by cases absent⟩
  have scanned := NumberLiteral.scan?_text digits
  have written : (NumberLiteral.ofWhole value).text = Nat.toDigits 10 value.natAbs := by
    simp [NumberLiteral.text, NumberLiteral.ofWhole]
  rw [written] at scanned
  unfold decimalText cutNumber
  by_cases negative : value < 0
  · simp [negative, splitSign, signOf?, scanned]
  · simp [negative, splitSign_toDigits, signOf?, scanned]

/-- The text of a finite double is cut into a literal that is not whole and reads as the double. -/
theorem cutNumber_text (negative : Bool) (quanta : Nat) (representable : Representable quanta) :
    ∃ literal, cutNumber ((Binary64.finite negative quanta representable).text
        Binary64.displayNames) = (signOf? negative, some literal) ∧
      literal.isWhole = false ∧
      literal.toBinary64 negative = .finite negative quanta representable := by
  obtain ⟨literal, written, numeral, notWhole, reads⟩ :=
    Binary64.text_finite Binary64.displayNames negative quanta representable
  refine ⟨literal, ?_, notWhole, reads⟩
  rw [written, cutNumber, numeral.splitSign_text, NumberLiteral.scan?_text numeral.onlyDigits]
  rfl

/-! ### Whole doubles -/

namespace Binary64

variable {negative negative' : Bool} {quanta quanta' : Nat}
  {representable : Representable quanta}

theorem quantaPerUnit_pos : 0 < quantaPerUnit := by decide +kernel

theorem signedQuanta_mul (negative : Bool) (count unit : Nat) :
    signedQuanta negative (count * unit) = signedQuanta negative count * unit := by
  cases negative <;> simp [signedQuanta]

theorem natAbs_signedQuanta (negative : Bool) (quanta : Nat) :
    (signedQuanta negative quanta).natAbs = quanta := by
  cases negative <;> simp [signedQuanta]

/-- A double is a whole number exactly if its quanta are those of this number. -/
theorem toInt?_finite_iff {value : Int} :
    (finite negative quanta representable).toInt? = some value ↔
      signedQuanta negative quanta = value * quantaPerUnit := by
  rw [toInt?]
  constructor
  · intro read
    split at read
    · rename_i divides
      have whole : quanta / quantaPerUnit * quantaPerUnit = quanta :=
        Nat.div_mul_cancel (Nat.dvd_of_mod_eq_zero divides)
      rw [← Option.some.inj read, ← signedQuanta_mul, whole]
    · cases read
  · intro scaled
    have magnitude : quanta = value.natAbs * quantaPerUnit := by
      rw [← natAbs_signedQuanta negative quanta, scaled, Int.natAbs_mul, Int.natAbs_natCast]
    have divides : quanta % quantaPerUnit = 0 := by rw [magnitude, Nat.mul_mod_left]
    have divided : quanta / quantaPerUnit = value.natAbs := by
      rw [magnitude, Nat.mul_div_cancel _ quantaPerUnit_pos]
    have unit : (quantaPerUnit : Int) ≠ 0 := by
      exact_mod_cast Nat.ne_of_gt quantaPerUnit_pos
    have whole : signedQuanta negative value.natAbs * quantaPerUnit = value * quantaPerUnit := by
      rw [← signedQuanta_mul, ← magnitude, scaled]
    rw [if_pos divides, divided, Int.eq_of_mul_eq_mul_right unit whole]

/-- Doubles of one value are the same, up to the sign of zero. -/
theorem eq_or_zero_of_signedQuanta
    (same : signedQuanta negative quanta = signedQuanta negative' quanta') :
    (negative = negative' ∧ quanta = quanta') ∨ signedQuanta negative quanta = 0 := by
  have magnitude : quanta = quanta' := by
    rw [← natAbs_signedQuanta negative quanta, same, natAbs_signedQuanta]
  subst magnitude
  cases negative <;> cases negative' <;> simp_all [signedQuanta]

end Binary64

/-! ### Ways of showing -/

/-- How a scalar other than a text is shown. -/
inductive Appearance where
  | word (spelling : String)
  | whole (value : Int)
  | double (negative : Bool) (quanta : Nat) (representable : Representable quanta)

namespace Appearance

/-- The text that is shown. -/
def text : Appearance → List Char
  | .word spelling => spelling.toList
  | .whole value => decimalText value
  | .double negative quanta representable =>
    (Binary64.finite negative quanta representable).text Binary64.displayNames

/-- What a text shows: what cannot be cut into a number is a word. -/
def ofText? (text : List Char) : Option Appearance :=
  match cutNumber text with
  | (_, none) => some (.word (String.ofList text))
  | (sign, some literal) =>
    if literal.isWhole then
      let magnitude : Int := digitsValue literal.whole
      some (.whole (if sign == signOf? true then -magnitude else magnitude))
    else
      match literal.toBinary64 (sign == signOf? true) with
      | .finite negative quanta representable => some (.double negative quanta representable)
      | _ => none

/-- The words by which scalars without digits are shown. -/
def words : List String := ["null", "true", "false", "nan", "inf", "-inf"]

/-- Whether a word, if one is shown, is one by which a scalar is shown. -/
def Proper : Appearance → Prop
  | .word spelling => spelling ∈ words
  | _ => True

instance : (shown : Appearance) → Decidable shown.Proper
  | .word spelling => inferInstanceAs (Decidable (spelling ∈ words))
  | .whole _ => inferInstanceAs (Decidable True)
  | .double _ _ _ => inferInstanceAs (Decidable True)

theorem snd_cutNumber_of_mem_words :
    ∀ spelling ∈ words, (cutNumber spelling.toList).2 = none := by decide

/-- What is shown reads back from its text. -/
theorem ofText?_text {shown : Appearance} (proper : shown.Proper) :
    ofText? shown.text = some shown := by
  unfold ofText?
  cases shown with
  | word spelling =>
    have uncut := snd_cutNumber_of_mem_words spelling proper
    rw [text]
    split
    · rw [String.ofList_toList]
    · rename_i cut
      rw [cut] at uncut
      cases uncut
  | whole value =>
    have isWhole : (NumberLiteral.ofWhole value).isWhole = true := rfl
    have magnitude : digitsValue (NumberLiteral.ofWhole value).whole = value.natAbs :=
      digitsValue_toDigits _
    simp only [text, cutNumber_decimalText, isWhole, if_true, magnitude]
    by_cases negative : value < 0
    · simp only [negative, decide_true, beq_self_eq_true, if_true]
      congr 2
      omega
    · simp only [negative, decide_false]
      congr 2
      exact (if_neg (by decide)).trans (by omega)
  | double negative quanta representable =>
    obtain ⟨literal, cut, notWhole, reads⟩ := cutNumber_text negative quanta representable
    have sign : (signOf? negative == signOf? true) = negative := by cases negative <;> rfl
    simp only [text, cut, notWhole, Bool.false_eq_true, if_false, sign, reads]

theorem eq_of_text {shown shown' : Appearance} (proper : shown.Proper) (proper' : shown'.Proper)
    (same : shown.text = shown'.text) : shown = shown' := by
  have read := ofText?_text proper
  rw [same, ofText?_text proper'] at read
  exact (Option.some.inj read).symm

end Appearance

/-- The scalar that a word or a double stands for. -/
def Appearance.scalar? : Appearance → Option Scalar
  | .word "null" => some .null
  | .word "true" => some (.bool true)
  | .word "false" => some (.bool false)
  | .word "nan" => some (.float .nan)
  | .word "inf" => some (.float (.infinite false))
  | .word "-inf" => some (.float (.infinite true))
  | .double negative quanta representable => some (.float (.finite negative quanta representable))
  | _ => none

/-- How a finite double is shown: as a whole number if it is one below the bound. -/
def Binary64.finiteAppearance (negative : Bool) (quanta : Nat)
    (representable : Representable quanta) : Appearance :=
  match (Binary64.finite negative quanta representable).toInt? with
  | some value =>
    if value.natAbs < Scalar.wholeDisplayBound then .whole value
    else .double negative quanta representable
  | none => .double negative quanta representable

namespace Scalar

/-- Whether a scalar is a text. -/
def IsText (value : Scalar) : Prop := ∃ text, value = .text text

/-- How a scalar is shown; a text is shown as it is. -/
def appearance? : Scalar → Option Appearance
  | .null => some (.word "null")
  | .bool true => some (.word "true")
  | .bool false => some (.word "false")
  | .int value => some (.whole value)
  | .float .nan => some (.word "nan")
  | .float (.infinite false) => some (.word "inf")
  | .float (.infinite true) => some (.word "-inf")
  | .float (.finite negative quanta representable) =>
    some (Binary64.finiteAppearance negative quanta representable)
  | .text _ => none

/-- A scalar other than a text is shown by the text of its appearance. -/
theorem exists_appearance {value : Scalar} (notText : ¬ value.IsText) :
    ∃ shown : Appearance, value.appearance? = some shown ∧ shown.Proper ∧
      value.display = String.ofList shown.text := by
  cases value with
  | null => exact ⟨_, rfl, by decide, rfl⟩
  | bool value => cases value <;> exact ⟨_, rfl, by decide, rfl⟩
  | int value => exact ⟨_, rfl, trivial, rfl⟩
  | float number =>
    cases number with
    | nan => exact ⟨_, rfl, by decide, rfl⟩
    | infinite negative => cases negative <;> exact ⟨_, rfl, by decide, rfl⟩
    | finite negative quanta representable =>
      refine ⟨_, rfl, ?_⟩
      rw [display, displayFloat, Binary64.finiteAppearance]
      cases (Binary64.finite negative quanta representable).toInt? with
      | none => exact ⟨trivial, rfl⟩
      | some value =>
        by_cases below : value.natAbs < wholeDisplayBound
        · simp only [below, if_true]
          exact ⟨trivial, rfl⟩
        · simp only [below, if_false]
          exact ⟨trivial, rfl⟩
  | text value => exact absurd ⟨value, rfl⟩ notText

theorem display_eq_iff_appearance {value value' : Scalar} (notText : ¬ value.IsText)
    (notText' : ¬ value'.IsText) :
    value.display = value'.display ↔ value.appearance? = value'.appearance? := by
  obtain ⟨shown, appears, proper, text⟩ := exists_appearance notText
  obtain ⟨shown', appears', proper', text'⟩ := exists_appearance notText'
  rw [appears, appears', text, text', String.ofList_inj, Option.some.injEq]
  exact ⟨Appearance.eq_of_text proper proper', congrArg Appearance.text⟩

/-! ### The same value -/

/-- The value of a number: a rational number or one of the infinities. -/
inductive Quantity where
  | rational (value : ℚ)
  | infinite (negative : Bool)

/-- Whether the value of a number has an absolute value below a bound. -/
def Quantity.Below (bound : ℚ) : Quantity → Prop
  | .rational value => |value| < bound
  | .infinite _ => False

/-- The value of a scalar, if it is a number. Truth values and not-a-number have none. -/
def quantity? : Scalar → Option Quantity
  | .int value => some (.rational value)
  | .float (.finite negative quanta _) =>
    some (.rational (Binary64.signedQuanta negative quanta / quantaPerUnit))
  | .float (.infinite negative) => some (.infinite negative)
  | _ => none

/-- Whether a scalar is a whole number. -/
def IsInt (value : Scalar) : Prop := ∃ whole, value = .int whole

/-- Whether a scalar is a double. -/
def IsFloat (value : Scalar) : Prop := ∃ number, value = .float number

/-- Whether two scalars, none of them a text, are shown as the same: both are null, the same truth
value or not-a-number, or both are numbers of one value and of one type, or of a value whose
absolute value is below `10 ^ 21`. -/
inductive Coincide : Scalar → Scalar → Prop where
  | null : Coincide .null .null
  | bool (value : Bool) : Coincide (.bool value) (.bool value)
  | nan : Coincide (.float .nan) (.float .nan)
  | number {value value' : Scalar} {quantity : Quantity} :
    value.quantity? = some quantity → value'.quantity? = some quantity →
      (value.IsInt ∧ value'.IsInt ∨ value.IsFloat ∧ value'.IsFloat ∨ quantity.Below (10 ^ 21)) →
      Coincide value value'

/-! ### From the appearance to the value and back -/

theorem below_rational_iff {value : Int} :
    (Quantity.rational value).Below (10 ^ 21) ↔ value.natAbs < wholeDisplayBound := by
  have cast : |(value : ℚ)| = (value.natAbs : ℚ) := by
    rw [← Int.cast_abs, Int.abs_eq_natAbs, Int.cast_natCast]
  have bound : (10 : ℚ) ^ 21 = (wholeDisplayBound : ℚ) := by
    norm_num [wholeDisplayBound]
  rw [Quantity.Below, cast, bound, Nat.cast_lt]

/-- A finite double has the value of a whole number exactly if it is one. -/
theorem quantity?_finite_iff {negative : Bool} {quanta : Nat}
    {representable : Representable quanta} {value : Int} :
    (float (.finite negative quanta representable)).quantity? = some (.rational value) ↔
      (Binary64.finite negative quanta representable).toInt? = some value := by
  have unit : (quantaPerUnit : ℚ) ≠ 0 := by
    exact_mod_cast Nat.ne_of_gt Binary64.quantaPerUnit_pos
  rw [Binary64.toInt?_finite_iff, quantity?, Option.some.injEq, Quantity.rational.injEq,
    div_eq_iff unit]
  exact_mod_cast Iff.rfl

theorem signedQuanta_eq_of_quantity {quanta quanta' : Int}
    (same : (quanta : ℚ) / quantaPerUnit = (quanta' : ℚ) / quantaPerUnit) : quanta = quanta' := by
  have unit : (quantaPerUnit : ℚ) ≠ 0 := by
    exact_mod_cast Nat.ne_of_gt Binary64.quantaPerUnit_pos
  exact_mod_cast (div_left_inj' unit).mp same

/-- What is shown as a whole number is one, or it is a double of its value below the bound. -/
theorem quantity?_of_whole {value : Scalar} {whole : Int}
    (appears : value.appearance? = some (.whole whole)) :
    value.quantity? = some (.rational whole) ∧
      (value.IsInt ∨ value.IsFloat ∧ (Quantity.rational whole).Below (10 ^ 21)) := by
  cases value with
  | null => cases appears
  | bool value => cases value <;> cases appears
  | int value =>
    obtain rfl := Appearance.whole.inj (Option.some.inj appears)
    exact ⟨rfl, Or.inl ⟨_, rfl⟩⟩
  | float number =>
    cases number with
    | nan => cases appears
    | infinite negative => cases negative <;> cases appears
    | finite negative quanta representable =>
      rw [appearance?, Option.some.injEq, Binary64.finiteAppearance] at appears
      split at appears
      · rename_i read
        split at appears
        · rename_i below
          obtain rfl := Appearance.whole.inj appears
          exact ⟨quantity?_finite_iff.mpr read,
            Or.inr ⟨⟨_, rfl⟩, below_rational_iff.mpr below⟩⟩
        · cases appears
      · cases appears
  | text value => cases appears

theorem whole_or_scalar?_eq {value : Scalar} {shown : Appearance}
    (appears : value.appearance? = some shown) :
    (∃ whole, shown = .whole whole) ∨ shown.scalar? = some value := by
  cases value with
  | null => exact Or.inr (Option.some.inj appears ▸ rfl)
  | bool value => cases value <;> exact Or.inr (Option.some.inj appears ▸ rfl)
  | int value => exact Or.inl ⟨value, (Option.some.inj appears).symm⟩
  | float number =>
    cases number with
    | nan => exact Or.inr (Option.some.inj appears ▸ rfl)
    | infinite negative => cases negative <;> exact Or.inr (Option.some.inj appears ▸ rfl)
    | finite negative quanta representable =>
      rw [appearance?, Option.some.injEq, Binary64.finiteAppearance] at appears
      split at appears
      · split at appears
        · exact Or.inl ⟨_, appears.symm⟩
        · exact Or.inr (appears ▸ rfl)
      · exact Or.inr (appears ▸ rfl)
  | text value => cases appears

theorem Coincide.refl {value : Scalar} (notText : ¬ value.IsText) : value.Coincide value := by
  cases value with
  | null => exact .null
  | bool value => exact .bool value
  | int value => exact .number rfl rfl (Or.inl ⟨⟨_, rfl⟩, ⟨_, rfl⟩⟩)
  | float number =>
    cases number with
    | nan => exact .nan
    | infinite _ => exact .number rfl rfl (Or.inr (Or.inl ⟨⟨_, rfl⟩, ⟨_, rfl⟩⟩))
    | finite _ _ _ => exact .number rfl rfl (Or.inr (Or.inl ⟨⟨_, rfl⟩, ⟨_, rfl⟩⟩))
  | text value => exact absurd ⟨value, rfl⟩ notText

section Appearances

variable {value value' : Scalar}

theorem coincide_of_appearance (notText : ¬ value.IsText)
    (same : value.appearance? = value'.appearance?) : value.Coincide value' := by
  obtain ⟨shown, appears, _⟩ := exists_appearance notText
  have appears' := same.symm.trans appears
  rcases whole_or_scalar?_eq appears with ⟨whole, rfl⟩ | stands
  · obtain ⟨given, type⟩ := quantity?_of_whole appears
    obtain ⟨given', type'⟩ := quantity?_of_whole appears'
    refine .number given given' ?_
    rcases type with int | ⟨_, below⟩
    · rcases type' with int' | ⟨_, below⟩
      · exact Or.inl ⟨int, int'⟩
      · exact Or.inr (Or.inr below)
    · exact Or.inr (Or.inr below)
  · rcases whole_or_scalar?_eq appears' with ⟨whole, rfl⟩ | stands'
    · cases stands
    · obtain rfl := Option.some.inj (stands.symm.trans stands')
      exact .refl notText

theorem finiteAppearance_of_toInt? {negative : Bool} {quanta : Nat}
    {representable : Representable quanta} {whole : Int}
    (read : (Binary64.finite negative quanta representable).toInt? = some whole)
    (below : whole.natAbs < wholeDisplayBound) :
    Binary64.finiteAppearance negative quanta representable = .whole whole := by
  rw [Binary64.finiteAppearance, read]
  exact if_pos below

/-- A number with the value of a whole number below the bound is shown as this whole number. -/
theorem appearance?_of_below {whole : Int}
    (given : value.quantity? = some (.rational whole))
    (below : (Quantity.rational whole).Below (10 ^ 21)) :
    value.appearance? = some (.whole whole) := by
  cases value with
  | int value =>
    have same : (value : ℚ) = whole := Quantity.rational.inj (Option.some.inj given)
    rw [appearance?, Int.cast_injective same]
  | float number =>
    cases number with
    | finite negative quanta representable =>
      rw [appearance?, finiteAppearance_of_toInt? (quantity?_finite_iff.mp given)
        (below_rational_iff.mp below)]
    | _ => cases given
  | _ => cases given

/-- Doubles of one value are shown in the same way. -/
theorem appearance?_of_floats {number number' : Binary64} {quantity : Quantity}
    (given : (float number).quantity? = some quantity)
    (given' : (float number').quantity? = some quantity) :
    (float number).appearance? = (float number').appearance? := by
  have same := given.trans given'.symm
  cases number with
  | nan => cases given
  | infinite negative =>
    cases number' with
    | infinite negative' =>
      obtain rfl := Quantity.infinite.inj (Option.some.inj same)
      rfl
    | _ => cases same
  | finite negative quanta representable =>
    cases number' with
    | finite negative' quanta' representable' =>
      have quantas := signedQuanta_eq_of_quantity (Quantity.rational.inj (Option.some.inj same))
      rcases Binary64.eq_or_zero_of_signedQuanta quantas with ⟨rfl, rfl⟩ | zero
      · rfl
      · have whole : Binary64.signedQuanta negative quanta = 0 * quantaPerUnit := by
          rw [zero, Int.zero_mul]
        have below : (0 : Int).natAbs < wholeDisplayBound := by decide
        rw [appearance?, appearance?,
          finiteAppearance_of_toInt? (Binary64.toInt?_finite_iff.mpr whole) below,
          finiteAppearance_of_toInt? (Binary64.toInt?_finite_iff.mpr (quantas ▸ whole)) below]
    | _ => cases same

theorem isInt_or_isFloat {quantity : Quantity} (given : value.quantity? = some quantity) :
    value.IsInt ∨ value.IsFloat := by
  cases value with
  | int value => exact Or.inl ⟨value, rfl⟩
  | float number => exact Or.inr ⟨number, rfl⟩
  | _ => cases given

theorem Coincide.appearance_eq (coincide : value.Coincide value') :
    value.appearance? = value'.appearance? := by
  cases coincide with
  | number given given' type =>
    -- A whole number and a double are numbers of one type only if they are below the bound.
    rcases isInt_or_isFloat given with ⟨whole, rfl⟩ | ⟨number, rfl⟩
    · obtain rfl := Option.some.inj given
      rcases isInt_or_isFloat given' with ⟨whole', rfl⟩ | ⟨number', rfl⟩
      · have same : (whole' : ℚ) = whole := Quantity.rational.inj (Option.some.inj given')
        rw [Int.cast_injective same]
      · obtain ⟨_, _, none⟩ | ⟨⟨_, none⟩, _⟩ | below := type
        · cases none
        · cases none
        · rw [appearance?_of_below given below, appearance?_of_below given' below]
    · rcases isInt_or_isFloat given' with ⟨whole', rfl⟩ | ⟨number', rfl⟩
      · obtain rfl := Option.some.inj given'
        obtain ⟨⟨_, none⟩, _⟩ | ⟨_, _, none⟩ | below := type
        · cases none
        · cases none
        · rw [appearance?_of_below given below, appearance?_of_below given' below]
      · exact appearance?_of_floats given given'
  | _ => rfl

/-- Scalars other than texts are shown by the same text exactly if they coincide. -/
theorem display_eq_iff_coincide (notText : ¬ value.IsText) (notText' : ¬ value'.IsText) :
    value.display = value'.display ↔ value.Coincide value' := by
  rw [display_eq_iff_appearance notText notText']
  exact ⟨coincide_of_appearance notText, Coincide.appearance_eq⟩

end Appearances

/-! ### Texts among the scalars -/

/-- Whether two scalars are shown by the same text: both are the same text, one of them is the text
that the other one is shown by, or they coincide. -/
inductive Collides : Scalar → Scalar → Prop where
  | texts (text : String) : Collides (.text text) (.text text)
  | textFirst {value : Scalar} : ¬ value.IsText → Collides (.text value.display) value
  | textLast {value : Scalar} : ¬ value.IsText → Collides value (.text value.display)
  | values {value value' : Scalar} : ¬ value.IsText → ¬ value'.IsText →
    value.Coincide value' → Collides value value'

theorem display_eq_iff_collides {value value' : Scalar} :
    value.display = value'.display ↔ value.Collides value' := by
  constructor
  · intro same
    by_cases isText : value.IsText
    · obtain ⟨text, rfl⟩ := isText
      have shown : text = value'.display := same
      by_cases isText' : value'.IsText
      · obtain ⟨text', rfl⟩ := isText'
        exact shown ▸ .texts text
      · exact shown ▸ .textFirst isText'
    · by_cases isText' : value'.IsText
      · obtain ⟨text', rfl⟩ := isText'
        have shown : value.display = text' := same
        exact shown ▸ .textLast isText
      · exact .values isText isText' ((display_eq_iff_coincide isText isText').mp same)
  · intro collides
    cases collides with
    | values notText notText' coincide =>
      exact (display_eq_iff_coincide notText notText').mpr coincide
    | _ => rfl

end Scalar

end Formwork
