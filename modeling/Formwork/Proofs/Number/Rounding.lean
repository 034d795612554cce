/-
This file proves that the double nearest to a decimal depends on the value of the
decimal alone, and that the shortest decimal of a magnitude reads back as that
magnitude.

A magnitude is rounded as a quotient of natural numbers, so moving a power of ten
from the significand to the exponent multiplies numerator and denominator by one
factor. The search for the shortest decimal only returns decimals that it has
read back itself; where it finds none it falls back on the exact value, whose
quotient has no remainder.
-/

import Formwork.Number.Shortest

namespace Formwork

/-! ### Digits of a multiple of a power of ten -/

theorem toDigits_mul_pow_ten {value : Nat} (positive : 0 < value) (shift : Nat) :
    Nat.toDigits 10 (value * Nat.pow 10 shift) =
      Nat.toDigits 10 value ++ List.replicate shift '0' := by
  induction shift with
  | zero => simp
  | succ shift inductionHypothesis =>
    have product : 0 < value * Nat.pow 10 shift :=
      Nat.mul_pos positive (Nat.pow_pos (by decide))
    have moved : value * Nat.pow 10 (shift + 1) = 10 * (value * Nat.pow 10 shift) + 0 := by
      rw [show Nat.pow 10 (shift + 1) = Nat.pow 10 shift * 10 from rfl]
      rw [Nat.add_zero, Nat.mul_comm 10, Nat.mul_assoc]
    rw [moved, ← Nat.toDigits_append_toDigits (by decide) product (by decide),
      inductionHypothesis, Nat.toDigits_zero, List.append_assoc, ← List.replicate_succ']

namespace Binary64

theorem decimalWidth_mul_pow_ten {value : Nat} (positive : 0 < value) (shift : Nat) :
    decimalWidth (value * Nat.pow 10 shift) = decimalWidth value + shift := by
  rw [decimalWidth, toDigits_mul_pow_ten positive, List.length_append, List.length_replicate,
    decimalWidth]

/-! ### Quotients -/

theorem roundHalfEven_mul_right (numerator denominator : Nat) {scale : Nat}
    (positive : 0 < scale) :
    roundHalfEven (numerator * scale) (denominator * scale) =
      roundHalfEven numerator denominator := by
  unfold roundHalfEven
  rw [Nat.mul_div_mul_right _ _ positive, Nat.mul_mod_mul_right]
  have twice : 2 * (numerator % denominator * scale) =
      2 * (numerator % denominator) * scale := (Nat.mul_assoc _ _ _).symm
  simp only [twice, Nat.mul_lt_mul_right positive, gt_iff_lt]

theorem ofQuotient_mul_right (negative : Bool) (numerator denominator : Nat) {scale : Nat}
    (positive : 0 < scale) :
    ofQuotient negative (numerator * scale) (denominator * scale) =
      ofQuotient negative numerator denominator := by
  unfold ofQuotient
  rw [Nat.mul_div_mul_right _ _ positive]
  simp only [Nat.mul_right_comm denominator scale, roundHalfEven_mul_right _ _ positive]

/-- A quotient without remainder is rounded to itself. -/
theorem ofQuotient_exact (negative : Bool) {quanta : Nat} (representable : Representable quanta)
    {denominator : Nat} (positive : 0 < denominator) :
    ofQuotient negative (quanta * denominator) denominator =
      .finite negative quanta representable := by
  have place : 0 < lastPlace quanta := Nat.pow_pos (by decide)
  have multiple : quanta / lastPlace quanta * lastPlace quanta = quanta :=
    Nat.div_mul_cancel (Nat.dvd_of_mod_eq_zero representable.2)
  have rounded : roundHalfEven (quanta * denominator) (denominator * lastPlace quanta) =
      quanta / lastPlace quanta := by
    have scaled : quanta * denominator =
        quanta / lastPlace quanta * (denominator * lastPlace quanta) := by
      rw [Nat.mul_comm denominator, ← Nat.mul_assoc, multiple]
    have whole : 0 < denominator * lastPlace quanta := Nat.mul_pos positive place
    rw [scaled, roundHalfEven, Nat.mul_div_cancel _ whole, Nat.mul_mod_left]
    exact if_pos whole
  rw [ofQuotient, Nat.mul_div_cancel _ positive]
  simp only [rounded, multiple, ofQuanta, dif_pos representable]

/-! ### Decimals -/

/-- Moving a power of ten from the significand to the exponent changes nothing. -/
theorem ofDecimal_mul_pow_ten (negative : Bool) (significand shift : Nat) (exponent : Int) :
    ofDecimal negative (significand * Nat.pow 10 shift) exponent =
      ofDecimal negative significand (exponent + shift) := by
  have tenPower : ∀ power : Nat, 0 < Nat.pow 10 power := fun power => Nat.pow_pos (by decide)
  have powerAdd : ∀ first second : Nat,
      Nat.pow 10 (first + second) = Nat.pow 10 first * Nat.pow 10 second :=
    fun first second => Nat.pow_add 10 first second
  by_cases zero : significand = 0
  · simp [ofDecimal, zero]
  have positive : 0 < significand := Nat.pos_of_ne_zero zero
  have nonzero : significand * Nat.pow 10 shift ≠ 0 :=
    Nat.ne_of_gt (Nat.mul_pos positive (tenPower shift))
  have width : exponent + decimalWidth (significand * Nat.pow 10 shift) =
      exponent + shift + decimalWidth significand := by
    rw [decimalWidth_mul_pow_ten positive]
    omega
  unfold ofDecimal
  rw [if_neg nonzero, if_neg zero, width]
  by_cases large : exponent + shift + decimalWidth significand > 309
  · rw [if_pos large, if_pos large]
  rw [if_neg large, if_neg large]
  by_cases small : exponent + shift + decimalWidth significand < -323
  · rw [if_pos small, if_pos small]
  rw [if_neg small, if_neg small]
  by_cases whole : 0 ≤ exponent
  · rw [if_pos whole, if_pos (by omega)]
    rw [show (exponent + shift).toNat = shift + exponent.toNat by omega, powerAdd,
      ← Nat.mul_assoc significand]
  · rw [if_neg whole]
    by_cases shiftedWhole : 0 ≤ exponent + shift
    · rw [if_pos shiftedWhole]
      have powers : Nat.pow 10 shift =
          Nat.pow 10 (exponent + shift).toNat * Nat.pow 10 (-exponent).toNat := by
        rw [← powerAdd]
        congr 1
        omega
      have regroup : ∀ first second unit : Nat,
          significand * (first * second) * unit = significand * first * unit * second := by
        intro first second unit
        ac_rfl
      rw [← ofQuotient_mul_right negative _ 1 (tenPower (-exponent).toNat), Nat.one_mul, powers,
        regroup]
    · rw [if_neg shiftedWhole]
      have powers : Nat.pow 10 (-exponent).toNat =
          Nat.pow 10 (-(exponent + shift)).toNat * Nat.pow 10 shift := by
        rw [← powerAdd]
        congr 1
        omega
      rw [powers, Nat.mul_right_comm significand, ofQuotient_mul_right _ _ _ (tenPower shift)]

/-- The number with another sign; not-a-number has none. -/
def withSign (negative : Bool) : Binary64 → Binary64
  | .nan => .nan
  | .infinite _ => .infinite negative
  | .finite _ quanta representable => .finite negative quanta representable

/-- The sign of a decimal takes no part in its rounding. -/
theorem ofDecimal_eq_withSign (negative : Bool) (significand : Nat) (exponent : Int) :
    ofDecimal negative significand exponent =
      (ofDecimal false significand exponent).withSign negative := by
  have quotient : ∀ numerator denominator : Nat, ofQuotient negative numerator denominator =
      (ofQuotient false numerator denominator).withSign negative := by
    intro numerator denominator
    unfold ofQuotient ofQuanta
    simp only
    split <;> rfl
  unfold ofDecimal
  by_cases zero : significand = 0
  · rw [if_pos zero, if_pos zero]
    rfl
  rw [if_neg zero, if_neg zero]
  by_cases large : exponent + decimalWidth significand > 309
  · rw [if_pos large, if_pos large]
    rfl
  rw [if_neg large, if_neg large]
  by_cases small : exponent + decimalWidth significand < -323
  · rw [if_pos small, if_pos small]
    rfl
  rw [if_neg small, if_neg small]
  by_cases whole : 0 ≤ exponent
  · rw [if_pos whole, if_pos whole, quotient]
  · rw [if_neg whole, if_neg whole, quotient]

end Binary64

namespace Decimal

open Binary64

/-- A decimal that reads back as a magnitude is, with either sign, the double of that
magnitude. -/
theorem ofDecimal_of_readsBack {decimal : Decimal} {quanta : Nat}
    (reads : decimal.readsBack quanta = true) (representable : Representable quanta)
    (negative : Bool) :
    ofDecimal negative decimal.significand decimal.exponent =
      .finite negative quanta representable := by
  rw [ofDecimal_eq_withSign]
  unfold readsBack at reads
  split at reads
  · rename_i sign quanta' representable' found
    have same : quanta' = quanta := by simpa using reads
    subst same
    rw [found]
    rfl
  · exact absurd reads Bool.false_ne_true

/-- The exact value of a magnitude is within the range in which decimals are rounded. -/
theorem decimalWidth_exact {quanta : Nat} (positive : 0 < quanta)
    (small : quanta < overflowQuanta) :
    751 ≤ decimalWidth (quanta * Nat.pow 5 1074) ∧
      decimalWidth (quanta * Nat.pow 5 1074) ≤ 1383 := by
  constructor
  · refine Nat.lt_of_not_le fun narrow => ?_
    have below := (Nat.length_toDigits_le_iff (b := 10) (by decide) (by decide)).mp narrow
    have above : Nat.pow 5 1074 ≤ quanta * Nat.pow 5 1074 := Nat.le_mul_of_pos_left _ positive
    exact absurd (Nat.lt_of_le_of_lt above below) (by decide +kernel)
  · refine (Nat.length_toDigits_le_iff (b := 10) (by decide) (by decide)).mpr ?_
    have above : quanta * Nat.pow 5 1074 < overflowQuanta * Nat.pow 5 1074 :=
      Nat.mul_lt_mul_of_pos_right small (by decide +kernel)
    exact Nat.lt_of_lt_of_le above (by decide +kernel)

/-- A significand of so many digits that is an exact count of quanta reads back as that count. -/
theorem readsBack_of_exact {significand quanta : Nat} (representable : Representable quanta)
    (wide : 751 ≤ decimalWidth significand) (narrow : decimalWidth significand ≤ 1383)
    (nonzero : significand ≠ 0)
    (scaled : significand * quantaPerUnit = quanta * Nat.pow 10 (-(-1074 : Int)).toNat) :
    Decimal.readsBack ⟨significand, -1074⟩ quanta = true := by
  have positive : 0 < Nat.pow 10 (-(-1074 : Int)).toNat := by decide +kernel
  have rounded : ofDecimal false significand (-1074) = .finite false quanta representable := by
    unfold ofDecimal
    rw [if_neg nonzero, if_neg (by omega), if_neg (by omega), if_neg (by decide), scaled]
    exact ofQuotient_exact false representable positive
  rw [readsBack, rounded]
  exact beq_self_eq_true quanta

theorem exact_readsBack {quanta : Nat} (representable : Representable quanta)
    (positive : 0 < quanta) : (exact quanta).readsBack quanta = true := by
  obtain ⟨wide, narrow⟩ := decimalWidth_exact positive representable.1
  have power : Nat.pow 5 1074 * quantaPerUnit = Nat.pow 10 (-(-1074 : Int)).toNat := by
    decide +kernel
  have nonzero : quanta * Nat.pow 5 1074 ≠ 0 :=
    Nat.ne_of_gt (Nat.mul_pos positive (by decide +kernel))
  have scaled : quanta * Nat.pow 5 1074 * quantaPerUnit =
      quanta * Nat.pow 10 (-(-1074 : Int)).toNat := by
    rw [Nat.mul_assoc, power]
  exact readsBack_of_exact representable wide narrow nonzero scaled

theorem neighbour?_readsBack {quanta : Nat} {exponent : Int} {decimal : Decimal}
    (found : neighbour? quanta exponent = some decimal) : decimal.readsBack quanta = true := by
  unfold neighbour? at found
  simp only at found
  split at found
  · rename_i reads
    cases found
    exact reads
  · split at found
    · rename_i reads
      cases found
      exact reads
    · split at found
      · rename_i reads
        cases found
        exact reads
      · exact absurd found (by simp)

theorem search_readsBack {quanta : Nat} {leading : Int} {digits more : Nat} {decimal : Decimal}
    (found : search quanta leading digits more = some decimal) :
    decimal.readsBack quanta = true := by
  induction more generalizing digits with
  | zero => exact absurd found (by simp [search])
  | succ more inductionHypothesis =>
    unfold search at found
    split at found
    · rename_i hit
      cases found
      exact neighbour?_readsBack hit
    · exact inductionHypothesis found

/-- The shortest decimal of a positive magnitude reads back as that magnitude. -/
theorem shortest_readsBack {quanta : Nat} (representable : Representable quanta)
    (positive : 0 < quanta) : (shortest quanta).readsBack quanta = true := by
  unfold shortest
  cases found : search quanta (leadingExponent quanta) 0 17 with
  | none => exact exact_readsBack representable positive
  | some decimal => exact search_readsBack found

end Decimal

end Formwork
