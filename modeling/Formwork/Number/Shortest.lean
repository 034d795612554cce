/-
This file writes numbers as decimal text. Whole numbers are written in full. A
double is written with the fewest digits that read back as the same double, and
of several such digit strings with the one nearest to its value. The search
looks at the two neighbours of the value on each decimal grid, coarse grids
first, and asks of each neighbour whether it reads back.
-/

import Formwork.Number.Binary64

namespace Formwork

/-! ### Whole numbers -/

/-- The decimal digits of a whole number, with a minus sign in front of a negative one. -/
def decimalText (value : Int) : List Char :=
  if value < 0 then '-' :: Nat.toDigits 10 value.natAbs else Nat.toDigits 10 value.natAbs

/-! ### The digits of a double -/

/-- A decimal number `significand * 10 ^ exponent`. -/
structure Decimal where
  significand : Nat
  exponent : Int
  deriving DecidableEq, Repr

namespace Decimal

/-- Whether a decimal reads back as the magnitude with the given quanta. -/
def readsBack (decimal : Decimal) (quanta : Nat) : Bool :=
  match Binary64.ofDecimal false decimal.significand decimal.exponent with
  | .finite _ quanta' _ => quanta' == quanta
  | _ => false

/-- The numerator and denominator of `quanta / 10 ^ exponent`, in units. -/
def onGrid (quanta : Nat) (exponent : Int) : Nat × Nat :=
  if 0 ≤ exponent then (quanta, quantaPerUnit * Nat.pow 10 exponent.toNat)
  else (quanta * Nat.pow 10 (-exponent).toNat, quantaPerUnit)

/-- The decimal exponent of the leading digit of a positive magnitude. The estimate from the
binary exponent is at most one away and is put right by comparison. -/
def leadingExponent (quanta : Nat) : Int :=
  let estimate := ((quanta.log2 : Int) - 1074) * 30103 / 100000
  let above := onGrid quanta (estimate + 1)
  let here := onGrid quanta estimate
  if above.2 ≤ above.1 then estimate + 1
  else if here.1 < here.2 then estimate - 1
  else estimate

/-- The neighbour of the magnitude on the grid `10 ^ exponent` that reads back, the nearer one
if both do; a tie goes to the even neighbour. -/
def neighbour? (quanta : Nat) (exponent : Int) : Option Decimal :=
  let quotient := onGrid quanta exponent
  let below : Decimal := ⟨quotient.1 / quotient.2, exponent⟩
  let above : Decimal := ⟨quotient.1 / quotient.2 + 1, exponent⟩
  let nearest : Decimal := ⟨Binary64.roundHalfEven quotient.1 quotient.2, exponent⟩
  if nearest.readsBack quanta then some nearest
  else if below.readsBack quanta then some below
  else if above.readsBack quanta then some above
  else none

/-- The first hit on the grids with the given leading exponent and more and more digits. -/
def search (quanta : Nat) (leading : Int) (digits : Nat) : Nat → Option Decimal
  | 0 => none
  | more + 1 =>
    match neighbour? quanta (leading - digits) with
    | some decimal => some decimal
    | none => search quanta leading (digits + 1) more

/-- The exact value of a magnitude, which always reads back. -/
def exact (quanta : Nat) : Decimal := ⟨quanta * Nat.pow 5 1074, -1074⟩

/-- The shortest decimal that reads back as the magnitude. Seventeen digits always suffice, so
the exact value is never needed. -/
def shortest (quanta : Nat) : Decimal :=
  (search quanta (leadingExponent quanta) 0 17).getD (exact quanta)

end Decimal

/-! ### Notation -/

/-- Removes the zeros that end a list of digits. -/
def dropTrailingZeros (digits : List Char) : List Char :=
  (digits.reverse.dropWhile (· == '0')).reverse

/-- The digits of a decimal without trailing zeros, and the exponent of the first of them. -/
def Decimal.scientific (decimal : Decimal) : List Char × Int :=
  let digits := Nat.toDigits 10 decimal.significand
  (dropTrailingZeros digits, decimal.exponent + digits.length - 1)

/-- The exponent of a number in scientific notation, with a sign and at least two digits. -/
def exponentText (exponent : Int) : List Char :=
  let digits := Nat.toDigits 10 exponent.natAbs
  (if exponent < 0 then '-' else '+') :: (if digits.length < 2 then '0' :: digits else digits)

/-- Digits written with a point between them when the leading exponent lies between -4 and 15,
and in scientific notation otherwise. The point always has a digit on both sides. -/
def layoutDigits (digits : List Char) (exponent : Int) : List Char :=
  if exponent < -4 ∨ 16 ≤ exponent then
    match digits with
    | [] => []
    | first :: rest =>
      first :: (if rest.isEmpty then [] else '.' :: rest) ++ 'e' :: exponentText exponent
  else if exponent < 0 then
    '0' :: '.' :: List.replicate (-exponent - 1).toNat '0' ++ digits
  else
    let wholeDigits := exponent.toNat + 1
    let whole := digits.take wholeDigits
    let fraction := digits.drop wholeDigits
    whole ++ List.replicate (wholeDigits - whole.length) '0' ++
      '.' :: (if fraction.isEmpty then ['0'] else fraction)

namespace Binary64

/-- The words for the numbers that have no digits. -/
structure SpecialNames where
  nan : String
  infinity : String

/-- The text of a double: its shortest digits, or one of the special names. -/
def text (names : SpecialNames) : Binary64 → List Char
  | .nan => names.nan.toList
  | .infinite negative => (if negative then ['-'] else []) ++ names.infinity.toList
  | .finite negative quanta _ =>
    let body :=
      if quanta = 0 then "0.0".toList
      else
        let (digits, exponent) := (Decimal.shortest quanta).scientific
        layoutDigits digits exponent
    (if negative then ['-'] else []) ++ body

/-- The names used where a number is shown to a person. -/
def displayNames : SpecialNames := ⟨"nan", "inf"⟩

end Binary64

end Formwork
