/-
This file defines binary floating-point numbers of double width by their exact
values. A finite number is a sign and a count of quanta, one quantum being the
smallest positive number `2 ^ -1074`; a count is representable when it has at
most 53 significant bits and lies below the overflow threshold. Rounding,
order and conversion to whole numbers are then statements about natural
numbers, with nothing taken from the machine.
-/

namespace Formwork

/-! ### Representable magnitudes -/

/-- The number of quanta in one. -/
def quantaPerUnit : Nat := Nat.pow 2 1074

/-- The number of quanta from which on a magnitude overflows. -/
def overflowQuanta : Nat := Nat.pow 2 2098

/-- The weight of the last significant bit kept in a count of quanta. -/
def lastPlace (quanta : Nat) : Nat := Nat.pow 2 (quanta.log2 - 52)

/-- A count of quanta that a double holds exactly. -/
def Representable (quanta : Nat) : Prop :=
  quanta < overflowQuanta ∧ quanta % lastPlace quanta = 0

instance (quanta : Nat) : Decidable (Representable quanta) :=
  inferInstanceAs (Decidable (_ ∧ _))

/-- A double: not a number, an infinity, or a signed count of quanta. Both zeros exist. -/
inductive Binary64 where
  | nan
  | infinite (negative : Bool)
  | finite (negative : Bool) (quanta : Nat) (representable : Representable quanta)
  deriving DecidableEq

namespace Binary64

/-- The zero of the given sign. -/
def zero (negative : Bool) : Binary64 := .finite negative 0 (by decide +kernel)

instance : Inhabited Binary64 := ⟨zero false⟩

/-- The number with this many quanta, or an infinity when no double holds them. -/
def ofQuanta (negative : Bool) (quanta : Nat) : Binary64 :=
  if representable : Representable quanta then .finite negative quanta representable
  else .infinite negative

/-! ### Rounding -/

/-- The nearest multiple of one to a quotient; a tie goes to the even neighbour. -/
def roundHalfEven (numerator denominator : Nat) : Nat :=
  let whole := numerator / denominator
  let twice := 2 * (numerator % denominator)
  if twice < denominator then whole
  else if twice > denominator then whole + 1
  else if whole % 2 = 0 then whole
  else whole + 1

/-- The double nearest to `numerator / denominator` quanta: the quotient is rounded, ties to
even, at the place of its 53rd significant bit. -/
def ofQuotient (negative : Bool) (numerator denominator : Nat) : Binary64 :=
  let place := lastPlace (numerator / denominator)
  ofQuanta negative (roundHalfEven numerator (denominator * place) * place)

/-- The double nearest to a whole number. -/
def ofInt (value : Int) : Binary64 :=
  ofQuotient (decide (value < 0)) (value.natAbs * quantaPerUnit) 1

/-- The number of decimal digits of a natural number, at least one. -/
def decimalWidth (value : Nat) : Nat := (Nat.toDigits 10 value).length

/-- The double nearest to `significand * 10 ^ exponent`. Beyond `10 ^ 309` every magnitude
overflows and below `10 ^ -324` every magnitude vanishes, so that no larger power of ten is
ever formed. -/
def ofDecimal (negative : Bool) (significand : Nat) (exponent : Int) : Binary64 :=
  if significand = 0 then zero negative
  else if exponent + decimalWidth significand > 309 then
    .infinite negative
  else if exponent + decimalWidth significand < -323 then zero negative
  else if 0 ≤ exponent then
    ofQuotient negative (significand * Nat.pow 10 exponent.toNat * quantaPerUnit) 1
  else
    ofQuotient negative (significand * quantaPerUnit) (Nat.pow 10 (-exponent).toNat)

/-! ### Exact values -/

/-- The signed count of quanta of a finite number. -/
def signedQuanta (negative : Bool) (quanta : Nat) : Int :=
  if negative then -(quanta : Int) else quanta

/-- Strict order; not-a-number is below nothing and above nothing. -/
def less : Binary64 → Binary64 → Bool
  | .finite negative quanta _, .finite negative' quanta' _ =>
    signedQuanta negative quanta < signedQuanta negative' quanta'
  | .finite _ _ _, .infinite negative => !negative
  | .infinite negative, .finite _ _ _ => negative
  | .infinite negative, .infinite negative' => negative && !negative'
  | .nan, _ => false
  | _, .nan => false

/-- Whether the number is below a whole number. -/
def lessInt : Binary64 → Int → Bool
  | .finite negative quanta _, whole => signedQuanta negative quanta < whole * quantaPerUnit
  | .infinite negative, _ => negative
  | .nan, _ => false

/-- Whether a whole number is below the number. -/
def intLess : Int → Binary64 → Bool
  | whole, .finite negative quanta _ => whole * quantaPerUnit < signedQuanta negative quanta
  | _, .infinite negative => !negative
  | _, .nan => false

/-- Equality of numeric values; both zeros are equal and not-a-number differs from itself. -/
def sameNumber : Binary64 → Binary64 → Bool
  | .finite negative quanta _, .finite negative' quanta' _ =>
    signedQuanta negative quanta == signedQuanta negative' quanta'
  | .infinite negative, .infinite negative' => negative == negative'
  | _, _ => false

/-- Whether the number is neither infinite nor not-a-number. -/
def isFinite : Binary64 → Bool
  | .finite _ _ _ => true
  | _ => false

/-- The exact value of a number without a fractional part. -/
def toInt? : Binary64 → Option Int
  | .finite negative quanta _ =>
    if quanta % quantaPerUnit = 0 then
      some (signedQuanta negative (quanta / quantaPerUnit))
    else none
  | _ => none

end Binary64

end Formwork
