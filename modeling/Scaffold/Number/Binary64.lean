/-!
# Binary floating-point numbers of 64 bits

A finite number is a sign, a mantissa below 2^53 and a power of two. `ofDecimal` rounds a decimal
number to the nearest one, with ties to the even mantissa, in exact arithmetic. Of the arithmetic
only the question is kept that settings ask: which integer a number is.
-/

namespace Scaffold.Number

inductive Binary64 where
  | nan
  | infinite (negative : Bool)
  /-- The number `mantissa * 2 ^ exponent`, negated if `negative`. -/
  | finite (negative : Bool) (mantissa : Nat) (exponent : Int)
deriving DecidableEq

/-- The quotient rounded to the nearest integer, and to the even one of two. -/
def divToEven (num den : Nat) : Nat :=
  let quotient := num / den
  let twice := 2 * (num % den)
  if twice < den then quotient
  else if den < twice then quotient + 1
  else quotient + quotient % 2

namespace Binary64

/-- The exponent of the least positive number. -/
def minExponent : Int := -1074

/-- The greatest exponent of a number with a full mantissa. -/
def maxExponent : Int := 971

/-- Rounds the positive quotient `num / den`. -/
def ofQuotient (negative : Bool) (num den : Nat) : Binary64 :=
  let guess : Int := (num.log2 : Int) - den.log2 - 52
  let fits := num * Nat.pow 2 (-guess).toNat / (den * Nat.pow 2 guess.toNat) ≥ Nat.pow 2 52
  let exponent := max minExponent (if fits then guess else guess - 1)
  let mantissa := divToEven (num * Nat.pow 2 (-exponent).toNat) (den * Nat.pow 2 exponent.toNat)
  if exponent > maxExponent ∨ exponent = maxExponent ∧ mantissa ≥ Nat.pow 2 53 then
    .infinite negative
  else .finite negative mantissa exponent

/-- The nearest number to `digits * 10 ^ exponent`, negated if `negative`. -/
def ofDecimal (negative : Bool) (digits : Nat) (exponent : Int) : Binary64 :=
  if digits = 0 then .finite negative 0 0
  else
    let places : Int := (Nat.toDigits 10 digits).length + exponent
    if places > 310 then .infinite negative
    else if places < -330 then .finite negative 0 0
    else ofQuotient negative (digits * Nat.pow 10 exponent.toNat) (Nat.pow 10 (-exponent).toNat)

/-- Why a number is not taken for an integer. -/
inductive NotInteger where
  | notFinite
  | fractional
  /-- The number does not fit a signed integer of 64 bits. -/
  | tooLarge
deriving DecidableEq

/-- The integer that a number is. -/
def toInt : Binary64 → Except NotInteger Int
  | .nan => .error .notFinite
  | .infinite _ => .error .notFinite
  | .finite negative mantissa exponent =>
    if mantissa % Nat.pow 2 (-exponent).toNat ≠ 0 then .error .fractional
    else
      let magnitude := mantissa * Nat.pow 2 exponent.toNat / Nat.pow 2 (-exponent).toNat
      if magnitude ≥ Nat.pow 2 63 then .error .tooLarge
      else .ok (if negative then -magnitude else magnitude)

end Binary64

end Scaffold.Number
