/-! # Binary numbers of 53 bits

A number is a sign, a mantissa below `2 ^ 53` and a power of two, or infinite, or no number at all.
Every operation is exact on naturals and then rounded once: to the nearest number, and from the middle
to the even one.

* `Double.ofRatio`: the number nearest to a quotient.
* `Double.sub`, `Double.mul`, `Double.lt`: arithmetic and order.
* `Double.truncate`: the integer part. -/

namespace LogAudit.Decimal
set_option autoImplicit false

/-- A binary number. A finite one is `mantissa * 2 ^ exponent`; the exponent is at least `-1074`, and
the mantissa is at least `2 ^ 52` unless the exponent is `-1074`. -/
inductive Double
  | nan
  | infinite (negative : Bool)
  | finite (negative : Bool) (mantissa : Nat) (exponent : Int)
deriving Repr, DecidableEq

namespace Double

/-- The least exponent. -/
def leastExponent : Int := -1074

/-- The greatest exponent. -/
def greatestExponent : Int := 971

/-- Zero with a sign. -/
def zero (negative : Bool) : Double := .finite negative 0 leastExponent

/-! ## Rounding -/

/-- A quotient rounded to the nearest natural number, from the middle to the even one. -/
def roundQuotient (numerator denominator : Nat) : Nat :=
  let quotient := numerator / denominator
  let twice := 2 * (numerator % denominator)
  if twice < denominator then quotient
  else if denominator < twice then quotient + 1
  else quotient + quotient % 2

/-- A positive quotient measured in units of `2 ^ exponent`. -/
def roundAt (numerator denominator : Nat) (exponent : Int) : Nat :=
  roundQuotient (numerator * Nat.pow 2 (-exponent).toNat) (denominator * Nat.pow 2 exponent.toNat)

/-- The exponent in whose units a positive quotient has 53 bits before the point, or the least one. -/
def exponentFor (numerator denominator : Nat) : Int :=
  let guess : Int := (numerator.log2 : Int) - denominator.log2 - 52
  let whole := numerator * Nat.pow 2 (-guess).toNat / (denominator * Nat.pow 2 guess.toNat)
  max leastExponent (if whole < Nat.pow 2 52 then guess - 1 else guess)

/-- The number nearest to a quotient of naturals; the denominator is not zero. -/
def ofRatio (negative : Bool) (numerator denominator : Nat) : Double :=
  if numerator = 0 then zero negative
  else
    let exponent := exponentFor numerator denominator
    let mantissa := roundAt numerator denominator exponent
    let (mantissa, exponent) :=
      if mantissa = Nat.pow 2 53 then (Nat.pow 2 52, exponent + 1) else (mantissa, exponent)
    if exponent > greatestExponent then .infinite negative else .finite negative mantissa exponent

/-- The number nearest to a signed mantissa times a power of two. -/
def ofScaled (value : Int) (exponent : Int) : Double :=
  ofRatio (value < 0) (value.natAbs * Nat.pow 2 exponent.toNat) (Nat.pow 2 (-exponent).toNat)

/-- The number nearest to an integer. -/
def ofInt (value : Int) : Double := ofRatio (value < 0) value.natAbs 1

/-- The number nearest to `digits * 10 ^ exponent`. Powers far out of range are not computed. -/
def ofDecimal (negative : Bool) (digits : Nat) (exponent : Int) : Double :=
  let scale := exponent + digits.log2 / 3
  if digits = 0 then zero negative
  else if scale > 700 then .infinite negative
  else if scale < -700 - digits.log2 then zero negative
  else ofRatio negative (digits * Nat.pow 10 exponent.toNat) (Nat.pow 10 (-exponent).toNat)

/-! ## Arithmetic -/

/-- Whether the sign bit is set. -/
def isNegative : Double → Bool
  | nan => false
  | infinite negative => negative
  | finite negative _ _ => negative

/-- The mantissa with its sign. -/
def signedMantissa (negative : Bool) (mantissa : Nat) : Int :=
  if negative then -(mantissa : Int) else mantissa

/-- A product. -/
def mul : Double → Double → Double
  | nan, _ => nan
  | _, nan => nan
  | finite a m i, finite b n j =>
    match ofScaled (m * n : Nat) (i + j) with
    | finite _ mantissa exponent => finite (a != b) mantissa exponent
    | _ => infinite (a != b)
  | infinite a, finite b n _ => if n = 0 then nan else infinite (a != b)
  | finite a m _, infinite b => if m = 0 then nan else infinite (a != b)
  | infinite a, infinite b => infinite (a != b)

/-- A difference. -/
def sub : Double → Double → Double
  | nan, _ => nan
  | _, nan => nan
  | infinite a, infinite b => if a = b then nan else infinite a
  | infinite a, _ => infinite a
  | _, infinite b => infinite (!b)
  | finite a m i, finite b n j =>
    let least := min i j
    let left := signedMantissa a (m * Nat.pow 2 (i - least).toNat)
    let right := signedMantissa b (n * Nat.pow 2 (j - least).toNat)
    if left = right then zero (m = 0 && a && !b) else ofScaled (left - right) least

/-- Whether the first number is less than the second. -/
def lt : Double → Double → Bool
  | nan, _ => false
  | _, nan => false
  | infinite a, infinite b => a && !b
  | infinite a, finite _ _ _ => a
  | finite _ _ _, infinite b => !b
  | finite a m i, finite b n j =>
    let least := min i j
    signedMantissa a (m * Nat.pow 2 (i - least).toNat) <
      signedMantissa b (n * Nat.pow 2 (j - least).toNat)

/-- The integer between a finite number and zero that is nearest to it. -/
def truncate? : Double → Option Int
  | finite negative mantissa exponent =>
    some (signedMantissa negative
      (mantissa * Nat.pow 2 exponent.toNat / Nat.pow 2 (-exponent).toNat))
  | _ => none

/-- Whether a number is a whole one. -/
def isWhole : Double → Bool
  | finite _ mantissa exponent => mantissa % Nat.pow 2 (-exponent).toNat = 0
  | _ => false

end Double

end LogAudit.Decimal
