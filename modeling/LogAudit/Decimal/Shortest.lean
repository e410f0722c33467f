import LogAudit.Decimal.Double

/-! # Shortest decimals

The reals that round to a binary number form an interval, whose ends belong to it if the mantissa is
even. The shortest decimal of the number is the one with the fewest digits inside the interval, and of
those the nearest. -/

namespace LogAudit.Decimal
set_option autoImplicit false

/-- A decimal `digits * 10 ^ exponent`. -/
structure Figures where
  digits : Nat
  exponent : Int
deriving Repr, DecidableEq

/-- Compares `a * 10 ^ i` with `n * 2 ^ j`. -/
def compareScaled (a : Nat) (i : Int) (n : Nat) (j : Int) : Ordering :=
  compare (a * Nat.pow 10 i.toNat * Nat.pow 2 (-j).toNat)
    (n * Nat.pow 2 j.toNat * Nat.pow 10 (-i).toNat)

/-- Whether a decimal rounds to `mantissa * 2 ^ exponent`. Below a power of two the neighbour is half
as far away as above. -/
def roundsTo (mantissa : Nat) (exponent : Int) (decimal : Figures) : Bool :=
  let narrow := mantissa = Nat.pow 2 52 ∧ exponent > Double.leastExponent
  let low := if narrow then 4 * mantissa - 1 else 4 * mantissa - 2
  let closed := mantissa % 2 == 0
  let below := compareScaled decimal.digits decimal.exponent low (exponent - 2)
  let above := compareScaled decimal.digits decimal.exponent (4 * mantissa + 2) (exponent - 2)
  (below == .gt || (closed && below == .eq)) && (above == .lt || (closed && above == .eq))

/-- The least power of ten above `mantissa * 2 ^ exponent`, counted up from a power that is not above
it. -/
def powerAbove (mantissa : Nat) (exponent : Int) : Nat → Int → Int
  | 0, power => power
  | steps + 1, power =>
    if compareScaled 1 power mantissa exponent == .gt then power
    else powerAbove mantissa exponent steps (power + 1)

/-- The whole part of `mantissa * 2 ^ exponent` in units of a power of ten. -/
def wholeAt (mantissa : Nat) (exponent power : Int) : Nat :=
  mantissa * Nat.pow 2 exponent.toNat * Nat.pow 10 (-power).toNat /
    (Nat.pow 2 (-exponent).toNat * Nat.pow 10 power.toNat)

/-- Of the two neighbours on a decimal grid, the one that rounds to the number; of two, the nearer,
and from the middle the even one. -/
def onGrid? (mantissa : Nat) (exponent power : Int) : Option Figures :=
  let below := wholeAt mantissa exponent power
  let low : Figures := ⟨below, power⟩
  let high : Figures := ⟨below + 1, power⟩
  match roundsTo mantissa exponent low, roundsTo mantissa exponent high with
  | false, false => none
  | true, false => some low
  | false, true => some high
  | true, true =>
    match compareScaled (2 * below + 1) power (2 * mantissa) exponent with
    | .gt => some low
    | .lt => some high
    | .eq => some (if below % 2 = 0 then low else high)

/-- Moves trailing zeros of the digits into the exponent; the number bounds how many. -/
def stripZeros : Nat → Figures → Figures
  | 0, decimal => decimal
  | steps + 1, ⟨digits, exponent⟩ =>
    if digits % 10 = 0 then stripZeros steps ⟨digits / 10, exponent + 1⟩ else ⟨digits, exponent⟩

/-- The shortest decimal that rounds to a positive `mantissa * 2 ^ exponent`. -/
def shortest (mantissa : Nat) (exponent : Int) : Figures :=
  let guess : Int := ((mantissa.log2 : Int) + exponent) * 30103 / 100000 - 1
  let top := powerAbove mantissa exponent 5 guess
  let found := (List.range 17).findSome? fun (count : Nat) =>
    onGrid? mantissa exponent (top - (count + 1))
  stripZeros 20 (found.getD
    ⟨mantissa * Nat.pow 2 exponent.toNat * Nat.pow 5 (-exponent).toNat, min exponent 0⟩)

end LogAudit.Decimal
