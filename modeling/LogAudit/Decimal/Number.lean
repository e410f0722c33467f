import LogAudit.Decimal.Layout

/-! # Whole and binary numbers together

A number is an integer or a binary number. Integers are computed exactly; where a binary number takes
part, the integer is rounded to one first. Comparison is exact in every case. -/

namespace LogAudit.Decimal
set_option autoImplicit false

/-- An integer or a binary number. -/
inductive Number
  | whole (value : Int)
  | real (value : Double)
deriving Repr, DecidableEq

namespace Number

/-- A number as a binary one. -/
def toDouble : Number → Double
  | whole value => Double.ofInt value
  | real value => value

/-- A product. -/
def mul : Number → Number → Number
  | whole a, whole b => whole (a * b)
  | a, b => real (a.toDouble.mul b.toDouble)

/-- A difference. -/
def sub : Number → Number → Number
  | whole a, whole b => whole (a - b)
  | a, b => real (a.toDouble.sub b.toDouble)

/-- Whether the first number is less than the second. An integer is compared as a mantissa with
exponent zero, so that nothing is rounded. -/
def lt : Number → Number → Bool
  | whole a, whole b => a < b
  | whole a, real b => Double.lt (.finite (a < 0) a.natAbs 0) b
  | real a, whole b => Double.lt a (.finite (b < 0) b.natAbs 0)
  | real a, real b => Double.lt a b

/-- The integer part; an infinite number has none. -/
def truncate? : Number → Option Int
  | whole value => some value
  | real value => value.truncate?

/-- The text of a number. -/
def text : Number → String
  | whole value => toString value
  | real value => value.text

/-- The text of a number with a fixed number of places. -/
def fixed (places : Nat) (number : Number) : String :=
  number.toDouble.fixed places

end Number

end LogAudit.Decimal
