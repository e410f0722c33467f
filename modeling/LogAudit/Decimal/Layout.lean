import LogAudit.Decimal.Shortest

/-! # The text of numbers

A number is written with its shortest decimal: positionally, with at least one digit behind the point,
if its first digit stands at most four places behind and sixteen before the point; otherwise with an
exponent of two digits or more. A fixed number of places rounds the exact value. -/

namespace LogAudit.Decimal
set_option autoImplicit false

/-- The digits of a natural number. -/
def digitsOf (value : Nat) : List Char :=
  Nat.toDigits 10 value

/-- Digits with a point behind the first `point` of them; zeros fill up where digits are missing. -/
def positional (digits : List Char) (point : Int) : List Char :=
  if point ≤ 0 then '0' :: '.' :: (List.replicate (-point).toNat '0' ++ digits)
  else
    let whole := digits.take point.toNat
    let fill := List.replicate (point.toNat - digits.length) '0'
    let fraction := digits.drop point.toNat
    whole ++ fill ++ '.' :: (if fraction.isEmpty then ['0'] else fraction)

/-- An exponent with its sign and at least two digits. -/
def exponentText (exponent : Int) : List Char :=
  let digits := digitsOf exponent.natAbs
  'e' :: (if exponent < 0 then '-' else '+') ::
    (List.replicate (2 - digits.length) '0' ++ digits)

/-- Digits with a point behind the first and an exponent. -/
def scientific (digits : List Char) (exponent : Int) : List Char :=
  match digits with
  | [] => []
  | [digit] => digit :: exponentText exponent
  | digit :: rest => digit :: '.' :: rest ++ exponentText exponent

/-- The text of a number. -/
def Double.text : Double → String
  | .nan => "nan"
  | .infinite negative => if negative then "-inf" else "inf"
  | .finite negative mantissa exponent =>
    let sign := if negative then ['-'] else []
    if mantissa = 0 then String.ofList (sign ++ ['0', '.', '0'])
    else
      let decimal := shortest mantissa exponent
      let digits := digitsOf decimal.digits
      let point := decimal.exponent + digits.length
      String.ofList (sign ++
        (if -4 < point ∧ point ≤ 16 then positional digits point
          else scientific digits (point - 1)))

/-- A natural number of units of `10 ^ -places`, with a point. -/
def fixedDigits (places value : Nat) : List Char :=
  let digits := digitsOf value
  let padded := List.replicate (places + 1 - digits.length) '0' ++ digits
  if places = 0 then padded
  else padded.take (padded.length - places) ++ '.' :: padded.drop (padded.length - places)

/-- The text of a number with a fixed number of places. -/
def Double.fixed (places : Nat) : Double → String
  | .nan => "nan"
  | .infinite negative => if negative then "-inf" else "inf"
  | .finite negative mantissa exponent =>
    let value := Double.roundQuotient (mantissa * Nat.pow 2 exponent.toNat * Nat.pow 10 places)
      (Nat.pow 2 (-exponent).toNat)
    String.ofList ((if negative then ['-'] else []) ++ fixedDigits places value)

end LogAudit.Decimal
