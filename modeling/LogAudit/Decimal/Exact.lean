/-! # Exact decimals

A decimal keeps its digits and its power of ten, so that `1.50` and `1.5` have different texts. It is
written positionally while the power is not positive and at most five zeros follow the point. -/

namespace LogAudit.Decimal
set_option autoImplicit false

/-- A decimal number: `digits * 10 ^ exponent` with a sign. -/
structure Exact where
  negative : Bool
  digits : Nat
  exponent : Int
deriving Repr, DecidableEq

namespace Exact

/-- The value of a run of ASCII digits. -/
def digitsValue (digits : List Char) : Nat :=
  digits.foldl (fun value c => 10 * value + (c.toNat - 48)) 0

/-- A sign at the start, and the rest. -/
def readSign : List Char → Bool × List Char
  | '-' :: rest => (true, rest)
  | '+' :: rest => (false, rest)
  | text => (false, text)

/-- The power of ten at the end of a number. -/
def readPower? : List Char → Option Int
  | [] => some 0
  | mark :: rest =>
    if mark == 'e' || mark == 'E' then
      let (negative, digits) := readSign rest
      if !digits.isEmpty && digits.all (·.isDigit) then
        let value : Int := digitsValue digits
        some (if negative then -value else value)
      else none
    else none

/-- Reads a finite decimal. -/
def ofText? (text : String) : Option Exact :=
  let (negative, rest) := readSign text.toList
  let whole := rest.takeWhile (·.isDigit)
  let rest := rest.dropWhile (·.isDigit)
  let (places, rest) := match rest with
    | '.' :: more => (more.takeWhile Char.isDigit, more.dropWhile Char.isDigit)
    | _ => ([], rest)
  if whole.isEmpty && places.isEmpty then none
  else (readPower? rest).map fun power =>
    ⟨negative, digitsValue (whole ++ places), power - places.length⟩

/-- The text of a decimal. -/
def text (number : Exact) : String :=
  let digits := Nat.toDigits 10 number.digits
  let length : Int := digits.length
  let left := number.exponent + length
  let point := if number.exponent ≤ 0 && left > -6 then left else 1
  let body :=
    if point ≤ 0 then '0' :: '.' :: List.replicate (-point).toNat '0' ++ digits
    else if point ≥ length then digits ++ List.replicate (point - length).toNat '0'
    else digits.take point.toNat ++ '.' :: digits.drop point.toNat
  let power := left - point
  let tail :=
    if power = 0 then "" else if power < 0 then s!"E{power}" else s!"E+{power}"
  (if number.negative then "-" else "") ++ String.ofList body ++ tail

end Exact

end LogAudit.Decimal
