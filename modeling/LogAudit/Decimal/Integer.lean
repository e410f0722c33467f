import LogAudit.Text.Blank
import LogAudit.Text.Digit

/-! # Integers in text

An integer is written with an optional sign and decimal digits of any script; single underscores may
stand between digits, and blanks around the whole. -/

namespace LogAudit.Decimal
set_option autoImplicit false

open Text

/-- Reads digits with single underscores between them; `afterDigit` says whether a digit came last, and
`value` is that of the digits so far. -/
def digitsFrom (digit? : Char → Option Nat) : Bool → Nat → List Char → Option Nat
  | afterDigit, value, [] => if afterDigit then some value else none
  | afterDigit, value, c :: rest =>
    match digit? c with
    | some digit => digitsFrom digit? true (10 * value + digit) rest
    | none => if c = '_' ∧ afterDigit then digitsFrom digit? false value rest else none

/-- The natural number that digits of any script with underscores between them stand for. -/
def digits? (text : List Char) : Option Nat :=
  digitsFrom digitValue? false 0 text

/-- The integer that a text stands for. -/
def integer? (text : String) : Option Int :=
  match trimmed text.toList with
  | '-' :: rest => (digits? rest).map fun value => -(value : Int)
  | '+' :: rest => (digits? rest).map Int.ofNat
  | rest => (digits? rest).map Int.ofNat

end LogAudit.Decimal
