import LogAudit.Json.Parser
import LogAudit.Settings.Fault
import LogAudit.Text.Blank
import LogAudit.Text.Split

/-! # Values of settings

Settings come as texts or as values of other kinds. Texts are read leniently as what the setting needs.

* `integerText?`: integers with blanks around, a plus sign, underscores between digits, zeros in front
  and zeros behind a point.
* `numberText?`: decimals with an optional exponent, and the names of the infinite numbers.
* `truthText?`: the usual words for yes and no.
* `splitList`: lists as JSON arrays, or with commas between the items. -/

namespace LogAudit.Settings
set_option autoImplicit false

open Decimal Text

/-- White space; the information separators do not count as such. -/
def isWhite (c : Char) : Bool :=
  isBlank c && !(28 ≤ c.toNat && c.toNat ≤ 31)

/-- A text without white space at its ends. -/
def stripped (text : List Char) : List Char :=
  ((text.dropWhile isWhite).reverse.dropWhile isWhite).reverse

/-! ## Integers -/

/-- The number of digits up to which a text is read as an integer. -/
def mostDigits : Nat := 4300

/-- The value of digits without zeros in front. -/
def plainDigits? (text : List Char) : Option Nat :=
  match text with
  | [] => none
  | ['0'] => some 0
  | c :: _ =>
    if c != '0' && text.all Char.isDigit then
      some (text.foldl (fun value d => 10 * value + (d.toNat - 48)) 0)
    else none

/-- The value of digits without zeros in front, with an optional minus sign. -/
def plainInteger? (text : List Char) : Option Int :=
  match text with
  | '-' :: rest => (plainDigits? rest).map fun value => -(value : Int)
  | _ => (plainDigits? text).map Int.ofNat

/-- Drops the zeros in front of a number, with underscores between them. -/
def dropLeadingZeros? (text : List Char) : Option (List Char) :=
  match text with
  | '0' :: rest =>
    match rest.dropWhile (fun c => c == '0' || c == '_') with
    | [] => text.getLast?.map fun c => [c]
    | '.' :: after => ((text.take (text.length - after.length - 1)).getLast?).map (· :: '.' :: after)
    | c :: after => if c.isDigit then some (c :: after) else none
  | c :: _ => if c == '-' || c.isDigit then some text else none
  | [] => none

/-- Drops a point with zeros behind it. -/
def dropFraction? (text : List Char) : Option (List Char) :=
  match text.dropWhile (· != '.') with
  | [] => some text
  | _ :: zeros =>
    if !zeros.isEmpty && zeros.all (· == '0') then some (text.takeWhile (· != '.')) else none

/-- Whether a text has two underscores next to each other. -/
def hasDoubleUnderscore : List Char → Bool
  | '_' :: '_' :: _ => true
  | _ :: rest => hasDoubleUnderscore rest
  | [] => false

/-- Drops single underscores inside a text; one at an end or two together stay. -/
def dropUnderscores (text : List Char) : List Char :=
  if text.head? == some '_' || text.getLast? == some '_' || hasDoubleUnderscore text then text
  else text.filter (· != '_')

/-- The integer that a text stands for. -/
def integerText? (text : String) : Option Int :=
  let clean := do
    let bare := stripped text.toList
    let unsigned ← match bare with
      | '+' :: rest => if rest.head?.any (fun c => c == '+' || c == '-') then none else some rest
      | other => some other
    let short ← dropLeadingZeros? unsigned
    let whole ← dropFraction? short
    plainInteger? (dropUnderscores whole)
  (plainInteger? text.toList).or clean

/-- Reads an integer. -/
def readInteger (value : Json) : Except SettingCause Int :=
  match value with
  | .int i => .ok i
  | .bool b => .ok (if b then 1 else 0)
  | .float (.finite negative mantissa exponent) =>
    let number := Double.finite negative mantissa exponent
    if !number.isWhole then .error .fractional
    else match number.truncate? with
      | some i => if i.natAbs ≤ Nat.pow 2 63 then .ok i else .error .integerTooLong
      | none => .error .notFinite
  | .float _ => .error .notFinite
  | .string text =>
    if text.length > mostDigits then .error .integerTooLong
    else match integerText? text with
      | some i => .ok i
      | none => .error .notInteger
  | _ => .error .noInteger

/-! ## Numbers -/

/-- A decimal with an optional exponent; digits stand before or behind the point. -/
def decimalText? (negative : Bool) (text : List Char) : Option Double :=
  let whole := text.takeWhile Char.isDigit
  let rest := text.dropWhile Char.isDigit
  let (fraction, rest) := match rest with
    | '.' :: after => (after.takeWhile Char.isDigit, after.dropWhile Char.isDigit)
    | _ => ([], rest)
  let digits := whole ++ fraction
  let value := digits.foldl (fun value d => 10 * value + (d.toNat - 48)) 0
  if digits.isEmpty then none
  else match rest with
    | [] => some (Double.ofDecimal negative value (-(fraction.length : Int)))
    | e :: after =>
      if e != 'e' && e != 'E' then none
      else
        let (down, figures) := match after with
          | '-' :: figures => (true, figures)
          | '+' :: figures => (false, figures)
          | figures => (false, figures)
        if figures.isEmpty || !figures.all Char.isDigit then none
        else
          let size : Int := figures.foldl (fun value d => 10 * value + (d.toNat - 48)) 0
          some (Double.ofDecimal negative value
            ((if down then -size else size) - fraction.length))

/-- The number that a text stands for. -/
def plainNumber? (text : List Char) : Option Double :=
  let (negative, rest) := match text with
    | '-' :: rest => (true, rest)
    | '+' :: rest => (false, rest)
    | rest => (false, rest)
  match String.ofList (rest.map Char.toLower) with
  | "inf" => some (.infinite negative)
  | "infinity" => some (.infinite negative)
  | "nan" => some .nan
  | _ => decimalText? negative rest

/-- The number that a text stands for, with white space around or underscores in it. -/
def numberText? (text : String) : Option Double :=
  let chars := text.toList
  (plainNumber? (stripped chars)).or
    (if chars.contains '_' then plainNumber? (dropUnderscores chars) else none)

/-- Reads a number. -/
def readNumber (value : Json) : Except SettingCause Double :=
  match value with
  | .int i => .ok (Double.ofInt i)
  | .bool b => .ok (Double.ofInt (if b then 1 else 0))
  | .float d => .ok d
  | .string text =>
    match numberText? text with
    | some d => .ok d
    | none => .error .notNumber
  | _ => .error .noNumber

/-! ## Yes and no -/

/-- The words for yes. -/
def yesWords : List String := ["1", "on", "t", "true", "y", "yes"]

/-- The words for no. -/
def noWords : List String := ["0", "off", "f", "false", "n", "no"]

/-- Yes or no as a text, in any case. -/
def truthText? (text : String) : Option Bool :=
  let word := String.ofList (text.toList.map Char.toLower)
  if yesWords.contains word then some true
  else if noWords.contains word then some false
  else none

/-- Reads yes or no. -/
def readTruth (value : Json) : Except SettingCause Bool :=
  match value with
  | .bool b => .ok b
  | .string text =>
    match truthText? text with
    | some b => .ok b
    | none => .error .notTruth
  | .int i =>
    if i = 0 then .ok false
    else if i = 1 then .ok true
    else if i.natAbs < Nat.pow 2 63 then .error .notTruth
    else .error .noTruth
  | .float d =>
    match readInteger (.float d) with
    | .ok i => if i = 0 then .ok false else if i = 1 then .ok true else .error .notTruth
    | .error _ => .error .noTruth
  | _ => .error .noTruth

/-! ## Texts and lists -/

/-- Reads a text. -/
def readText (value : Json) : Except SettingCause String :=
  match value with
  | .string text => .ok text
  | _ => .error .noText

/-- The items of a text between commas, trimmed and without empty ones. -/
def splitCommas (text : String) : List String :=
  ((pieces ',' text).map trim).filter (· != "")

/-- The items of a list that is given as one text: a JSON array, or else items between commas. A text
that goes deeper than JSON can be read ends it. -/
def splitList (limits : Json.Limits) (text : String) : Except Json.Container (List String) :=
  match Json.read limits text with
  | .ok (.array items) => .ok (items.map Json.display)
  | .ok _ => .ok (splitCommas text)
  | .error .malformed => .ok (splitCommas text)
  | .error (.tooDeep container) => .error container

end LogAudit.Settings
