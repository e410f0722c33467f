import LogAudit.Json.Basic
import LogAudit.Text.Scan

/-! # Reading JSON

A strict reader for one JSON document, with `NaN`, `Infinity` and `-Infinity` as further numbers. An
integer is kept exactly; a number with a point or an exponent is rounded to the nearest binary one. A
platform may limit how deep arrays and objects stand inside of each other, and how many digits an
integer has. -/

namespace LogAudit.Json
set_option autoImplicit false

open Text

/-! ## Limits -/

/-- What can stand inside of itself. -/
inductive Container
  | array
  | object
deriving Repr, DecidableEq

/-- Why a text is not read. -/
inductive Failure
  | malformed
  | tooDeep (container : Container)
deriving Repr, DecidableEq

/-- The limits inside of one more array or object, if it can be opened. -/
def Limits.inside? (limits : Limits) : Option Limits :=
  match limits.deepest with
  | none => some limits
  | some 0 => none
  | some (levels + 1) => some { limits with deepest := some levels }

/-! ## Blanks and literals -/

/-- The blanks of JSON. -/
def isSpace (c : Char) : Bool :=
  c == ' ' || c == '\t' || c == '\n' || c == '\r'

/-- Drops the blanks in front. -/
def dropSpaces (text : List Char) : List Char :=
  text.dropWhile isSpace

/-- The value of a hexadecimal digit. -/
def hexValue? (c : Char) : Option Nat :=
  if c.isDigit then some (c.toNat - 48)
  else if 'a' ≤ c ∧ c ≤ 'f' then some (c.toNat - 87)
  else if 'A' ≤ c ∧ c ≤ 'F' then some (c.toNat - 55)
  else none

/-! ## Strings -/

/-- Reads four hexadecimal digits. -/
def hexUnit? : Reader Nat
  | a :: b :: c :: d :: rest =>
    match hexValue? a, hexValue? b, hexValue? c, hexValue? d with
    | some a, some b, some c, some d => some (((a * 16 + b) * 16 + c) * 16 + d, rest)
    | _, _, _, _ => none
  | _ => none

/-- Reads the second half of a pair behind the first, if it is there. -/
def lowUnit? : Reader Nat
  | '\\' :: 'u' :: rest =>
    match hexUnit? rest with
    | some (unit, rest) => if 0xDC00 ≤ unit ∧ unit ≤ 0xDFFF then some (unit, rest) else none
    | none => none
  | _ => none

/-- Reads a character by its code behind `\u`; beyond the basic plane it takes a pair of codes, and
half a pair by itself is replaced. -/
def unicodeEscape? : Reader Char := fun text =>
  (hexUnit? text).map fun (unit, rest) =>
    if 0xD800 ≤ unit ∧ unit ≤ 0xDBFF then
      match lowUnit? rest with
      | some (low, rest) => (Char.ofNat (0x10000 + (unit - 0xD800) * 0x400 + (low - 0xDC00)), rest)
      | none => (Char.ofNat 0xFFFD, rest)
    else if 0xDC00 ≤ unit ∧ unit ≤ 0xDFFF then (Char.ofNat 0xFFFD, rest)
    else (Char.ofNat unit, rest)

/-- Reads what follows a backslash. -/
def escape? : Reader Char
  | '"' :: rest => some ('"', rest)
  | '\\' :: rest => some ('\\', rest)
  | '/' :: rest => some ('/', rest)
  | 'b' :: rest => some (Char.ofNat 8, rest)
  | 'f' :: rest => some (Char.ofNat 12, rest)
  | 'n' :: rest => some ('\n', rest)
  | 'r' :: rest => some ('\r', rest)
  | 't' :: rest => some ('\t', rest)
  | 'u' :: rest => unicodeEscape? rest
  | _ => none

/-- Reads a string behind its opening quote; the number bounds its characters, and the characters read
so far come last one first. -/
def stringFrom? : Nat → List Char → Reader String
  | 0, _, _ => none
  | _ + 1, _, [] => none
  | count + 1, read, c :: rest =>
    if c = '"' then some (String.ofList read.reverse, rest)
    else if c = '\\' then
      match escape? rest with
      | some (c, rest) => stringFrom? count (c :: read) rest
      | none => none
    else if c.toNat < 32 then none
    else stringFrom? count (c :: read) rest

/-- Reads a string behind its opening quote. -/
def string? : Reader String := fun text =>
  stringFrom? (text.length + 1) [] text

/-! ## Numbers -/

/-- Splits off the digits in front. -/
def spanDigits (text : List Char) : List Char × List Char :=
  (text.takeWhile Char.isDigit, text.dropWhile Char.isDigit)

/-- The value of ASCII digits. -/
def digitsToNat (digits : List Char) : Nat :=
  digits.foldl (fun value c => 10 * value + (c.toNat - 48)) 0

/-- Reads a point and digits. -/
def fraction? : Reader (List Char)
  | '.' :: rest =>
    match spanDigits rest with
    | ([], _) => none
    | (digits, rest) => some (digits, rest)
  | _ => none

/-- Reads an exponent. -/
def exponent? : Reader Int
  | c :: rest =>
    if c = 'e' ∨ c = 'E' then
      let (negative, rest) := match rest with
        | '-' :: rest => (true, rest)
        | '+' :: rest => (false, rest)
        | rest => (false, rest)
      match spanDigits rest with
      | ([], _) => none
      | (digits, rest) =>
        let value : Int := digitsToNat digits
        some (if negative then -value else value, rest)
    else none
  | [] => none

/-- Reads the digits before the point: a zero, or digits that begin with another. -/
def whole? : Reader (List Char) := fun text =>
  match text with
  | '0' :: rest => some (['0'], rest)
  | _ =>
    match spanDigits text with
    | ([], _) => none
    | (digits, rest) => some (digits, rest)

/-- Reads an unsigned number. -/
def number? (limits : Limits) (negative : Bool) : Reader Json := fun text =>
  match whole? text with
  | none => none
  | some (whole, rest) =>
    let (fraction, rest) := match fraction? rest with
      | some (digits, rest) => (some digits, rest)
      | none => (none, rest)
    let (exponent, rest) := match exponent? rest with
      | some (value, rest) => (some value, rest)
      | none => (none, rest)
    match fraction, exponent with
    | none, none =>
      let value : Int := digitsToNat whole
      if limits.allows whole.length then some (.int (if negative then -value else value), rest)
      else none
    | _, _ =>
      let digits := whole ++ fraction.getD []
      let scale := exponent.getD 0 - (fraction.getD []).length
      some (.float (.ofDecimal negative (digitsToNat digits) scale), rest)

/-! ## Values -/

/-- The words that are values, with these. -/
def words : List (String × Json) :=
  [("null", .null), ("true", .bool true), ("false", .bool false), ("NaN", .float .nan),
    ("Infinity", .float (.infinite false)), ("-Infinity", .float (.infinite true))]

/-- Reads a word that is a value. -/
def word? : Reader Json := fun text =>
  words.findSome? fun (word, value) => (dropWord word text).map (value, ·)

/-- Reads a value that is neither an array nor an object. -/
def scalar? (limits : Limits) : Reader Json := fun text =>
  match text with
  | '"' :: rest => (string? rest).map fun (value, rest) => (.string value, rest)
  | '-' :: rest => (number? limits true rest).or (word? text)
  | _ => (word? text).or (number? limits false text)

/-- Reads the name of a member, with the colon and the blanks behind it. -/
def name? : Reader String := fun text =>
  match text with
  | '"' :: rest =>
    match string? rest with
    | none => none
    | some (name, rest) =>
      match dropSpaces rest with
      | ':' :: rest => some (name, dropSpaces rest)
      | _ => none
  | _ => none

/-- What is read in front of a text, and the rest of it. -/
abbrev Parsed : Type := Except Failure (Json × List Char)

/-- What a reader gives, which takes every other text for malformed. -/
def parsed : Option (Json × List Char) → Parsed
  | some found => .ok found
  | none => .error .malformed

/-- Goes on behind what was read. -/
def thenRead (first : Parsed) (next : Json → List Char → Parsed) : Parsed :=
  match first with
  | .ok (value, rest) => next value rest
  | .error failure => .error failure

/-- Goes on inside of one more array or object, if it can be opened. -/
def Limits.within (limits : Limits) (container : Container) (next : Limits → Parsed) : Parsed :=
  match limits.inside? with
  | some inside => next inside
  | none => .error (.tooDeep container)

mutual

/-- Reads a value; the number bounds the depth and the number of items. -/
def readValue : Limits → Nat → List Char → Parsed
  | _, 0, _ => .error .malformed
  | limits, fuel + 1, text =>
    match text with
    | '[' :: rest =>
      limits.within .array fun inside =>
        match dropSpaces rest with
        | ']' :: rest => .ok (.array [], rest)
        | rest => readItems inside fuel [] rest
    | '\x7b' :: rest =>
      limits.within .object fun inside =>
        match dropSpaces rest with
        | '\x7d' :: rest => .ok (.object [], rest)
        | rest => readMembers inside fuel [] rest
    | _ => parsed (scalar? limits text)

/-- Reads the items of an array up to its closing bracket, behind those already read. -/
def readItems : Limits → Nat → List Json → List Char → Parsed
  | _, 0, _, _ => .error .malformed
  | limits, fuel + 1, before, text =>
    thenRead (readValue limits fuel text) fun item rest =>
      match dropSpaces rest with
      | ',' :: rest => readItems limits fuel (item :: before) (dropSpaces rest)
      | ']' :: rest => .ok (.array (item :: before).reverse, rest)
      | _ => .error .malformed

/-- Reads the members of an object up to its closing brace, behind those already read. -/
def readMembers : Limits → Nat → List (String × Json) → List Char → Parsed
  | _, 0, _, _ => .error .malformed
  | limits, fuel + 1, before, text =>
    match name? text with
    | none => .error .malformed
    | some (name, rest) =>
      thenRead (readValue limits fuel rest) fun value rest =>
        match dropSpaces rest with
        | ',' :: rest => readMembers limits fuel (insertMember before name value) (dropSpaces rest)
        | '\x7d' :: rest => .ok (.object (insertMember before name value), rest)
        | _ => .error .malformed

end

/-- Reads a text that is one JSON document. -/
def read (limits : Limits) (text : String) : Except Failure Json :=
  match readValue limits (2 * text.toList.length + 2) (dropSpaces text.toList) with
  | .ok (value, rest) => if (dropSpaces rest).isEmpty then .ok value else .error .malformed
  | .error failure => .error failure

end LogAudit.Json
