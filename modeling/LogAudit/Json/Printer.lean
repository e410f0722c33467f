import LogAudit.Json.Basic

/-! # Writing JSON

Values are written on one line, or with one item on each line and an indent of two spaces per level.
Characters beyond ASCII are written as they are, or escaped. A platform may limit the digits of the
integers that it writes. -/

namespace LogAudit.Json
set_option autoImplicit false

open Text

/-- How JSON is written. -/
structure Style where
  /-- whether characters beyond ASCII are escaped -/
  ascii : Bool
  /-- whether each item has a line of its own -/
  indented : Bool
deriving Repr, DecidableEq

/-- A code of sixteen bits, escaped. -/
def unitEscape (unit : Nat) : List Char :=
  '\\' :: 'u' :: hexDigits 4 unit

/-- One character of a string. -/
def charText (ascii : Bool) (c : Char) : List Char :=
  if c == '"' then ['\\', '"']
  else if c == '\\' then ['\\', '\\']
  else if c == '\n' then ['\\', 'n']
  else if c == '\r' then ['\\', 'r']
  else if c == '\t' then ['\\', 't']
  else if c.toNat == 8 then ['\\', 'b']
  else if c.toNat == 12 then ['\\', 'f']
  else if c.toNat < 32 then unitEscape c.toNat
  else if ascii && c.toNat > 126 then
    if c.toNat < 0x10000 then unitEscape c.toNat
    else
      let offset := c.toNat - 0x10000
      unitEscape (0xD800 + offset / 0x400) ++ unitEscape (0xDC00 + offset % 0x400)
  else [c]

/-- A string in quotes. -/
def stringText (ascii : Bool) (text : String) : String :=
  String.ofList ('"' :: text.toList.flatMap (charText ascii) ++ ['"'])

/-- The text of a binary number. -/
def floatText : Decimal.Double → String
  | .nan => "NaN"
  | .infinite negative => if negative then "-Infinity" else "Infinity"
  | value => value.text

/-- The break before an item at a level. -/
def lineBreak (level : Nat) : String :=
  String.ofList ('\n' :: List.replicate (2 * level) ' ')

mutual

/-- A value at a level of indentation. -/
def textAt (style : Style) (level : Nat) : Json → String
  | .null => "null"
  | .bool value => if value then "true" else "false"
  | .int value => toString value
  | .float value => floatText value
  | .string value => stringText style.ascii value
  | .array [] => "[]"
  | .array (item :: rest) =>
    if style.indented then
      "[" ++ lineBreak (level + 1) ++ itemsAt style (level + 1) (item :: rest) ++
        lineBreak level ++ "]"
    else "[" ++ itemsAt style level (item :: rest) ++ "]"
  | .object [] => "\x7b\x7d"
  | .object (member :: rest) =>
    if style.indented then
      "\x7b" ++ lineBreak (level + 1) ++ membersAt style (level + 1) (member :: rest) ++
        lineBreak level ++ "\x7d"
    else "\x7b" ++ membersAt style level (member :: rest) ++ "\x7d"

/-- Items with separators between them. -/
def itemsAt (style : Style) (level : Nat) : List Json → String
  | [] => ""
  | item :: rest =>
    textAt style level item ++
      (if rest.isEmpty then ""
        else (if style.indented then "," ++ lineBreak level else ", ") ++ itemsAt style level rest)

/-- Members with separators between them. -/
def membersAt (style : Style) (level : Nat) : List (String × Json) → String
  | [] => ""
  | (name, value) :: rest =>
    stringText style.ascii name ++ ": " ++ textAt style level value ++
      (if rest.isEmpty then ""
        else (if style.indented then "," ++ lineBreak level else ", ") ++
          membersAt style level rest)

end

mutual

/-- The integers in a value. -/
def integers : Json → List Int
  | .int value => [value]
  | .array items => itemIntegers items
  | .object members => memberIntegers members
  | _ => []

/-- The integers in items. -/
def itemIntegers : List Json → List Int
  | [] => []
  | item :: rest => integers item ++ itemIntegers rest

/-- The integers in the values of members. -/
def memberIntegers : List (String × Json) → List Int
  | [] => []
  | (_, value) :: rest => integers value ++ memberIntegers rest

end

/-- A value in a style. -/
def text (style : Style) (value : Json) : String :=
  textAt style 0 value

/-- A value on one line in ASCII. -/
def compact (value : Json) : String :=
  value.text ⟨true, false⟩

end LogAudit.Json
