/-! # Blank characters and trimming

The blank characters are the white space of every script together with the four information
separators U+001C to U+001F. A text is trimmed by dropping blanks at its two ends. -/

namespace LogAudit.Text
set_option autoImplicit false

/-- Whether a character is blank. -/
def isBlank (c : Char) : Bool :=
  let code := c.toNat
  (9 ≤ code && code ≤ 13) || (28 ≤ code && code ≤ 32) || code == 0x85 || code == 0xA0 ||
    code == 0x1680 || (0x2000 ≤ code && code ≤ 0x200A) || code == 0x2028 || code == 0x2029 ||
    code == 0x202F || code == 0x205F || code == 0x3000

/-- Drops the blanks in front. -/
def dropBlanks (text : List Char) : List Char :=
  text.dropWhile isBlank

/-- Drops the blanks at the end. -/
def dropEndBlanks (text : List Char) : List Char :=
  (text.reverse.dropWhile isBlank).reverse

/-- Drops the blanks at both ends. -/
def trimmed (text : List Char) : List Char :=
  dropEndBlanks (dropBlanks text)

/-- A text without the blanks at its two ends. -/
def trim (text : String) : String :=
  String.ofList (trimmed text.toList)

/-- Whether a text has no character but blanks. -/
def isBlankText (text : String) : Bool :=
  text.toList.all isBlank

end LogAudit.Text
