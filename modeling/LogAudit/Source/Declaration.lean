import LogAudit.Text.Scan

/-! # Method declarations

A line declares a method if, trimmed, it starts with modifiers and blanks in any order, then a return
type, a blank, a name and a parameter list. A return type is a primitive one, or a capital letter
followed by letters, digits, underscores, brackets, commas and blanks.

All of a capitalised type and the name behind it up to the parenthesis is one run of such characters,
so the name is what the trimmed run ends with. -/

namespace LogAudit.Source
set_option autoImplicit false

open Text

/-- The words that can stand before a return type. -/
def modifiers : List String :=
  ["public", "private", "protected", "static", "final", "abstract", "synchronized", "native",
    "strictfp"]

/-- The return types that are keywords. -/
def primitiveTypes : List String :=
  ["void", "boolean", "byte", "char", "short", "int", "long", "float", "double"]

/-- Drops modifiers and blanks; the number bounds how many are dropped. -/
def dropModifiersFrom : Nat → List Char → List Char
  | 0, text => text
  | _ + 1, [] => []
  | steps + 1, c :: rest =>
    if isBlank c then dropModifiersFrom steps rest
    else match modifiers.findSome? (dropWord · (c :: rest)) with
      | some after => dropModifiersFrom steps after
      | none => c :: rest

/-- A text without the modifiers and blanks in front. -/
def dropModifiers (text : List Char) : List Char :=
  dropModifiersFrom text.length text

/-- Whether a text starts with a parameter list. -/
def startsParameters (text : List Char) : Bool :=
  match text with
  | [] => false
  | c :: rest => c == '(' && rest.contains ')'

/-- Whether a text starts with at least one blank, a name and a parameter list. -/
def startsNamedParameters (text : List Char) : Bool :=
  match text with
  | [] => false
  | c :: rest =>
    isBlank c &&
      match dropBlanks rest with
      | [] => false
      | first :: more =>
        isNameStart first && startsParameters (dropBlanks (more.dropWhile isAsciiWord))

/-- The characters of a capitalised type behind its first letter. -/
def isTypePart (c : Char) : Bool :=
  isAsciiWord c || c == '<' || c == '>' || c == '[' || c == ']' || c == ',' || isBlank c

/-- Whether a run of type characters ends with a blank, a name and optional blanks. -/
def endsWithName (run : List Char) : Bool :=
  let backward := run.reverse.dropWhile isBlank
  let name := (backward.takeWhile isAsciiWord).reverse
  name.head?.any isNameStart && (backward.dropWhile isAsciiWord).head?.any isBlank

/-- Whether a text starts with a return type, a name and a parameter list. -/
def startsSignature (text : List Char) : Bool :=
  match text with
  | [] => false
  | c :: rest =>
    if c.isUpper then
      endsWithName (rest.takeWhile isTypePart) && startsParameters (rest.dropWhile isTypePart)
    else
      primitiveTypes.any fun type => (dropWord type (c :: rest)).any startsNamedParameters

/-- Whether a line declares a method. -/
def declaresMethod (line : String) : Bool :=
  startsSignature (dropModifiers (trimmed line.toList))

end LogAudit.Source
