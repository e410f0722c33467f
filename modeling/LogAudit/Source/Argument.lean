import LogAudit.Text.Scan

/-! # Arguments of calls that build text

Readers for the calls whose arguments end up in a text: `append` on a buffer, `String.join`, and `add`
on a `StringJoiner`. An argument ends at the first closing parenthesis, so nested calls are cut. -/

namespace LogAudit.Source
set_option autoImplicit false

open Text

/-- Reads a non-empty argument and its closing parenthesis. -/
def readArgument : Reader (List Char) := fun text =>
  match text.takeWhile (· != ')'), text.dropWhile (· != ')') with
  | [], _ => none
  | _, [] => none
  | argument, _ :: rest => some (argument, rest)

/-- Reads blanks, an opening parenthesis, an argument and a closing parenthesis. -/
def readParenthesised : Reader (List Char) := fun text =>
  (dropSpaced '(' text).bind readArgument

/-- Reads `.append(argument)`, with blanks before the parenthesis. -/
def readInlineAppend : Reader (List Char) := fun text =>
  (dropWord ".append" text).bind readParenthesised

/-- Reads `.append(argument)`, with blanks behind the dot and before the parenthesis. -/
def readAppend : Reader (List Char) := fun text =>
  (dropWord "." text).bind fun rest =>
    (dropWord "append" (dropBlanks rest)).bind readParenthesised

/-! ## Joined arguments -/

/-- Splits a text before the last closing parenthesis that something stands in front of. -/
def splitLastClosing (text : List Char) : Reader (List Char) := fun behind =>
  match text.reverse.dropWhile (· != ')') with
  | _ :: inside@(_ :: _) =>
    some (inside.reverse, text.drop (inside.length + 1) ++ behind)
  | _ => none

/-- Reads from the front of a text up to the last closing parenthesis of its first line. -/
def readToLastClosing : Reader (List Char) := fun text =>
  splitLastClosing (text.takeWhile (· != '\n')) (text.dropWhile (· != '\n'))

/-- Reads the arguments behind blanks; if nothing but blanks stands there, they give way one by one.
The first list holds the blanks passed, nearest first. -/
def readJoined : List Char → Reader (List Char)
  | [], text => readToLastClosing text
  | blank :: passed, text => (readToLastClosing text).or (readJoined passed (blank :: text))

/-- Reads `String.join(separator, arguments)`, giving the arguments. -/
def readJoin : Reader (List Char) := fun text =>
  (dropWord "String.join" text).bind fun rest =>
    (dropSpaced '(' rest).bind fun rest =>
      match rest.takeWhile (· != ','), rest.dropWhile (· != ',') with
      | [], _ => none
      | _, [] => none
      | _, _ :: rest => readJoined (rest.takeWhile isBlank).reverse (dropBlanks rest)

/-- Reads `.add(argument)`, with blanks before the parenthesis. -/
def readAdd : Reader (List Char) := fun text =>
  (dropWord ".add" text).bind readParenthesised

/-- The last place within a line where `.add(argument)` begins. -/
def readLastAdd : Reader (List Char)
  | [] => none
  | c :: rest => if c = '\n' then none else (readLastAdd rest).or (readAdd (c :: rest))

/-- Reads `StringJoiner` and the last `.add(argument)` that begins on the same line. -/
def readJoiner : Reader (List Char) := fun text =>
  (dropWord "StringJoiner" text).bind readLastAdd

end LogAudit.Source
