import LogAudit.Text.Scan

/-! # Call openers

A log call opens with a logger's name, a dot, a level and a parenthesis; a console call opens with
`System`, a stream, a print method and a parenthesis. Blanks may stand around the dots and before the
parenthesis. -/

namespace LogAudit.Source
set_option autoImplicit false

open Text

/-- The names that a logger goes by. -/
def loggerNames : List String := ["logger", "log", "LOGGER", "LOG"]

/-- The methods of a logger that write. -/
def levelNames : List String := ["info", "debug", "warn", "error", "trace", "fatal"]

/-- The streams of the console. -/
def streamNames : List String := ["out", "err"]

/-- The methods of a console stream that write. -/
def printNames : List String := ["print", "println", "printf"]

/-- The text behind the first of the words that can be followed as required. -/
def dropOneOf (words : List String) (next : List Char → Option (List Char)) (text : List Char) :
    Option (List Char) :=
  words.findSome? fun word => (dropWord word text).bind next

/-- The text behind a dot that blanks may surround. -/
def dropDot (text : List Char) : Option (List Char) :=
  (dropSpaced '.' text).map dropBlanks

/-- The text behind the opener of a log call. -/
def dropLogOpener (text : List Char) : Option (List Char) :=
  dropOneOf loggerNames
    (fun rest => (dropDot rest).bind (dropOneOf levelNames (dropSpaced '('))) text

/-- The text behind the opener of a console call. -/
def dropConsoleOpener (text : List Char) : Option (List Char) :=
  (dropWord "System" text).bind fun rest =>
    (dropDot rest).bind (dropOneOf streamNames fun rest =>
      (dropDot rest).bind (dropOneOf printNames (dropSpaced '(')))

/-- Whether a line opens a log call or a console call where a word begins. -/
def opensCall (line : String) : Bool :=
  occursAtWord (fun rest => (dropLogOpener rest).isSome || (dropConsoleOpener rest).isSome)
    line.toList

end LogAudit.Source
