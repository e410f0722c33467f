import LogAudit.Source.Argument
import LogAudit.Source.Literal

/-! # Names in a statement

The ways to pull candidate names out of a text: its variables, the methods it calls, and the names in
arguments of calls that build text. A name is an ASCII identifier; names that begin inside a literal do
not count. -/

namespace LogAudit.Source
set_option autoImplicit false

open Text

/-- Whether a text is an ASCII identifier. -/
def isName (text : List Char) : Bool :=
  text.head?.any isNameStart && text.all isAsciiWord

/-- The whole words of a text that are names and stand outside literals, in order. -/
def wholeNames (text : List Char) : List String :=
  let literals := literalRanges text
  (runs isWord text).filterMap fun run =>
    if isName run.text && !inLiteral literals run.start then some (String.ofList run.text) else none

/-- The names followed by an opening parenthesis that begin outside literals, in order. A name
starts at the first letter or underscore of a run of ASCII word characters. -/
def methodCalls (text : List Char) : List String :=
  let literals := literalRanges text
  (runs isAsciiWord text).filterMap fun run =>
    let digits := run.text.takeWhile Char.isDigit
    let name := run.text.dropWhile Char.isDigit
    if !name.isEmpty && (dropSpaced '(' run.after).isSome &&
        !inLiteral literals (run.start + digits.length : Nat) then
      some (String.ofList name)
    else none

/-- The whole names of a fragment, then the methods it calls. -/
def namesOf (fragment : List Char) : List String :=
  wholeNames fragment ++ methodCalls fragment

/-- The names in all finds of a reader. -/
def namesFound (read : Reader (List Char)) (text : List Char) : List String :=
  (findAll read text).flatMap fun fragment => namesOf (trimmed fragment)

/-- The names appended to a buffer that is built within the text. -/
def appendedNames (text : List Char) : List String :=
  if occursIn "StringBuilder".toList text || occursIn "StringBuffer".toList text then
    namesFound readInlineAppend text
  else []

/-- The names among the joined arguments of `String.join`. -/
def joinedNames (text : List Char) : List String :=
  namesFound readJoin text

/-- The names added to a `StringJoiner`. -/
def joinerNames (text : List Char) : List String :=
  namesFound readJoiner text

end LogAudit.Source
