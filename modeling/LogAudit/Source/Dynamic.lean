import LogAudit.Source.Literal
import LogAudit.Source.Opener

/-! # Dynamic content

A call has dynamic content if something other than literals is passed to it: once literals, call
openers and punctuation are gone, a name is left, or a plus sign with something beside it. -/

namespace LogAudit.Source
set_option autoImplicit false

open Text

/-- Parentheses and semicolons. -/
def isPunctuation (c : Char) : Bool :=
  c == '(' || c == ')' || c == ';'

/-- What is left of a text without literals, call openers and punctuation. -/
def residue (text : List Char) : List Char :=
  (eraseAll dropConsoleOpener (eraseAll dropLogOpener (stripLiterals text))).filter
    (!isPunctuation ·)

/-- Whether anything other than literals is passed to the call in a text. -/
def hasDynamicContent (text : List Char) : Bool :=
  let left := residue text
  left.any isNameStart || (left.contains '+' && left.any fun c => c != '+' && !isBlank c)

end LogAudit.Source
