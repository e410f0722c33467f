/-! # Flaws of encoded text

Why bytes are no text of the character set that they are said to have. -/

namespace LogAudit.Encoding
set_option autoImplicit false

/-- What is wrong with some bytes; `other` has the words of a decoder from elsewhere. -/
inductive Flaw
  | invalidStart
  | invalidContinuation
  | unexpectedEnd
  | beyondAscii
  | unmapped
  | truncated
  | stray
  | unpaired
  | surrogate
  | beyondUnicode
  | other (reason : String)
deriving Repr, DecidableEq

/-- The words for a flaw. -/
def Flaw.reason : Flaw → String
  | invalidStart => "invalid start byte"
  | invalidContinuation => "invalid continuation byte"
  | unexpectedEnd => "unexpected end of data"
  | beyondAscii => "ordinal not in range(128)"
  | unmapped => "character maps to <undefined>"
  | truncated => "truncated data"
  | stray => "illegal encoding"
  | unpaired => "illegal UTF-16 surrogate"
  | surrogate => "code point in surrogate code point range(0xd800, 0xe000)"
  | beyondUnicode => "code point not in range(0x110000)"
  | other reason => reason

end LogAudit.Encoding
