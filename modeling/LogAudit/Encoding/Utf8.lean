import LogAudit.Encoding.Flaw

/-! # UTF-8

A character takes one to four bytes. The shortest form is the only one, and surrogates have none. -/

namespace LogAudit.Encoding
set_option autoImplicit false

/-- Whether a byte continues a character. -/
def isContinuation (byte : UInt8) : Bool :=
  0x80 ≤ byte && byte < 0xC0

/-- Whether a second byte can follow a first one of a character of three or four bytes. -/
def canFollow (first second : UInt8) : Bool :=
  isContinuation second &&
    !(first == 0xE0 && second < 0xA0) && !(first == 0xED && second ≥ 0xA0) &&
    !(first == 0xF0 && second < 0x90) && !(first == 0xF4 && second ≥ 0x90)

/-- The payload of a continuation byte. -/
def payload (byte : UInt8) : Nat := byte.toNat % 64

/-- Puts a character before a decoded text. -/
def prepend (code : Nat) (text : Except Flaw (List Char)) : Except Flaw (List Char) :=
  text.map (Char.ofNat code :: ·)

/-- The text that bytes stand for. -/
def decodeUtf8 : List UInt8 → Except Flaw (List Char)
  | [] => .ok []
  | a :: rest =>
    if a < 0x80 then prepend a.toNat (decodeUtf8 rest)
    else if a < 0xC2 || a ≥ 0xF5 then .error .invalidStart
    else if a < 0xE0 then
      match rest with
      | [] => .error .unexpectedEnd
      | b :: after =>
        if isContinuation b then prepend (a.toNat % 32 * 64 + payload b) (decodeUtf8 after)
        else .error .invalidContinuation
    else if a < 0xF0 then
      match rest with
      | [] => .error .unexpectedEnd
      | [b] => .error (if canFollow a b then .unexpectedEnd else .invalidContinuation)
      | b :: c :: after =>
        if canFollow a b && isContinuation c then
          prepend ((a.toNat % 16 * 64 + payload b) * 64 + payload c) (decodeUtf8 after)
        else .error .invalidContinuation
    else
      match rest with
      | [] => .error .unexpectedEnd
      | [b] => .error (if canFollow a b then .unexpectedEnd else .invalidContinuation)
      | [b, c] =>
        .error (if canFollow a b && isContinuation c then .unexpectedEnd else .invalidContinuation)
      | b :: c :: d :: after =>
        if canFollow a b && isContinuation c && isContinuation d then
          prepend (((a.toNat % 8 * 64 + payload b) * 64 + payload c) * 64 + payload d)
            (decodeUtf8 after)
        else .error .invalidContinuation

end LogAudit.Encoding
