import LogAudit.Encoding.Charset
import LogAudit.Encoding.Utf8

/-! # Decoding

The text that bytes stand for in a character set.

* `decodeUtf16`: units of two bytes, with pairs of surrogates for what lies beyond U+FFFF.
* `decodeUtf32`: units of four bytes.
* `decodeMarked`: units whose order a mark tells.
* `windows1252?`: the characters of the Windows set between 0x80 and 0x9F.
* `Codecs`: decoders of further sets, which are brought in from elsewhere.
* `decode`: the text of bytes under the name of a set. -/

namespace LogAudit.Encoding
set_option autoImplicit false

/-- Why bytes cannot be decoded under a name: the name is at fault, or the bytes lack the mark that
tells the order of units of `bits` bits, or a decoder refuses to work, or the bytes have a flaw. -/
inductive Failure
  | unknownName (name : String)
  | notText (name : String)
  | missingMark (bits : Nat)
  | refused (message : String)
  | flawed (flaw : Flaw)
deriving Repr, DecidableEq

/-- The words for a failure. -/
def Failure.message : Failure → String
  | unknownName name => "unknown encoding: " ++ name
  | notText name =>
    "'" ++ name ++ "' is not a text encoding; use codecs.open() to handle arbitrary codecs"
  | missingMark bits => "UTF-" ++ toString bits ++ " stream does not start with BOM"
  | refused message => message
  | flawed flaw => flaw.reason

/-! ## Sets of one byte -/

/-- Every byte is a character. -/
def decodeLatin1 (bytes : List UInt8) : List Char :=
  bytes.map fun byte => Char.ofNat byte.toNat

/-- Only the bytes below 128 are characters. -/
def decodeAscii (bytes : List UInt8) : Except Flaw (List Char) :=
  bytes.mapM fun byte => if byte < 0x80 then .ok (Char.ofNat byte.toNat) else .error .beyondAscii

/-- The characters from 0x80 to 0x9F; a zero marks a byte that is none. -/
def windowsRow : List Nat :=
  [0x20AC, 0, 0x201A, 0x192, 0x201E, 0x2026, 0x2020, 0x2021, 0x2C6, 0x2030, 0x160, 0x2039, 0x152, 0,
    0x17D, 0, 0, 0x2018, 0x2019, 0x201C, 0x201D, 0x2022, 0x2013, 0x2014, 0x2DC, 0x2122, 0x161, 0x203A,
    0x153, 0, 0x17E, 0x178]

/-- The character of a byte in the Windows set. -/
def windows1252? (byte : UInt8) : Option Char :=
  if 0x80 ≤ byte && byte < 0xA0 then
    match windowsRow[byte.toNat - 0x80]? with
    | some 0 => none
    | some code => some (Char.ofNat code)
    | none => none
  else some (Char.ofNat byte.toNat)

/-- The text of bytes in the Windows set. -/
def decodeWindows1252 (bytes : List UInt8) : Except Flaw (List Char) :=
  bytes.mapM fun byte =>
    match windows1252? byte with
    | some c => .ok c
    | none => .error .unmapped

/-! ## UTF-16 -/

/-- The value of two bytes, the low one first if `little`. -/
def unitOf (little : Bool) (a b : UInt8) : Nat :=
  if little then b.toNat * 256 + a.toNat else a.toNat * 256 + b.toNat

/-- The text of units of two bytes. -/
def decodeUtf16 (little : Bool) : List UInt8 → Except Flaw (List Char)
  | [] => .ok []
  | [_] => .error .truncated
  | a :: b :: rest =>
    let unit := unitOf little a b
    if unit < 0xD800 || unit ≥ 0xE000 then prepend unit (decodeUtf16 little rest)
    else if unit ≥ 0xDC00 then .error .stray
    else
      match rest with
      | [] => .error .unexpectedEnd
      | [_] => .error .unexpectedEnd
      | c :: d :: after =>
        let low := unitOf little c d
        if 0xDC00 ≤ low && low < 0xE000 then
          prepend (0x10000 + (unit - 0xD800) * 1024 + (low - 0xDC00)) (decodeUtf16 little after)
        else .error .unpaired

/-! ## UTF-32 -/

/-- The text of units of four bytes. -/
def decodeUtf32 (little : Bool) : List UInt8 → Except Flaw (List Char)
  | [] => .ok []
  | a :: b :: c :: d :: rest =>
    let first := unitOf little a b
    let second := unitOf little c d
    let code := if little then second * 65536 + first else first * 65536 + second
    if 0xD800 ≤ code && code < 0xE000 then .error .surrogate
    else if 0x110000 ≤ code then .error .beyondUnicode
    else prepend code (decodeUtf32 little rest)
  | _ => .error .truncated

/-! ## Marks of the order of bytes -/

/-- The marks of units of two bytes: the low byte first, and last. -/
def marks16 : List UInt8 × List UInt8 := ([0xFF, 0xFE], [0xFE, 0xFF])

/-- The marks of units of four bytes: the low byte first, and last. -/
def marks32 : List UInt8 × List UInt8 := ([0xFF, 0xFE, 0x00, 0x00], [0x00, 0x00, 0xFE, 0xFF])

/-- The text of units of `bits` bits whose order a mark in front tells. Without a mark the low byte
counts as the first, and bytes that have text in that order are refused for want of the mark. -/
def decodeMarked (bits : Nat) (marks : List UInt8 × List UInt8)
    (decodeUnits : Bool → List UInt8 → Except Flaw (List Char)) (bytes : List UInt8) :
    Except Failure (List Char) :=
  match marks.1.isPrefixOf? bytes, marks.2.isPrefixOf? bytes with
  | some rest, _ => (decodeUnits true rest).mapError .flawed
  | none, some rest => (decodeUnits false rest).mapError .flawed
  | none, none =>
    match decodeUnits true bytes with
    | .error flaw => .error (.flawed flaw)
    | .ok text => if bytes.isEmpty then .ok text else .error (.missingMark bits)

/-! ## Names -/

/-- The text of bytes in UTF-8, where a mark in front is dropped; a mark cut short is no text. -/
def decodeMarkedUtf8 (bytes : List UInt8) : Except Flaw (List Char) :=
  match bytes with
  | [0xEF] => .ok []
  | [0xEF, 0xBB] => .ok []
  | 0xEF :: 0xBB :: 0xBF :: rest => decodeUtf8 rest
  | _ => decodeUtf8 bytes

/-- Decoders of the sets that have none here, by the name under which a set is asked for. -/
abbrev Codecs : Type := String → List UInt8 → Except Failure (List Char)

/-- Decoders for want of better ones: most sets agree with ASCII on its bytes, and only those bytes are
read. -/
def asciiCodecs : Codecs := fun _ bytes => (decodeAscii bytes).mapError .flawed

/-- The text of bytes under the name of a character set. -/
def decode (codecs : Codecs) (name : String) (bytes : List UInt8) : Except Failure (List Char) :=
  match Charset.named? name with
  | none => .error (.unknownName name)
  | some .transform => .error (.notText name)
  | some .utf8 => (decodeUtf8 bytes).mapError .flawed
  | some .utf8Marked => (decodeMarkedUtf8 bytes).mapError .flawed
  | some .ascii => (decodeAscii bytes).mapError .flawed
  | some .latin1 => .ok (decodeLatin1 bytes)
  | some .windows1252 => (decodeWindows1252 bytes).mapError .flawed
  | some .utf16 => decodeMarked 16 marks16 decodeUtf16 bytes
  | some .utf16Little => (decodeUtf16 true bytes).mapError .flawed
  | some .utf16Big => (decodeUtf16 false bytes).mapError .flawed
  | some .utf32 => decodeMarked 32 marks32 decodeUtf32 bytes
  | some .utf32Little => (decodeUtf32 true bytes).mapError .flawed
  | some .utf32Big => (decodeUtf32 false bytes).mapError .flawed
  | some .refusing => .error (.refused "undefined encoding")
  | some .wide => codecs name bytes
  | some .other => codecs name bytes

end LogAudit.Encoding
