import LogAudit.Encoding.Decode
import LogAudit.Xml.Content
import LogAudit.Xml.Declaration
import LogAudit.Xml.Doctype

/-! # Documents

A document is bytes. Its first bytes tell whether a character takes one or two of them; the declaration
may then name the character set. What is no character of the set becomes U+FFFF, which no document can
hold, and how the bytes end is noted.

* `DecodedText`, `Decoder`: the text of a document.
* `namedDecoder`: what the name of a further set comes to.
* `parseDocument`: the root element of a document. -/

namespace LogAudit.Xml
set_option autoImplicit false

open Encoding

/-- Why bytes are no document. -/
inductive Failure
  | malformed (fault : Fault) (line column : Nat)
  | unknownEncoding (name : String)
  | notText (name : String)
  | wideEncoding
  | refused (name reason : String)
  | beyondAscii
deriving Repr, DecidableEq

/-- The words for a failure. -/
def Failure.message : Failure → String
  | malformed fault line column =>
    fault.message ++ ": line " ++ toString line ++ ", column " ++ toString column
  | unknownEncoding name => "unknown encoding: " ++ name
  | notText name =>
    "'" ++ name ++ "' is not a text encoding; use codecs.decode() to handle arbitrary codecs"
  | wideEncoding => "multi-byte encodings are not supported"
  | refused name reason =>
    "decoding with '" ++ name ++ "' codec failed (UnicodeError: " ++ reason ++ ")"
  | beyondAscii => "'ascii' codec can't decode byte 0x80 in position 82: ordinal not in range(128)"

/-! ## Decoding -/

/-- The text of a document, and how its bytes end. -/
structure DecodedText where
  text : List Char
  ending : Ending := .whole
deriving Repr, DecidableEq

/-- The mark for bytes that are no character. -/
def unreadable : Char := Char.ofNat 0xFFFF

/-- Puts a character in front. -/
def DecodedText.cons (c : Char) (rest : DecodedText) : DecodedText :=
  { rest with text := c :: rest.text }

/-- The text at bytes that are no character; what follows them is of no interest. -/
def brokenText : DecodedText := ⟨[unreadable], .whole⟩

/-- The text of bytes in UTF-8. -/
def utf8Text : List UInt8 → DecodedText
  | [] => ⟨[], .whole⟩
  | a :: rest =>
    if a < 0x80 then (utf8Text rest).cons (Char.ofNat a.toNat)
    else if a < 0xC0 || a ≥ 0xF5 then brokenText
    else if a < 0xE0 then
      match rest with
      | [] => ⟨[], .withinCharacter⟩
      | b :: after =>
        if a ≥ 0xC2 && isContinuation b then
          (utf8Text after).cons (Char.ofNat (a.toNat % 32 * 64 + payload b))
        else brokenText
    else if a < 0xF0 then
      match rest with
      | b :: c :: after =>
        if canFollow a b && isContinuation c then
          (utf8Text after).cons
            (Char.ofNat ((a.toNat % 16 * 64 + payload b) * 64 + payload c))
        else brokenText
      | _ => ⟨[], .withinCharacter⟩
    else
      match rest with
      | b :: c :: d :: after =>
        if canFollow a b && isContinuation c && isContinuation d then
          (utf8Text after).cons
            (Char.ofNat (((a.toNat % 8 * 64 + payload b) * 64 + payload c) * 64 + payload d))
        else brokenText
      | _ => ⟨[], .withinCharacter⟩

/-- The text of units of two bytes. -/
def utf16Text (little : Bool) : List UInt8 → DecodedText
  | [] => ⟨[], .whole⟩
  | [_] => ⟨[], .withinUnit⟩
  | a :: b :: rest =>
    let unit := unitOf little a b
    if unit < 0xD800 || unit ≥ 0xE000 then (utf16Text little rest).cons (Char.ofNat unit)
    else if unit ≥ 0xDC00 then brokenText
    else
      match rest with
      | c :: d :: after =>
        let low := unitOf little c d
        if 0xDC00 ≤ low && low < 0xE000 then
          (utf16Text little after).cons
            (Char.ofNat (0x10000 + (unit - 0xD800) * 1024 + (low - 0xDC00)))
        else brokenText
      | _ => ⟨[], .withinCharacter⟩

/-- A way from bytes to text. -/
abbrev Decoder : Type := List UInt8 → DecodedText

/-- The decoder of a set of one byte. -/
def byteDecoder (character? : UInt8 → Option Char) : Decoder := fun bytes =>
  ⟨bytes.map fun byte => (character? byte).getD unreadable, .whole⟩

/-- The decoder of the set in which every byte is a character. -/
def latin1Decoder : Decoder := byteDecoder fun byte => some (Char.ofNat byte.toNat)

/-- The ASCII character of a byte. -/
def ascii? (byte : UInt8) : Option Char :=
  if byte < 0x80 then some (Char.ofNat byte.toNat) else none

/-- The sets that need no declaration; `undecided` if the bytes break off before they tell. -/
inductive Width
  | bytes
  | pairs (little : Bool)
  | undecided
deriving Repr, DecidableEq

/-- The width of characters, told from the first two bytes. -/
def widthOf : List UInt8 → Width
  | [0x00] => .undecided
  | [0xFE] => .undecided
  | [0xFF] => .undecided
  | [0xEF] => .undecided
  | [0xEF, 0xBB] => .undecided
  | 0xFE :: 0xFF :: _ => .pairs false
  | 0xFF :: 0xFE :: _ => .pairs true
  | 0x00 :: _ :: _ => .pairs false
  | _ :: 0x00 :: _ => .pairs true
  | _ => .bytes

/-- The decoder of a document as long as no set is declared. -/
def Width.decoder : Width → Decoder
  | .bytes => utf8Text
  | .pairs little => utf16Text little
  | .undecided => fun _ => ⟨[], .withinUnit⟩

/-- The number of bytes that characters of a document without a declared set take. -/
def Width.byteCount (width : Width) (text : List Char) : Nat :=
  match width with
  | .bytes => (String.ofList text).utf8ByteSize
  | .pairs _ => 2 * text.length
  | .undecided => 0

/-! ## Declared sets -/

/-- What a declared name comes to: a decoder, a fault at the place of the name, or a failure. -/
inductive Declared
  | decoder (decoder : Decoder)
  | faulty (fault : Fault)
  | failed (failure : Failure)

/-- The sets that differ from ASCII in characters of markup. -/
def discordantNames : List String :=
  ["cp037", "cp1026", "cp1140", "cp273", "cp424", "cp500", "cp864", "cp875", "csibm037", "csibm1026",
    "csibm273", "csibm424", "csibm500", "csibm864", "ebcdic_cp_be", "ebcdic_cp_ca", "ebcdic_cp_ch",
    "ebcdic_cp_he", "ebcdic_cp_nl", "ebcdic_cp_us", "ebcdic_cp_wt", "ibm037", "ibm039", "ibm1026",
    "ibm1140", "ibm273", "ibm424", "ibm500", "ibm864", "mac_arabic", "mac_farsi"]

/-- The decoder of a further set, of which a byte is a character or none. -/
def furtherDecoder (codecs : Codecs) (name : String) : Decoder :=
  byteDecoder fun byte =>
    match codecs name [byte] with
    | .ok [c] => some c
    | _ => none

/-- What the name of a further set comes to. Two of them are for names in a network and cannot tell
what single bytes stand for. -/
def furtherSet (codecs : Codecs) (name : String) : Declared :=
  let form := String.ofList ((normalized name).toList.map fun c => if c = '.' then '_' else c)
  if form == "idna" then .failed (.refused name "Unsupported error handling replace")
  else if form == "punycode" then .failed .beyondAscii
  else if discordantNames.contains form then .faulty .unknownEncoding
  else .decoder (furtherDecoder codecs name)

/-- What a name comes to that no document needs to know. -/
def namedDecoder (codecs : Codecs) (name : String) : Declared :=
  match Charset.named? name with
  | none => .failed (.unknownEncoding name)
  | some .transform => .failed (.notText name)
  | some .refusing => .failed (.refused name "undefined encoding")
  | some .latin1 => .decoder latin1Decoder
  | some .windows1252 => .decoder (byteDecoder windows1252?)
  | some .utf16 => .failed .wideEncoding
  | some .utf16Little => .failed .wideEncoding
  | some .utf16Big => .failed .wideEncoding
  | some .utf32 => .failed .wideEncoding
  | some .utf32Little => .failed .wideEncoding
  | some .utf32Big => .failed .wideEncoding
  | some .wide => .failed .wideEncoding
  | some .utf8 => .decoder (byteDecoder ascii?)
  | some .utf8Marked => .decoder (byteDecoder ascii?)
  | some .ascii => .decoder (byteDecoder ascii?)
  | some .other => furtherSet codecs name

/-- What a declared name comes to in a document whose characters have a given width. -/
def declaredDecoder (codecs : Codecs) (width : Width) (name : String) : Declared :=
  let form := String.ofList (name.toList.map Char.toUpper)
  let whenWidth := fun (fits : Bool) (decoder : Decoder) =>
    if fits then Declared.decoder decoder else .faulty .wrongEncoding
  if form == "UTF-8" then whenWidth (width == .bytes) utf8Text
  else if form == "ISO-8859-1" then whenWidth (width == .bytes) latin1Decoder
  else if form == "US-ASCII" then whenWidth (width == .bytes) (byteDecoder ascii?)
  else if form == "UTF-16" then whenWidth (width != .bytes) width.decoder
  else if form == "UTF-16LE" then whenWidth (width == .pairs true) width.decoder
  else if form == "UTF-16BE" then whenWidth (width == .pairs false) width.decoder
  else namedDecoder codecs name

/-! ## Documents -/

/-- The mark that may stand before a document. -/
def orderMark : Char := Char.ofNat 0xFEFF

/-- A text without the mark in front. -/
def dropMark : List Char → List Char
  | [] => []
  | c :: rest => if c = orderMark then rest else c :: rest

/-- Reads what follows a declaration. -/
def readBody (draft : Draft) (ending : Ending) (text : List Char) : Except Halt Element := do
  let (dtd, content) ← readProlog ending (text.length + 1) draft text
  let (root, rest) ← readRoot dtd ending content
  readEpilog ending (rest.length + 1) rest
  return root

/-- Names the place of a fault in a text. -/
def Halt.inText (text : List Char) (halt : Halt) : Failure :=
  let position := positionOf text halt.rest
  .malformed halt.fault position.1 position.2

/-- The root element of a document. -/
def parseDocument (codecs : Codecs) (bytes : List UInt8) : Except Failure Element :=
  let width := widthOf bytes
  let plain := width.decoder bytes
  let start := dropMark plain.text
  match readTextDeclaration start with
  | .error halt => .error (halt.inText plain.text)
  | .ok none => (readBody {} plain.ending start).mapError (Halt.inText plain.text)
  | .ok (some (declared, after)) =>
    let draft : Draft := { stage := .misc, dtd := { standalone := declared.standalone } }
    match declared.encoding? with
    | none => (readBody draft plain.ending after).mapError (Halt.inText plain.text)
    | some (name, place) =>
      match declaredDecoder codecs width name with
      | .faulty fault => .error (Halt.inText plain.text ⟨fault, place ++ '?' :: '>' :: after⟩)
      | .failed failure => .error failure
      | .decoder decoder =>
        let used := width.byteCount (plain.text.take (plain.text.length - after.length))
        let tail := decoder (bytes.drop used)
        let text := (decoder (bytes.take used)).text ++ tail.text
        (readBody draft tail.ending tail.text).mapError (Halt.inText text)

end LogAudit.Xml
