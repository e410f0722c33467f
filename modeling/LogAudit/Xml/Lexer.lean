import LogAudit.Xml.Char

/-! # Tokens of XML content

What content begins with: a character, a line end, a reference, a tag, or markup that carries no text.
A token is found, or the text is invalid at some place, or it is cut off before the token ends.

* `readReference`: entity and character references.
* `readAttributes`: the attributes of a start tag with their values as written.
* `readMarkup`: what begins with an angle bracket.
* `readContent`: the first token of content. -/

namespace LogAudit.Xml
set_option autoImplicit false

/-- The outcome of reading a token. -/
inductive Lexed (α : Type)
  | found (value : α) (rest : List Char)
  | invalid (rest : List Char)
  | cut
deriving Repr, DecidableEq

namespace Lexed

variable {α β : Type}

/-- Changes the token. -/
def map (f : α → β) : Lexed α → Lexed β
  | found value rest => .found (f value) rest
  | invalid rest => .invalid rest
  | cut => .cut

/-- Goes on reading behind the token. -/
def andThen (read : α → List Char → Lexed β) : Lexed α → Lexed β
  | found value rest => read value rest
  | invalid rest => .invalid rest
  | cut => .cut

end Lexed

/-! ## Names -/

/-- Drops the blanks in front. -/
def dropSpaces (text : List Char) : List Char := text.dropWhile isSpace

/-- Reads a name without a colon. -/
def readName (text : List Char) : Lexed String :=
  match text with
  | [] => .cut
  | c :: rest =>
    if isNameStart c then
      .found (String.ofList (c :: rest.takeWhile isNamePart)) (rest.dropWhile isNamePart)
    else .invalid text

/-- Reads a name that may have a prefix. -/
def readQualified (text : List Char) : Lexed String :=
  (readName text).andThen fun name rest =>
    match rest with
    | ':' :: after => (readName after).map fun localName => name ++ ":" ++ localName
    | _ => .found name rest

/-! ## References -/

/-- A reference to an entity, or to a character by its number. -/
inductive Reference
  | entity (name : String)
  | character (code : Nat)
deriving Repr, DecidableEq

/-- The value of a hexadecimal digit. -/
def hexValue? (c : Char) : Option Nat :=
  if '0' ≤ c && c ≤ '9' then some (c.toNat - 48)
  else if 'a' ≤ c && c ≤ 'f' then some (c.toNat - 87)
  else if 'A' ≤ c && c ≤ 'F' then some (c.toNat - 55)
  else none

/-- The value of a decimal digit. -/
def decimalValue? (c : Char) : Option Nat :=
  if '0' ≤ c && c ≤ '9' then some (c.toNat - 48) else none

/-- Reads digits up to a semicolon; `value` is that of the digits so far, if there are any. -/
def readNumber (base : Nat) (digit? : Char → Option Nat) : Option Nat → List Char → Lexed Nat
  | _, [] => .cut
  | value, c :: rest =>
    match digit? c, value with
    | some digit, _ => readNumber base digit? (some (value.getD 0 * base + digit)) rest
    | none, some number => if c = ';' then .found number rest else .invalid (c :: rest)
    | none, none => .invalid (c :: rest)

/-- Reads a reference behind its ampersand. -/
def readReference (text : List Char) : Lexed Reference :=
  match text with
  | '#' :: 'x' :: rest => (readNumber 16 hexValue? none rest).map .character
  | '#' :: rest => (readNumber 10 decimalValue? none rest).map .character
  | _ =>
    (readName text).andThen fun name rest =>
      match rest with
      | [] => .cut
      | ';' :: after => .found (.entity name) after
      | _ => .invalid rest

/-- The character with a number, if a document can hold it. -/
def characterOf? (code : Nat) : Option Char :=
  if code < 0x110000 && !(0xD800 ≤ code && code < 0xE000) && isXmlChar (Char.ofNat code) then
    some (Char.ofNat code)
  else none

/-- The character that one of the five entities known to every document stands for. -/
def knownEntity? (name : String) : Option Char :=
  match name with
  | "lt" => some '<'
  | "gt" => some '>'
  | "amp" => some '&'
  | "apos" => some '\''
  | "quot" => some '"'
  | _ => none

/-! ## Comments and instructions -/

/-- Reads a comment behind its opening. -/
def readComment : List Char → Lexed Unit
  | [] => .cut
  | c :: rest =>
    if c = '-' then
      match rest with
      | [] => .cut
      | '-' :: [] => .cut
      | '-' :: '>' :: after => .found () after
      | '-' :: after => .invalid after
      | _ => readComment rest
    else if isXmlChar c then readComment rest
    else .invalid (c :: rest)

/-- Reads an instruction up to its end. -/
def readInstructionBody : List Char → Lexed Unit
  | [] => .cut
  | c :: rest =>
    if c = '?' then
      match rest with
      | [] => .cut
      | '>' :: after => .found () after
      | _ => readInstructionBody rest
    else if isXmlChar c then readInstructionBody rest
    else .invalid (c :: rest)

/-- Whether a target is the reserved one, up to case. -/
def isReserved (target : String) : Bool :=
  String.ofList (target.toList.map Char.toLower) == "xml"

/-- Reads an instruction behind its opening; the flag says that it is a declaration. -/
def readInstruction (text : List Char) : Lexed Bool :=
  (readName text).andThen fun target rest =>
    match rest with
    | [] => .cut
    | c :: after =>
      if !(isSpace c || c = '?') then .invalid rest
      else if isReserved target && target != "xml" then .invalid rest
      else if isSpace c then (readInstructionBody after).map fun _ => target == "xml"
      else match after with
        | [] => .cut
        | '>' :: behind => .found (target == "xml") behind
        | _ => .invalid after

/-! ## Tags -/

/-- An attribute as written, with what is left of the text at its name and at its value. -/
structure RawAttribute where
  name : String
  value : List Char
  fromName : List Char
  fromValue : List Char
deriving Repr, DecidableEq

/-- Reads the value of an attribute up to its closing quote; the number counts characters that
belong to a reference already read. -/
def readValue (quote : Char) : Nat → List Char → Lexed (List Char)
  | _, [] => .cut
  | inside + 1, c :: rest => (readValue quote inside rest).map (c :: ·)
  | 0, c :: rest =>
    if c = quote then .found [] rest
    else if c = '<' || !isXmlChar c then .invalid (c :: rest)
    else if c = '&' then
      match readReference rest with
      | .found _ after => (readValue quote (rest.length - after.length) rest).map (c :: ·)
      | .invalid place => .invalid place
      | .cut => .cut
    else (readValue quote 0 rest).map (c :: ·)

/-- Reads an equals sign and a quoted value, with blanks around the sign. -/
def readAssigned (name : String) (fromName text : List Char) : Lexed RawAttribute :=
  match dropSpaces text with
  | [] => .cut
  | '=' :: rest =>
    match dropSpaces rest with
    | [] => .cut
    | c :: after =>
      if c = '"' || c = '\'' then
        (readValue c 0 after).map fun value => ⟨name, value, fromName, after⟩
      else .invalid (c :: after)
  | other => .invalid other

/-- Reads the end of a start tag; the flag says that the element is empty. -/
def readTagEnd (text : List Char) : Lexed Bool :=
  match text with
  | [] => .cut
  | '>' :: rest => .found false rest
  | '/' :: '>' :: rest => .found true rest
  | ['/'] => .cut
  | '/' :: rest => .invalid rest
  | _ => .invalid text

/-- Reads the attributes and the end of a start tag, from the blanks behind the last value or the
name on. The number bounds the attributes. -/
def readAttributes : Nat → List Char → Lexed (List RawAttribute × Bool)
  | 0, text => .invalid text
  | more + 1, text =>
    let next := dropSpaces text
    if text.head?.any isSpace && next.head?.any isNameStart then
      (readQualified next).andThen fun name rest =>
        (readAssigned name next rest).andThen fun first rest =>
          (readAttributes more rest).map fun tag => (first :: tag.1, tag.2)
    else (readTagEnd next).map fun isEmpty => ([], isEmpty)

/-- Reads an end tag behind its opening. -/
def readEndTag (text : List Char) : Lexed String :=
  match text with
  | [] => .cut
  | c :: _ =>
    if isNameStart c then
      let inName := fun d => isNamePart d || d == ':'
      let rest := text.dropWhile inName
      match rest with
      | [] => .cut
      | d :: _ =>
        if d = '>' || isSpace d then
          match dropSpaces rest with
          | [] => .cut
          | '>' :: after => .found (String.ofList (text.takeWhile inName)) after
          | other => .invalid other
        else .invalid rest
    else .invalid text

/-! ## Content -/

/-- What content can begin with. -/
inductive Token
  | character (c : Char)
  | reference (reference : Reference)
  | startTag (name : String) (attributes : List RawAttribute) (isEmpty : Bool)
  | endTag (name : String)
  | skipped
  | declaration
  | cdata
deriving Repr, DecidableEq

/-- Reads a given word; the text is cut if it is shorter. -/
def readWord (word text : List Char) : Lexed Unit :=
  if text.length < word.length then .cut else go word text
where
  /-- Compares character by character. -/
  go : List Char → List Char → Lexed Unit
    | [], rest => .found () rest
    | _, [] => .cut
    | c :: more, d :: rest => if c = d then go more rest else .invalid (d :: rest)

/-- Reads what begins with an angle bracket, behind it. -/
def readMarkup (text : List Char) : Lexed Token :=
  match text with
  | [] => .cut
  | ['!'] => .cut
  | '!' :: '-' :: rest =>
    match rest with
    | [] => .cut
    | '-' :: after => (readComment after).map fun _ => .skipped
    | _ => .invalid rest
  | '!' :: '[' :: rest => (readWord "CDATA[".toList rest).map fun _ => .cdata
  | '!' :: rest => .invalid rest
  | '?' :: rest => (readInstruction rest).map fun isDeclaration =>
      if isDeclaration then .declaration else .skipped
  | '/' :: rest => (readEndTag rest).map .endTag
  | _ =>
    (readQualified text).andThen fun name rest =>
      (readAttributes (rest.length + 1) rest).map fun tag => .startTag name tag.1 tag.2

/-- Reads the first token of content that is not empty. -/
def readContent (text : List Char) : Lexed Token :=
  match text with
  | [] => .cut
  | '<' :: rest => readMarkup rest
  | '&' :: rest => (readReference rest).map .reference
  | '\r' :: '\n' :: rest => .found (.character '\n') rest
  | '\r' :: rest => .found (.character '\n') rest
  | ']' :: ']' :: '>' :: rest => .invalid ('>' :: rest)
  | c :: rest => if isXmlChar c then .found (.character c) rest else .invalid text

end LogAudit.Xml
