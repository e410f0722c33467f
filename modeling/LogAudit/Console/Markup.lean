import LogAudit.Text.Blank
import LogAudit.Text.Case

/-! # Marked text

Styles are marked by tags in brackets: a bracket, a small letter or one of `#`, `/` and `@`, and all up to
the next closing bracket. A backslash before a tag makes it plain text. Styles are not shown here, so
tags vanish.

* `escape`: a text in which nothing is a tag.
* `shown`: what is seen of a marked text.
* `tagFault?`: why a marked text cannot be shown. -/

namespace LogAudit.Console
set_option autoImplicit false

/-- Whether a tag can begin with a character. -/
def startsTag (c : Char) : Bool :=
  c.isLower || c == '#' || c == '/' || c == '@'

/-- The rest of a tag up to its closing bracket, and what follows. -/
def closeTag : List Char → Option (List Char × List Char)
  | [] => none
  | c :: rest =>
    if c == ']' then some ([c], rest)
    else if c == '[' then none
    else (closeTag rest).map fun (tag, after) => (c :: tag, after)

/-- A tag at the start of a text, with its brackets, and what follows. -/
def takeTag : List Char → Option (List Char × List Char)
  | '[' :: c :: rest =>
    if startsTag c then (closeTag rest).map fun (tag, after) => ('[' :: c :: tag, after) else none
  | _ => none

/-- A piece of a marked text. -/
inductive Piece
  /-- text that holds no tag -/
  | text (chars : List Char)
  /-- a tag after a number of backslashes -/
  | tag (backslashes : Nat) (chars : List Char)
deriving Repr

/-- Puts a character in front of the first piece. -/
def Piece.cons (c : Char) : List Piece → List Piece
  | text chars :: rest => text (c :: chars) :: rest
  | pieces => text [c] :: pieces

/-- The pieces of a marked text; the number bounds how many characters are read. -/
def piecesFrom : Nat → List Char → List Piece
  | 0, _ => []
  | _, [] => []
  | count + 1, c :: rest =>
    let text := c :: rest
    let marks := text.takeWhile (· == '\\')
    match takeTag (text.drop marks.length) with
    | some (tag, after) => .tag marks.length tag :: piecesFrom count after
    | none =>
      if marks.isEmpty then Piece.cons c (piecesFrom count rest)
      else marks.foldr Piece.cons (piecesFrom count (text.drop marks.length))

/-- The pieces of a marked text. -/
def pieces (text : List Char) : List Piece :=
  piecesFrom text.length text

/-- Doubles a single backslash at the end. -/
def closeBackslash (text : List Char) : List Char :=
  match text.reverse with
  | '\\' :: '\\' :: _ => text
  | '\\' :: _ => text ++ ['\\']
  | _ => text

/-- A piece in which nothing is a tag. -/
def Piece.escaped : Piece → List Char
  | text chars => chars
  | tag backslashes chars => List.replicate (2 * backslashes + 1) '\\' ++ chars

/-- A text in which nothing is a tag. -/
def escape (text : String) : String :=
  String.ofList (closeBackslash ((pieces text.toList).flatMap Piece.escaped))

/-- Drops each backslash that stands before an opening bracket. -/
def freeBrackets : List Char → List Char
  | '\\' :: '[' :: rest => '[' :: freeBrackets rest
  | c :: rest => c :: freeBrackets rest
  | [] => []

/-- What is seen of a piece. -/
def Piece.shown : Piece → List Char
  | text chars => freeBrackets chars
  | tag backslashes chars =>
    List.replicate (backslashes / 2) '\\' ++ if backslashes % 2 == 1 then chars else []

/-- Whether a control character is left out on a screen. -/
def isDropped (c : Char) : Bool :=
  let code := c.toNat
  code == 7 || code == 8 || code == 11 || code == 12 || code == 13

/-- What is seen of a marked text. -/
def shown (text : String) : String :=
  let chars := text.toList
  let seen := if chars.contains '[' then (pieces chars).flatMap Piece.shown else chars
  String.ofList (seen.filter (!isDropped ·))

/-- What is seen of a text that holds no marks. -/
def shownPlain (text : String) : String :=
  shown (escape text)

/-! ## Closing tags -/

/-- Why a marked text cannot be shown: a tag closes what is not open. -/
inductive TagFault
  /-- a closing tag with a name that no open tag has -/
  | unmatched (tag : String) (position : Nat)
  /-- a closing tag without a name where no tag is open -/
  | nothingOpen (position : Nat)
deriving Repr, DecidableEq

/-- The words for a fault. -/
def TagFault.message : TagFault → String
  | unmatched tag position =>
    "closing tag '" ++ tag ++ "' at position " ++ toString position ++ " doesn't match any open tag"
  | nothingOpen position => "closing tag '[/]' at position " ++ toString position ++
      " has nothing to close"

/-- What stands between the brackets of a tag, up to an equals sign. -/
def tagName (tag : List Char) : List Char :=
  (tag.drop 1).dropLast.takeWhile (· != '=')

/-- The name of a style, in lower case and without blanks around it. -/
def styleName (name : List Char) : String :=
  Text.lower (Text.trim (String.ofList name))

/-- The first closing tag among pieces that closes nothing. The number is the position of the pieces; the
names are those of open tags, innermost first. -/
def tagFaultFrom : Nat → List String → List Piece → Option TagFault
  | _, _, [] => none
  | position, opened, .text chars :: rest => tagFaultFrom (position + chars.length) opened rest
  | position, opened, .tag backslashes chars :: rest =>
    let start := position + backslashes
    let next := start + chars.length
    if backslashes % 2 == 1 then tagFaultFrom next opened rest
    else match tagName chars with
      | '/' :: name =>
        let style := styleName name
        if style = "" then
          match opened with
          | [] => some (.nothingOpen start)
          | _ :: outer => tagFaultFrom next outer rest
        else if style ∈ opened then tagFaultFrom next (opened.erase style) rest
        else some (.unmatched (String.ofList chars) start)
      | name => tagFaultFrom next (styleName name :: opened) rest

/-- Why a marked text cannot be shown, if it cannot. -/
def tagFault? (text : String) : Option TagFault :=
  tagFaultFrom 0 [] (pieces text.toList)

end LogAudit.Console
