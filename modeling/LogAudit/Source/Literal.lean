import LogAudit.Text.Blank

/-! # Quoted literals in source text

A literal goes from a double quote to the next one; a backslash has no meaning, and a quote without a
partner is code. `pieces` cuts a text into code characters and literals, and the four views are read
off the pieces: offsets, contents, the code that is left, and the test whether an offset is inside. -/

namespace LogAudit.Source
set_option autoImplicit false

/-- A piece of source text: one character of code, or a literal without its quotes. -/
inductive Piece
  | code (c : Char)
  | quoted (content : List Char)
deriving Repr, DecidableEq

/-- Cuts a text into pieces; the first argument holds the characters behind an open quote, last one
first. -/
def piecesFrom : Option (List Char) → List Char → List Piece
  | none, [] => []
  | some held, [] => .code '"' :: held.reverse.map .code
  | none, c :: rest => if c = '"' then piecesFrom (some []) rest else .code c :: piecesFrom none rest
  | some held, c :: rest =>
    if c = '"' then .quoted held.reverse :: piecesFrom none rest
    else piecesFrom (some (c :: held)) rest

/-- The pieces of a text, in order. -/
def pieces (text : List Char) : List Piece :=
  piecesFrom none text

/-! ## Views -/

/-- The offsets of a literal, its quotes included; the end is the offset behind the last quote. -/
structure Range where
  start : Nat
  stop : Nat
deriving Repr, DecidableEq

/-- Whether an offset lies in a range. -/
def Range.covers (range : Range) (offset : Int) : Bool :=
  decide (range.start ≤ offset) && decide (offset < range.stop)

/-- The ranges of the literals among pieces that begin at an offset. -/
def rangesFrom : Nat → List Piece → List Range
  | _, [] => []
  | offset, .code _ :: rest => rangesFrom (offset + 1) rest
  | offset, .quoted content :: rest =>
    ⟨offset, offset + content.length + 2⟩ :: rangesFrom (offset + content.length + 2) rest

/-- The ranges of all literals of a text, in order. -/
def literalRanges (text : List Char) : List Range :=
  rangesFrom 0 (pieces text)

/-- Whether an offset lies in one of the ranges. -/
def inLiteral (ranges : List Range) (offset : Int) : Bool :=
  ranges.any (·.covers offset)

/-- The content of a literal that is not blank. -/
def Piece.content? : Piece → Option (List Char)
  | .code _ => none
  | .quoted content => if content.all Text.isBlank then none else some content

/-- The character of a piece of code. -/
def Piece.code? : Piece → Option Char
  | .code c => some c
  | .quoted _ => none

/-- The contents of the literals of a text that are not blank. -/
def literalContents (text : List Char) : List (List Char) :=
  (pieces text).filterMap Piece.content?

/-- A text without its literals. -/
def stripLiterals (text : List Char) : List Char :=
  (pieces text).filterMap Piece.code?

end LogAudit.Source
