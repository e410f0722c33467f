import LogAudit.Console.Cell
import LogAudit.Text.Blank
import LogAudit.Text.Split

/-! # Wrapped text

A text is broken into lines that fit a width: between words where possible, and inside of a word that is
wider than a line only where folding is allowed.

* `divide`: the lines of a text without line breaks.
* `crop`, `fit`: a line cut to a width, or brought to exactly that width.
* `wrap`: the lines of a text, cut and aligned.
* `widest`: the width of the widest line of a text that is not wrapped. -/

namespace LogAudit.Console
set_option autoImplicit false

/-- A line on a screen. -/
abbrev Line := List Char

/-- What is done with a word that is wider than a line. -/
inductive Overflow
  /-- it goes on in the next line -/
  | fold
  /-- it is cut, and a mark shows that -/
  | ellipsis
deriving Repr, DecidableEq

/-- Where a line stands if it is narrower than its place. -/
inductive Alignment
  /-- at the left, without blanks behind it -/
  | plain
  | left
  | center
  | right
deriving Repr, DecidableEq

/-- A number of spaces. -/
def spaces (count : Nat) : Line := List.replicate count ' '

/-! ## Cutting -/

/-- The longest start of a line with at most a number of cells, and the cells that are left over. -/
def takeCells : Nat → Line → Line × Nat
  | room, [] => ([], room)
  | room, c :: rest =>
    if charCells c ≤ room then
      let (taken, left) := takeCells (room - charCells c) rest
      (c :: taken, left)
    else ([], room)

/-- A line cut to a number of cells. Half a wide character becomes a space. -/
def crop (width : Nat) (line : Line) : Line :=
  if cells line ≤ width then line
  else
    let (taken, left) := takeCells width line
    taken ++ spaces left

/-- A line cut or filled up to a number of cells. -/
def fit (width : Nat) (line : Line) : Line :=
  let cut := crop width line
  cut ++ spaces (width - cells cut)

/-- A line cut to a width as the overflow asks for. -/
def truncate (overflow : Overflow) (width : Nat) (line : Line) : Line :=
  if cells line ≤ width then line
  else match overflow with
    | .fold => crop width line
    | .ellipsis => crop (width - 1) line ++ ['…']

/-- The pieces of a word, each as long as fits a width. -/
def chop (width : Nat) : Line → Line → Nat → List Line
  | piece, [], _ => [piece.reverse]
  | piece, c :: rest, used =>
    if used + charCells c > width then piece.reverse :: chop width [c] rest (charCells c)
    else chop width (c :: piece) rest (used + charCells c)

/-! ## Words -/

/-- The first word of a text with the blanks around it, and what follows. -/
def takeWord (text : Line) : Option (Line × Line) :=
  let blanks := text.takeWhile Text.isBlank
  let rest := text.dropWhile Text.isBlank
  let body := rest.takeWhile (!Text.isBlank ·)
  let after := rest.dropWhile (!Text.isBlank ·)
  if body.isEmpty then none
  else some (blanks ++ body ++ after.takeWhile Text.isBlank, after.dropWhile Text.isBlank)

/-- The words of a text; the number bounds how many are taken. -/
def wordsFrom : Nat → Line → List Line
  | 0, _ => []
  | count + 1, text =>
    match takeWord text with
    | none => []
    | some (word, rest) => word :: wordsFrom count rest

/-- The words of a text with the blanks around them. -/
def words (text : Line) : List Line :=
  wordsFrom text.length text

/-! ## Dividing -/

/-- Lines under construction: finished lines, last first, the line at hand and its width. -/
structure Draft where
  done : List Line := []
  line : Line := []
  width : Nat := 0
deriving Repr

namespace Draft

/-- Whether anything has been put into a draft. -/
def started (draft : Draft) : Bool :=
  !draft.done.isEmpty || !draft.line.isEmpty

/-- Starts a new line, unless nothing has been put yet. -/
def newLine (draft : Draft) : Draft :=
  if draft.started then { done := draft.line :: draft.done } else draft

/-- Adds a piece to the line at hand and counts its width. -/
def add (draft : Draft) (piece : Line) : Draft :=
  { draft with line := draft.line ++ piece, width := draft.width + cells piece }

/-- Adds a word: to the line at hand if it fits, else to a new one. -/
def addWord (overflow : Overflow) (width : Nat) (draft : Draft) (word : Line) : Draft :=
  let needed := cells (Text.dropEndBlanks word)
  if draft.width + needed ≤ width then draft.add word
  else if needed > width then
    match overflow with
    | .fold => (chop width [] word 0).foldl (fun made piece =>
        { made.newLine with width := 0 }.add piece) draft
    | .ellipsis => { draft.newLine with width := 0 }.add word
  else draft.newLine.add word

/-- The lines of a draft. -/
def lines (draft : Draft) : List Line :=
  (draft.line :: draft.done).reverse

end Draft

/-- Divides a text into lines of a width. A text without words is one line. -/
def divide (overflow : Overflow) (width : Nat) (text : Line) : List Line :=
  let parts := words text
  if parts.isEmpty then [text]
  else (parts.foldl (Draft.addWord overflow width) {}).lines

/-! ## Lines -/

/-- Replaces each tab by spaces up to the next place that is a multiple of eight. -/
def expandTabs : Nat → Line → Line
  | _, [] => []
  | place, c :: rest =>
    if c == '\t' then
      let next := (place / 8 + 1) * 8
      spaces (next - place) ++ expandTabs next rest
    else c :: expandTabs (place + charCells c) rest

/-- Drops blanks at the end of a line as far as the line has more characters than a width. -/
def dropExcessBlanks (width : Nat) (line : Line) : Line :=
  let blanks := (line.reverse.takeWhile Text.isBlank).length
  line.take (line.length - min blanks (line.length - width))

/-- Aligns a line in a width. -/
def align (alignment : Alignment) (overflow : Overflow) (width : Nat) (line : Line) : Line :=
  match alignment with
  | .plain => truncate overflow width line
  | .left =>
    let cut := truncate overflow width line
    cut ++ spaces (width - cells line)
  | .center =>
    let cut := truncate overflow width (Text.dropEndBlanks line)
    let free := width - cells cut
    spaces (free / 2) ++ cut ++ spaces (free - free / 2)
  | .right =>
    let cut := truncate overflow width (Text.dropEndBlanks line)
    spaces (width - cells cut) ++ cut

/-- The lines of a text in a width. -/
def wrap (alignment : Alignment) (overflow : Overflow) (width : Nat) (text : String) : List Line :=
  (Text.pieces '\n' text).flatMap fun piece =>
    (divide overflow width (expandTabs 0 piece.toList)).map fun line =>
      align alignment overflow width (dropExcessBlanks width line)

/-! ## Measuring -/

/-- Whether a character ends a line. -/
def endsLine (c : Char) : Bool :=
  let code := c.toNat
  (10 ≤ code && code ≤ 13) || (28 ≤ code && code ≤ 30) || code == 0x85 || code == 0x2028 ||
    code == 0x2029

/-- The width of the widest line of a text. -/
def widestFrom : Nat → Line → Nat
  | used, [] => used
  | used, c :: rest =>
    if endsLine c then max used (widestFrom 0 rest) else widestFrom (used + charCells c) rest

/-- The width of the widest line of a text. -/
def widest (text : String) : Nat :=
  widestFrom 0 text.toList

end LogAudit.Console
