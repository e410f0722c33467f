import LogAudit.Console.Panel
import LogAudit.Decimal.Double

/-! # Tables

A table has a title, a head and rows in a frame. Columns are as wide as their widest cell. If that is too
much for the screen, the widest columns are narrowed first, and the text in them is wrapped or cut.

* `columnWidths`: the widths of the columns.
* `table`: the lines of a table. -/

namespace LogAudit.Console
set_option autoImplicit false

/-- A column of a table. -/
structure Column where
  head : String
  alignment : Alignment := .left
  overflow : Overflow := .ellipsis
  cells : List String := []
deriving Repr

/-! ## Widths -/

/-- The width of a column, with the blanks beside its texts, out of a greatest width. -/
def Column.width (most : Nat) (column : Column) : Nat :=
  if most < 1 then 0
  else (column.head :: column.cells).foldl (fun width text => max width (paddedWidth most text)) 0

/-- The width of columns side by side. -/
def totalWidth (widths : List Nat) : Nat :=
  widths.foldl (· + ·) 0

/-- Takes a total from widths in equal shares, from each marked one at most a number. What is left is
divided anew after each of them. -/
def reduceEvenly : Nat → Nat → List (Nat × Bool × Nat) → List Nat
  | _, _, [] => []
  | total, shares, (width, marked, most) :: rest =>
    if marked && shares > 0 then
      let share := min most (Decimal.Double.roundQuotient total shares)
      (width - share) :: reduceEvenly (total - share) (shares - 1) rest
    else width :: reduceEvenly total shares rest

/-- Takes a total from widths, where each is marked or not and gives at most a number. -/
def reduce (total : Nat) (parts : List (Nat × Bool × Nat)) : List Nat :=
  let parts := parts.map fun (width, marked, most) => (width, marked && most > 0, most)
  reduceEvenly total (parts.countP (·.2.1)) parts

/-- Narrows the widest columns until all fit; the first number bounds the steps. -/
def collapse : Nat → Nat → List Nat → List Nat
  | 0, _, widths => widths
  | steps + 1, most, widths =>
    let excess := totalWidth widths - most
    if excess = 0 then widths
    else
      let greatest := widths.foldl max 0
      let second := (widths.filter (· != greatest)).foldl max 0
      if greatest = second then widths
      else
        let bound := min excess (greatest - second)
        collapse steps most (reduce excess (widths.map fun width => (width, width == greatest, bound)))

/-- The widths of columns whose total is at most a width, as far as that can be. -/
def columnWidths (most : Nat) (columns : List Column) : List Nat :=
  let wanted := columns.map fun column => max 1 (column.width most)
  if totalWidth wanted ≤ most then wanted
  else
    let narrowed := collapse (totalWidth wanted) most wanted
    let narrowed :=
      if totalWidth narrowed > most then
        reduce (totalWidth narrowed - most) (narrowed.map fun width => (width, true, width))
      else narrowed
    (columns.zip narrowed).map fun (column, width) => column.width width

/-! ## Lines -/

/-- The lines of a cell. -/
def Column.cellLines (column : Column) (width : Nat) (text : String) : List Line :=
  paddedLines column.alignment column.overflow width text

/-- Brings a cell to the height of its row; the lines of a head stand at the bottom. -/
def fillCell (atBottom : Bool) (width height : Nat) (lines : List Line) : List Line :=
  let blank := List.replicate (height - lines.length) (spaces width)
  if atBottom then blank ++ lines else lines ++ blank

/-- The line of a row from one line of each of its cells. -/
def rowLine (edge : Char) (parts : List Line) : Line :=
  edge :: (parts.flatMap fun part => part ++ [edge])

/-- The lines of a row. -/
def rowLines (isHead : Bool) (columns : List (Column × Nat)) (texts : List String) : List Line :=
  let cells := (columns.zip texts).map fun ((column, width), text) =>
    (width, column.cellLines width text)
  let height := cells.foldl (fun height cell => max height cell.2.length) 1
  let filled := cells.map fun (width, lines) => fillCell isHead width height lines
  (List.range height).map fun index =>
    rowLine (if isHead then '┃' else '│') (filled.map fun lines => lines.getD index [])

/-- A horizontal border of a table. -/
def border (left line between right : Char) (widths : List Nat) : Line :=
  left :: ([between].intercalate (widths.map fun width => List.replicate width line)) ++ [right]

/-- A table with a title on a screen of a width. -/
def table (screen : Nat) (title : String) (columns : List Column) : List Line :=
  let extra := columns.length + 1
  let widths := columnWidths (screen - extra) columns
  let placed := columns.zip widths
  let height := columns.foldl (fun height column => max height column.cells.length) 0
  let rows := (List.range height).flatMap fun index =>
    rowLines false placed (columns.map fun column => column.cells.getD index "")
  wrap .center .fold (totalWidth widths + extra) title ++
    border '┏' '━' '┳' '┓' widths :: rowLines true placed (columns.map (·.head)) ++
    border '┡' '━' '╇' '┩' widths :: rows ++ [border '└' '─' '┴' '┘' widths]

end LogAudit.Console
