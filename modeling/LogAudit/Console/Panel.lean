import LogAudit.Console.Wrap

/-! # Panels and rules

A panel is a text in a frame with a title in its upper border. A rule is a line with a title in it. -/

namespace LogAudit.Console
set_option autoImplicit false

/-- A horizontal line. -/
def dashes (count : Nat) : Line := List.replicate count '─'

/-- The lines of a text with one blank at either side, brought to a width. -/
def paddedLines (alignment : Alignment) (overflow : Overflow) (width : Nat) (text : String) :
    List Line :=
  if width < 3 then []
  else (wrap alignment overflow (width - 2) text).map fun line => ' ' :: fit (width - 2) line ++ [' ']

/-- The width that a text with one blank at either side takes of a greatest width. -/
def paddedWidth (most : Nat) (text : String) : Nat :=
  if most < 3 then most else min most (min (widest text) most + 2)

/-- The upper border of a panel. -/
def topBorder (width : Nat) (title : String) : Line :=
  if width ≤ 4 then '╭' :: dashes (width - 2) ++ ['╮']
  else
    let heading := truncate .fold (width - 4) (' ' :: title.toList ++ [' '])
    let free := width - 4 - cells heading
    '╭' :: '─' :: dashes (free / 2) ++ heading ++ dashes (free - free / 2) ++ ['─', '╮']

/-- A panel that is as wide as its text needs, on a screen of a width. -/
def panel (screen : Nat) (title text : String) : List Line :=
  let inner := min (screen - 2) (max (paddedWidth (screen - 2) text) (cells title.toList + 4))
  let body := (paddedLines .plain .fold inner text).map fun line => '│' :: line ++ ['│']
  topBorder (inner + 2) title :: body ++ ['╰' :: dashes inner ++ ['╯']]

/-- A rule across a screen of a width. -/
def rule (screen : Nat) (title : String) : Line :=
  if screen ≤ 4 then dashes screen
  else
    let heading := truncate .ellipsis (screen - 4) title.toList
    let side := (screen - cells heading) / 2
    let left := dashes (side - 1)
    let right := dashes (min (side + 1) (screen - left.length - cells heading))
    fit screen (left ++ ' ' :: heading ++ ' ' :: right)

end LogAudit.Console
