import LogAudit.Source.Buffer
import LogAudit.Source.Declaration
import LogAudit.Source.Opener

/-! # Log statements

A statement starts at a line that opens a call and declares no method. It goes on to the first line
that ends with a semicolon; without one it is the opening line alone. The next statement is looked for
behind it. -/

namespace LogAudit.Source
set_option autoImplicit false

open Text

/-- A log call, joined onto one line, with the histories of the buffers it names. -/
structure Statement where
  file : String
  line : Int
  text : String
  traces : Buffers
deriving Repr, DecidableEq

/-- Whether a line, trimmed, ends with a semicolon. -/
def endsStatement (line : String) : Bool :=
  (trimmed line.toList).getLast? == some ';'

/-- The number of further lines that the statement opened on the first line takes. -/
def furtherLines (lines : List String) : Nat :=
  (lines.findIdx? endsStatement).getD 0

/-- The index of the line that ends the statement opened at `start`, if there is such a line. -/
def statementEnd? (lines : List String) (start : Nat) : Option Nat :=
  if start < lines.length then some (start + furtherLines (lines.drop start)) else none

/-- The end of the statement opened at a line that may also be told by a negative number, its distance
from the end. The search then goes on from the last line to the first. -/
def signedStatementEnd? (lines : List String) (start : Int) : Option Int :=
  if 0 ≤ start then (statementEnd? lines start.toNat).map Int.ofNat
  else
    let back := (-start).toNat
    if lines.length < back then none
    else some (start + furtherLines (lines.drop (lines.length - back) ++ lines))

/-- The text of a statement: its lines, trimmed and joined with single spaces. -/
def joinLines (lines : List String) : String :=
  " ".intercalate (lines.map trim)

/-- Whether a statement starts at a line that is reached outside of any statement. -/
def opensStatement (line : String) : Bool :=
  opensCall line && !declaresMethod line

/-- The statements from line number `number` on; `inside` counts lines still inside the last one. -/
def statementsFrom (file : String) (buffers : Buffers) : Nat → Nat → List String → List Statement
  | _, _, [] => []
  | number, inside + 1, _ :: rest => statementsFrom file buffers (number + 1) inside rest
  | number, 0, line :: rest =>
    if opensStatement line then
      let further := furtherLines (line :: rest)
      let text := joinLines ((line :: rest).take (further + 1))
      ⟨file, number, text, buffers.related text⟩ ::
        statementsFrom file buffers (number + 1) further rest
    else statementsFrom file buffers (number + 1) 0 rest

/-- The log statements of a file, in order. -/
def statements (file : String) (buffers : Buffers) (lines : List String) : List Statement :=
  statementsFrom file buffers 1 0 lines

end LogAudit.Source
