import LogAudit.Source.Argument

/-! # Text buffers

A buffer is a variable declared as a `StringBuilder` or `StringBuffer`. Its history holds the
arguments appended on the lines that append to it, from its declaration on. -/

namespace LogAudit.Source
set_option autoImplicit false

open Text

/-- A buffer and the arguments appended to it, in order. -/
structure Buffer where
  name : String
  history : List String
deriving Repr, DecidableEq

/-- Buffers by name, in order of declaration. -/
abbrev Buffers : Type := List Buffer

/-- Buffers from a list of names with histories; a name that comes again replaces its history. -/
def Buffers.insert (buffers : Buffers) (buffer : Buffer) : Buffers :=
  if buffers.any (·.name == buffer.name) then
    buffers.map fun old => if old.name == buffer.name then buffer else old
  else buffers ++ [buffer]

/-! ## Tracking -/

/-- Reads the declaration of a buffer with an initial value, giving its name. -/
def readDeclaration : Reader String := fun text =>
  ["StringBuilder", "StringBuffer"].findSome? fun type =>
    (dropWord type text).bind fun rest =>
      if rest.head?.any isBlank then
        let text := dropBlanks rest
        let name := text.takeWhile isAsciiWord
        if name.head?.any isNameStart then
          (dropSpaced '=' (text.dropWhile isAsciiWord)).map (String.ofList name, ·)
        else none
      else none

/-- The names of the buffers that a line declares, in order. -/
def declaredBuffers (line : String) : List String :=
  findAll readDeclaration line.toList

/-- Whether a line calls `append` on a variable; the flag says whether an ASCII word character
stands before the text. -/
def receivesFrom (call : List Char) : Bool → List Char → Bool
  | _, [] => false
  | inWord, c :: rest =>
    (!inWord && call.isPrefixOf (c :: rest)) || receivesFrom call (isAsciiWord c) rest

/-- Whether a line calls `append` on the variable of a given name. -/
def receives (name line : String) : Bool :=
  receivesFrom (name ++ ".append").toList false line.toList

/-- The arguments of all calls of `append` on a line, in order. -/
def appendArguments (line : String) : List String :=
  (findAll readAppend line.toList).map String.ofList

/-- Adds a buffer without history, unless one of that name is there. -/
def Buffers.declare (buffers : Buffers) (name : String) : Buffers :=
  if buffers.any (·.name == name) then buffers else buffers ++ [⟨name, []⟩]

/-- The buffers after one more line. -/
def Buffers.step (buffers : Buffers) (line : String) : Buffers :=
  ((declaredBuffers line).foldl Buffers.declare buffers).map fun buffer =>
    if receives buffer.name line then
      { buffer with history := buffer.history ++ appendArguments line }
    else buffer

/-- The buffers of a file with their histories. -/
def trackBuffers (lines : List String) : Buffers :=
  lines.foldl Buffers.step []

/-- The buffers whose name occurs in a text as a whole word. -/
def Buffers.related (buffers : Buffers) (text : String) : Buffers :=
  buffers.filter fun buffer => occursWhole buffer.name text

end LogAudit.Source
