import LogAudit.Text.Split

/-! # Paths

A path is the slashes it begins with and its parts. Empty parts and single dots are dropped when a
text is read as a path, while double dots stay. -/

namespace LogAudit.Files
set_option autoImplicit false

/-- A path: what it begins with if it is absolute, and its parts. -/
structure Path where
  root : String := ""
  parts : List String := []
deriving Repr, DecidableEq, Inhabited

/-- The parts of a text between slashes, without empty ones and dots. -/
def partsOf (text : String) : List String :=
  (Text.pieces '/' text).filter fun part => part != "" && part != "."

/-- The slashes that make a text an absolute path: two if it begins with exactly two, else one. -/
def rootOf (text : String) : String :=
  match (text.toList.takeWhile (· == '/')).length with
  | 0 => ""
  | 2 => "//"
  | _ => "/"

namespace Path

/-- Reads a text as a path. -/
def ofText (text : String) : Path :=
  ⟨rootOf text, partsOf text⟩

/-- The text of a path; a path without parts is a dot. -/
def text (path : Path) : String :=
  if path.root = "" && path.parts.isEmpty then "."
  else path.root ++ String.intercalate "/" path.parts

/-- Whether a path begins at the top of the file system. -/
def isAbsolute (path : Path) : Bool := path.root != ""

/-- Where a path begins that is seen from a place: there, or at the top if it is absolute. -/
def start (path : Path) (here : List String) : List String :=
  if path.isAbsolute then [] else here

/-- The path of an entry of a directory. -/
def child (path : Path) (name : String) : Path :=
  { path with parts := path.parts ++ [name] }

/-- A path seen from another one. -/
def join (path other : Path) : Path :=
  if other.isAbsolute then other else { path with parts := path.parts ++ other.parts }

/-- The last part of a path. -/
def name (path : Path) : String := path.parts.getLast?.getD ""

/-- The path without its last part. -/
def parent (path : Path) : Path := { path with parts := path.parts.dropLast }

/-- The parts of a path behind those of a directory, between slashes. -/
def below (directory path : Path) : String :=
  String.intercalate "/" (path.parts.drop directory.parts.length)

end Path

end LogAudit.Files
