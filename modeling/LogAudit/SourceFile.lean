import LogAudit.Encoding.Decode
import LogAudit.Files.Tree

/-! # Lines of source files

A line ends with a line feed, with a carriage return, or with both in this order. Nothing else ends a
line, and the last line needs no end.

* `unifyNewlines`: every end of a line as one line feed.
* `splitLines`: the lines of a text.
* `readLines`: the lines of a file, if it is small enough and holds text. -/

namespace LogAudit
set_option autoImplicit false

open Files

/-- A text with every end of a line as one line feed. -/
def unifyNewlines : List Char → List Char
  | [] => []
  | '\r' :: '\n' :: rest => '\n' :: unifyNewlines rest
  | '\r' :: rest => '\n' :: unifyNewlines rest
  | c :: rest => c :: unifyNewlines rest

/-- The pieces between line feeds, without an empty last one. -/
def splitLines (text : List Char) : List String :=
  let pieces := Text.splitAtMark '\n' text
  (if pieces.getLast? == some [] then pieces.dropLast else pieces).map String.ofList

/-- Why the lines of a file cannot be had. -/
inductive ReadFailure
  | tooBig (limit : Int) (size : Nat)
  | undecodable (encoding : String) (flaw : Encoding.Flaw)
  | unreadable (fault : Fault)
deriving Repr, DecidableEq

/-- The words for a failure. -/
def ReadFailure.message : ReadFailure → String
  | tooBig limit _ => "File exceeds " ++ toString limit ++ " bytes"
  | undecodable encoding flaw => "Cannot decode file as " ++ encoding ++ ": " ++ flaw.reason
  | unreadable fault => "Cannot read file: " ++ fault.reason

/-- The size of a directory as an entry of the file system. -/
def directorySize : Nat := 4096

/-- The size of what a path leads to. -/
def sizeAt (tree : Tree) (path : Path) : Except Fault Nat :=
  match tree.locate path true with
  | .ok (_, .file bytes) => .ok bytes.length
  | .ok (_, .device) => .ok 0
  | .ok _ => .ok directorySize
  | .error fault => .error fault

/-- The lines of a file. The outer failure is no flaw of the bytes: they are not decoded at all. -/
def readLines (codecs : Encoding.Codecs) (tree : Tree) (path : Path) (encoding : String)
    (limit : Option Int) : Except Encoding.Failure (Except ReadFailure (List String)) :=
  match sizeAt tree path, limit with
  | .error fault, _ => .ok (.error (.unreadable fault))
  | .ok size, some limit =>
    if limit < size then .ok (.error (.tooBig limit size)) else readText
  | .ok _, none => readText
where
  /-- The lines of a file of any size. -/
  readText : Except Encoding.Failure (Except ReadFailure (List String)) :=
    match tree.read path with
    | .error fault => .ok (.error (.unreadable fault))
    | .ok bytes =>
      match Encoding.decode codecs encoding bytes with
      | .ok text => .ok (.ok (splitLines (unifyNewlines text)))
      | .error (.flawed flaw) => .ok (.error (.undecodable encoding flaw))
      | .error failure => .error failure

end LogAudit
