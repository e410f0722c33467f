import LogAudit.Report.Document
import LogAudit.Report.Page

/-! # Report files

A report is written to a file, and the directories above it are made if they are not there.

* `Format`: a page or a document.
* `defaultName`: the name of a report from the moment it is made.
* `write`: the tree of files with the report in it. -/

namespace LogAudit.Report
set_option autoImplicit false

open Files

/-- The form of a report. -/
inductive Format
  | page
  | document
deriving Repr, DecidableEq

/-- The ending of the file names of a form. -/
def Format.ending : Format → String
  | page => "html"
  | document => "json"

/-- The text of a report. -/
def text (format : Format) (made : Moment) (result : ScanResult) : String :=
  match format with
  | .page => Report.page made result
  | .document => Report.document result

/-- The name of a report for which none is given. -/
def defaultName (made : Moment) (ending : String) : String :=
  "scan-report-" ++ made.dateText ++ "-" ++ made.timeText "" ++ "." ++ ending

/-- The integers that a report shows. Of a long duration only the minutes and seconds are shown. -/
def Format.integers (format : Format) (result : ScanResult) : List Int :=
  match format with
  | .document => result.json.integers
  | .page =>
    [result.statistics.filesScanned, result.statistics.totalDetections] ++
      durationIntegers result.statistics.milliseconds ++ result.detections.map (·.line)

/-- Why a report is not written: a fault of the file system at a path, or an integer with more digits than
can be written. -/
inductive Failure
  | file (fault : Fault) (path : Path)
  | digits (most : Nat)
deriving Repr, DecidableEq

/-- The words for a failure. -/
def Failure.message : Failure → String
  | file fault path => "Failed to write report: " ++ fault.describe path.text
  | digits most => "Exceeds the limit (" ++ toString most ++ " digits) for integer string conversion; " ++
      "use sys.set_int_max_str_digits() to increase the limit"

/-- Writes a text to a path, after the directories above it are made. They stay there also if the text
cannot be written, and so does the beginning of the text if there is no room for all of it. -/
def writeText (tree : Tree) (path : Path) (text : String) : Option Failure × Tree :=
  match tree.makeDirectories path.parent with
  | (some (fault, place), left) => (some (.file fault place), left)
  | (none, made) =>
    match made.write path text.toUTF8.toList with
    | (some fault, left) => (some (.file fault path), left)
    | (none, written) => (none, written)

/-- Where a report goes: to the path given, or to the default name if it is empty. -/
def destination (format : Format) (made : Moment) (output : String) : String :=
  if output.isEmpty then defaultName made format.ending else output

/-- Whether all integers of a report can be written. -/
def canShow (limits : Json.Limits) (format : Format) (result : ScanResult) : Bool :=
  (format.integers result).all limits.allowsInteger

/-- Writes the report of a result; gives its path or what went wrong, and the tree after it. -/
def write (limits : Json.Limits) (tree : Tree) (format : Format) (made : Moment) (result : ScanResult)
    (output : String) : Except Failure Path × Tree :=
  let path := Path.ofText (destination format made output)
  if !canShow limits format result then (.error (.digits (limits.digits.getD 0)), tree)
  else match writeText tree path (text format made result) with
    | (some failure, left) => (.error failure, left)
    | (none, written) => (.ok path, written)

end LogAudit.Report
