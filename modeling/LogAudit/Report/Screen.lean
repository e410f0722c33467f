import LogAudit.Console.Markup
import LogAudit.Console.Table
import LogAudit.Report.Duration

/-! # A result on a screen

A panel with the counts of a scan, a table of its detections, and a line for each warning. -/

namespace LogAudit.Report
set_option autoImplicit false

open Console

/-- A paragraph on a screen, from marked text. -/
def paragraph (screen : Nat) (text : String) : List Line :=
  wrap .plain .fold screen (shown text)

/-- The panel with the counts of a scan. -/
def countsPanel (screen : Nat) (statistics : Statistics) : List Line :=
  panel screen "Scan Summary" ("\n".intercalate [
    "Files scanned: " ++ toString statistics.filesScanned,
    "Detections: " ++ toString statistics.totalDetections,
    "Duration: " ++ durationText statistics.milliseconds])

/-- The columns of the table of detections; statements are shown only if asked for. -/
def detectionColumns (withStatements : Bool) (detections : List Detection) : List Column :=
  [{ head := "File", cells := detections.map fun d => shownPlain d.file },
    { head := "Line", alignment := .right, cells := detections.map fun d => toString d.line },
    { head := "Keyword", cells := detections.map fun d => shownPlain d.label }] ++
  if withStatements then
    [{ head := "Statement", overflow := .fold,
       cells := detections.map fun d => shownPlain d.statement }]
  else []

/-- The table of detections, or a remark that there are none. -/
def detectionTable (screen : Nat) (withStatements : Bool) (detections : List Detection) : List Line :=
  if detections.isEmpty then paragraph screen "[green]No sensitive data detected[/green]"
  else table screen "Sensitive data in log statements" (detectionColumns withStatements detections)

/-- The marked text of a warning. Its two parts are escaped one by one, so that a tag can go from one
into the other. -/
def warningText (warning : FileWarning) : String :=
  "[yellow]Warning:[/yellow] skipped " ++ escape warning.path ++ ": " ++ escape warning.reason

/-- Why a warning cannot be shown, if it cannot. -/
def warningFault? (warning : FileWarning) : Option TagFault :=
  tagFault? (warningText warning)

/-- Lines as they are seen on a screen of a width. -/
def seen (screen : Nat) (lines : List Line) : List String :=
  lines.map fun line => String.ofList (crop screen line)

/-- The lines of a result on a screen of a width, up to the first warning that cannot be shown. -/
def screenLines (screen : Nat) (withStatements : Bool) (result : ScanResult) : List String :=
  let warnings := result.warnings.takeWhile fun warning => (warningFault? warning).isNone
  seen screen (countsPanel screen result.statistics ++
    detectionTable screen withStatements result.detections ++
    warnings.flatMap fun warning => paragraph screen (warningText warning))

/-- Why a result cannot be shown to its end, if it cannot. -/
def screenFault? (result : ScanResult) : Option TagFault :=
  result.warnings.findSome? warningFault?

/-- The lines that say where a report is. -/
def writtenLines (screen : Nat) (path : Files.Path) : List String :=
  seen screen (paragraph screen ("[green]Report written to[/green] " ++ escape path.text))

/-- The lines that show why a run comes to an end. -/
def failureLines (screen : Nat) (title message : String) : List String :=
  seen screen (rule screen "Error" :: panel screen title (shownPlain message))

end LogAudit.Report
