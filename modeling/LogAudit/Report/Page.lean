import LogAudit.Moment
import LogAudit.Report.Duration

/-! # The page of a result

A page for a browser that needs no other file. Every text that comes from a result is escaped, so the
tags of a page depend on the number of its detections and warnings only.

* `escaped`: a text with five characters replaced by their entities.
* `pageLines`: the lines of a page.
* `page`: the whole page. -/

namespace LogAudit.Report
set_option autoImplicit false

/-! ## Escaping -/

/-- The entity of a character that has a meaning in markup; any other stands for itself. -/
def escapedChar (c : Char) : List Char :=
  if c == '&' then "&amp;".toList
  else if c == '<' then "&lt;".toList
  else if c == '>' then "&gt;".toList
  else if c == '"' then "&quot;".toList
  else if c == '\'' then "&#x27;".toList
  else [c]

/-- A text that can stand inside of an element. -/
def escaped (text : String) : String :=
  String.ofList (text.toList.flatMap escapedChar)

/-! ## Parts of a page -/

/-- The style sheet. -/
def styleLines : List String := [
  "body \x7b font-family: Arial, sans-serif; margin: 20px; background-color: #f5f5f5; \x7d",
  "h1 \x7b color: #333; border-bottom: 2px solid #4CAF50; padding-bottom: 10px; \x7d",
  ".summary \x7b background-color: #fff; padding: 15px; margin: 20px 0; border-radius: 5px;",
  "           box-shadow: 0 2px 4px rgba(0,0,0,0.1); \x7d",
  ".summary p \x7b margin: 8px 0; font-size: 14px; \x7d",
  ".summary strong \x7b color: #555; \x7d",
  "table \x7b width: 100%; border-collapse: collapse; background-color: #fff;",
  "        box-shadow: 0 2px 4px rgba(0,0,0,0.1); margin-top: 20px; \x7d",
  "th \x7b background-color: #4CAF50; color: white; padding: 12px; text-align: left; \x7d",
  "td \x7b padding: 10px 12px; border-bottom: 1px solid #ddd; \x7d",
  "tr:hover \x7b background-color: #f5f5f5; \x7d",
  ".line-number \x7b text-align: center; font-weight: bold; color: #666; \x7d",
  ".keyword \x7b color: #d32f2f; font-weight: bold; \x7d",
  ".log-statement \x7b font-family: 'Courier New', monospace; font-size: 13px;",
  "                 background-color: #f9f9f9; padding: 5px; border-radius: 3px; \x7d",
  ".no-detections \x7b background-color: #e8f5e9; color: #2e7d32; padding: 20px; margin: 20px 0;",
  "                 border-radius: 5px; text-align: center; font-size: 16px; font-weight: bold; \x7d",
  ".warnings \x7b color: #8a6d3b; \x7d"]

/-- The lines up to the summary. -/
def headLines : List String :=
  ["<!DOCTYPE html>",
    "<html>",
    "<head>",
    "    <meta charset=\"UTF-8\">",
    "    <title>Sensitive Data Scan Report</title>",
    "    <style>"] ++ styleLines ++
  ["    </style>",
    "</head>",
    "<body>",
    "    <h1>Sensitive Data Scan Report</h1>"]

/-- One line of the summary. -/
def summaryLine (title value : String) : String :=
  "        <p><strong>" ++ title ++ ":</strong> " ++ value ++ "</p>"

/-- The summary: date, counts and duration. -/
def summaryLines (made : Moment) (statistics : Statistics) : List String :=
  ["    <div class=\"summary\">",
    summaryLine "Scan Date" (made.dateText ++ " " ++ made.timeText ":"),
    summaryLine "Total Files Scanned" (toString statistics.filesScanned),
    summaryLine "Total Detections" (toString statistics.totalDetections),
    summaryLine "Scan Duration" (durationText statistics.milliseconds),
    "    </div>"]

/-- The row of a detection. -/
def rowLine (detection : Detection) : String :=
  "            <tr><td>" ++ escaped detection.file ++
    "</td><td class=\"line-number\">" ++ toString detection.line ++
    "</td><td class=\"keyword\">" ++ escaped detection.label ++
    "</td><td class=\"log-statement\">" ++ escaped detection.statement ++ "</td></tr>"

/-- The table of detections, or a remark that there are none. -/
def detectionLines (detections : List Detection) : List String :=
  if detections.isEmpty then
    ["    <div class=\"no-detections\">",
      "        <p>No sensitive data detected</p>",
      "    </div>"]
  else
    ["    <table>",
      "        <thead>",
      "            <tr><th>File Name</th><th>Line Number</th>" ++
        "<th>Matched Keyword</th><th>Log Statement</th></tr>",
      "        </thead>",
      "        <tbody>"] ++ detections.map rowLine ++
    ["        </tbody>",
      "    </table>"]

/-- The item of a warning. -/
def warningLine (warning : FileWarning) : String :=
  "        <li>" ++ escaped warning.path ++ ": " ++ escaped warning.reason ++ "</li>"

/-- The list of warnings, if there are any. -/
def warningLines (warnings : List FileWarning) : List String :=
  if warnings.isEmpty then []
  else
    "    <div class=\"warnings\"><h2>Skipped Files</h2><ul>" :: warnings.map warningLine ++
      ["    </ul></div>"]

/-! ## The page -/

/-- The lines of a page; the last one is empty. -/
def pageLines (made : Moment) (result : ScanResult) : List String :=
  headLines ++ summaryLines made result.statistics ++ detectionLines result.detections ++
    warningLines result.warnings ++ ["</body>", "</html>", ""]

/-- The page of a result. -/
def page (made : Moment) (result : ScanResult) : String :=
  "\n".intercalate (pageLines made result)

end LogAudit.Report
