import LogAudit.Json.Printer
import LogAudit.Scan

/-! # The document of a result

A result as a JSON document: statistics first, then detections and warnings in their order. -/

namespace LogAudit
set_option autoImplicit false

/-- A detection as JSON. -/
def Detection.json (detection : Detection) : Json :=
  .object [("file", .string detection.file), ("line", .int detection.line),
    ("label", .string detection.label), ("statement", .string detection.statement)]

/-- A warning as JSON. -/
def FileWarning.json (warning : FileWarning) : Json :=
  .object [("path", .string warning.path), ("reason", .string warning.reason)]

/-- Statistics as JSON. -/
def Statistics.json (statistics : Statistics) : Json :=
  .object [("files_scanned", .int statistics.filesScanned),
    ("total_detections", .int statistics.totalDetections),
    ("duration_ms", .int statistics.milliseconds)]

/-- A result as JSON. -/
def ScanResult.json (result : ScanResult) : Json :=
  .object [("statistics", result.statistics.json),
    ("detections", .array (result.detections.map Detection.json)),
    ("warnings", .array (result.warnings.map FileWarning.json))]

namespace Report

/-- The document of a result, with a line break at its end. -/
def document (result : ScanResult) : String :=
  result.json.text ⟨false, true⟩ ++ "\n"

end Report

end LogAudit
