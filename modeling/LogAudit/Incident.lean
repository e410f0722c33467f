import LogAudit.Json.Basic

/-! # Incidents

An incident is the record of an error: what kind it is, a message, a code and further context. -/

namespace LogAudit
set_option autoImplicit false

/-- The kinds of incidents, each with what is known about its place. -/
inductive IncidentKind
  | general
  /-- rules or settings could not be loaded -/
  | configuration (source : Json)
  /-- a rule whose pattern is malformed -/
  | invalidRule (rule role source : Json)
  /-- roots that cannot be used, or a file that cannot be processed -/
  | scan (path : Json)
  /-- a report that cannot be written -/
  | report (path : Json)
deriving Repr

/-- An incident. -/
structure Incident where
  kind : IncidentKind
  message : Json
  code : Json
  context : Json := .null
  time : String
deriving Repr

namespace IncidentKind

/-- The name of a kind. -/
def name : IncidentKind → String
  | general => "ScannerError"
  | configuration _ => "ConfigurationError"
  | invalidRule _ _ _ => "InvalidRuleError"
  | scan _ => "ScanError"
  | report _ => "ReportError"

/-- The code of incidents of a kind, unless another is given. -/
def code : IncidentKind → String
  | general => ""
  | configuration _ => "CONFIGURATION_ERROR"
  | invalidRule _ _ _ => "INVALID_RULE"
  | scan _ => "SCAN_ERROR"
  | report _ => "REPORT_ERROR"

/-- What is known about the place of an incident. -/
def places : IncidentKind → List (String × Json)
  | general => []
  | configuration source => [("source", source)]
  | invalidRule rule role source => [("source", source), ("rule", rule), ("role", role)]
  | scan path => [("path", path)]
  | report path => [("output_path", path)]

end IncidentKind

namespace Incident

/-- An incident with the code of its kind. -/
def ofKind (kind : IncidentKind) (message context : Json) (time : String) : Incident :=
  { kind, message, code := .string kind.code, context, time }

/-- Whether a value says nothing. -/
def isBlankValue : Json → Bool
  | .null => true
  | .bool value => !value
  | .int value => value == 0
  | .float value => value == .zero false || value == .zero true
  | .string value => value.isEmpty
  | .array items => items.isEmpty
  | .object members => members.isEmpty

/-- The context of an incident; one that says nothing is left empty. -/
def details (incident : Incident) : Json :=
  if isBlankValue incident.context then .object [] else incident.context

/-- An incident in one line. -/
def text (incident : Incident) : String :=
  "[" ++ incident.code.display ++ "] " ++ incident.message.display

/-- An incident as JSON. -/
def json (incident : Incident) : Json :=
  .object [("error_code", incident.code), ("message", incident.message),
    ("context", incident.details), ("timestamp", .string incident.time),
    ("type", .string incident.kind.name)]

end Incident

end LogAudit
