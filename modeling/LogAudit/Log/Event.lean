import LogAudit.Json.Printer
import LogAudit.Log.Level

/-! # Events and log lines

An event has a level, a name and fields. It is logged together with the time and, inside of a scan, the
id of the scan; a field of the event with the same name as one of these takes its place. A line is an
event that is rendered somehow, or a plain message of one part of the program.

* `Event.allFields`: the fields of an event with those of its context.
* `Renderer`: how events become the messages of lines.
* `Format.render`: events as text or as JSON.
* `filtered`: the lines that a log lets through. -/

namespace LogAudit.Log
set_option autoImplicit false

/-- An event with its own fields. -/
structure Event where
  level : Level
  name : String
  fields : List (String × Json)
deriving Repr

/-- What is known wherever an event arises: the time, and the scan that goes on. -/
structure Context where
  time : String
  scanId : Option String := none
deriving Repr, DecidableEq

/-- The fields that a context adds. -/
def Context.fields (context : Context) : List (String × Json) :=
  [("timestamp", .string context.time), ("component", .string "logleak")] ++
    match context.scanId with
    | some id => if id = "" then [] else [("scan_id", .string id)]
    | none => []

/-- All fields of an event in a context, those of the context first. -/
def Event.allFields (context : Context) (event : Event) : List (String × Json) :=
  event.fields.foldl (fun fields pair => Json.insertMember fields pair.1 pair.2) context.fields

/-- What makes an event in a context the message of a line. -/
abbrev Renderer : Type := Context → Event → String

/-- The usual ways to write events. -/
inductive Format
  | text
  | json
deriving Repr, DecidableEq

/-- An event as the message of a line. As text the name comes first and the level last; as JSON both
come last. -/
def Format.render (format : Format) : Renderer := fun context event =>
  let fields := event.allFields context
  let name := ("event", Json.string event.name)
  let level := ("level", Json.string event.level.label)
  match format with
  | .text =>
    String.intercalate " " ((name :: fields ++ [level]).map fun pair => pair.1 ++ "=" ++ pair.2.shown)
  | .json => (Json.object (fields ++ [name, level])).compact

/-- A line of a log. -/
structure Line where
  level : Level
  source : String
  message : String
deriving Repr, DecidableEq

/-- Whether a line is let through from a rank on. -/
def Line.passes (threshold : Nat) (line : Line) : Bool :=
  threshold ≤ line.level.rank

/-- The lines that are let through from a rank on. -/
def filtered (threshold : Nat) (lines : List Line) : List Line :=
  lines.filter (·.passes threshold)

/-- The line of an event. -/
def Event.line (render : Renderer) (context : Context) (event : Event) : Line :=
  ⟨event.level, "logleak", render context event⟩

/-! ## The events of a scan -/

namespace Event

/-- Rules were loaded. -/
def rulesLoaded (source keywords objectTypes exclusions : Json) : Event :=
  ⟨.info, "configuration_loaded", [("source", source), ("keywords", keywords),
    ("object_types", objectTypes), ("exclusions", exclusions)]⟩

/-- A scan begins. -/
def scanStarted (roots files workers : Json) : Event :=
  ⟨.info, "scan_started", [("roots", roots), ("files", files), ("workers", workers)]⟩

/-- A file was scanned. -/
def fileScanned (path statements detections : Json) : Event :=
  ⟨.debug, "file_scanned", [("path", path), ("statements", statements), ("detections", detections)]⟩

/-- A file was left out. -/
def fileSkipped (path reason : Json) : Event :=
  ⟨.warning, "file_skipped", [("path", path), ("reason", reason)]⟩

/-- Something sensitive was detected. -/
def detected (file line label : Json) : Event :=
  ⟨.debug, "sensitive_data_detected", [("file", file), ("line", line), ("label", label)]⟩

/-- A scan is over. -/
def scanCompleted (files detections milliseconds warnings : Json) : Event :=
  ⟨.info, "scan_completed", [("files_scanned", files), ("detections", detections),
    ("duration_ms", milliseconds), ("warnings", warnings)]⟩

/-- The time that an operation took, with further fields. -/
def measured (operation duration : Json) (further : List (String × Json)) : Event :=
  ⟨.debug, "performance_metric", further.foldl
    (fun fields pair => Json.insertMember fields pair.1 pair.2)
    [("operation", operation), ("duration", duration)]⟩

/-- The time that an operation took, and whether and why it failed, with further fields. -/
def timed (operation duration : Json) (error : Option String) (further : List (String × Json)) : Event :=
  let outcome := [("success", Json.bool error.isNone),
    ("error", (error.map Json.string).getD .null)]
  measured operation duration
    (further.foldl (fun fields pair => Json.insertMember fields pair.1 pair.2) outcome)

/-- The names that no field of an event can have. -/
def reservedNames : List String := ["self", "level", "event"]

/-- The first field whose name is reserved. -/
def reserved? (event : Event) : Option String :=
  (event.fields.find? fun field => reservedNames.contains field.1).map (·.1)

end Event

/-- A message of the part of the program that a line names as its source. -/
def plainLine (level : Level) (source message : String) : Line :=
  ⟨level, "logleak." ++ source, message⟩

/-- The line that says that events are not logged. -/
def disabledLine : Line :=
  plainLine .debug "observability.logging" "logleak structured logging disabled"

end LogAudit.Log
