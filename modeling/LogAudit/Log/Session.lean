import LogAudit.Decimal.Number
import LogAudit.Log.Event

/-! # Sessions of a log

A session has a level and a form in which lines are logged, a logger that is on or off, and the scans
that events belong to, one inside of the other. A shared logger is made when it is first asked for.

* `Session.configure`, `create`, `useShared`, `disableShared`: the loggers.
* `Session.enter`, `leave`: the scans.
* `Session.log`, `logAs`, `timed`: the events.

Every step gives the session after it and the lines that it logs. -/

namespace LogAudit.Log
set_option autoImplicit false

/-- The state of a log. -/
structure Session where
  /-- the rank from which on lines are let through -/
  threshold : Nat := unsetThreshold
  render : Renderer := Format.text.render
  /-- whether the logger in use logs events, if there is one -/
  logger : Option Bool := none
  /-- whether the shared logger logs events, if it has been made -/
  shared : Option Bool := none
  /-- the scans that are going on, innermost first -/
  scanIds : List String := []

namespace Session

/-- The lines that a session lets through. -/
def pass (session : Session) (lines : List Line) : List Line :=
  filtered session.threshold lines

/-- What is known in a session wherever an event arises. -/
def context (session : Session) (time : String) : Context :=
  ⟨time, session.scanIds.head?⟩

/-! ## Loggers -/

/-- Sets level and form. -/
def configure (session : Session) (threshold : Nat) (render : Renderer) : Session :=
  { session with threshold, render }

/-- The variable of the environment that turns events off. -/
def switchName : String := "LOGLEAK_DISABLE_OBSERVABILITY"

/-- Whether a logger logs events: as asked for, or else unless the environment turns it off. -/
def isOn (environment : List (String × String)) (asked : Option Bool) : Bool :=
  match asked with
  | some on => on
  | none => Text.lower ((environment.lookup switchName).getD "false") != "true"

/-- The lines for a new logger. -/
def creationLines (session : Session) (on : Bool) : List Line :=
  if on then [] else session.pass [disabledLine]

/-- Makes a logger and takes it into use. -/
def create (session : Session) (environment : List (String × String)) (asked : Option Bool) :
    Session × List Line :=
  let on := isOn environment asked
  ({ session with logger := some on }, session.creationLines on)

/-- Takes the shared logger into use. -/
def useShared (session : Session) (environment : List (String × String)) : Session × List Line :=
  match session.shared with
  | some on => ({ session with logger := some on }, [])
  | none =>
    let on := isOn environment none
    ({ session with logger := some on, shared := some on }, session.creationLines on)

/-- Puts a logger that is off in the place of the shared one; the logger in use stays. -/
def disableShared (session : Session) : Session × List Line :=
  ({ session with shared := some false }, session.creationLines false)

/-! ## Scans -/

/-- Enters a scan; without an id it gets the fresh one. -/
def enter (session : Session) (fresh : String) (id : Option String) : Session × String :=
  let id := match id with
    | some given => if given.isEmpty then fresh else given
    | none => fresh
  ({ session with scanIds := id :: session.scanIds }, id)

/-- Leaves the innermost scan. -/
def leave (session : Session) : Session :=
  { session with scanIds := session.scanIds.tail }

/-! ## Events -/

/-- A field of an event that has a reserved name. -/
structure Reserved where
  name : String
deriving Repr, DecidableEq

/-- The lines of an event whose fields have no reserved name. -/
def emit (session : Session) (time : String) (event : Event) : List Line :=
  if session.logger = some true then
    session.pass [event.line session.render (session.context time)]
  else []

/-- The lines of an event. A reserved name is refused even if events are off. -/
def log (session : Session) (time : String) (event : Event) : Except Reserved (List Line) :=
  match event.reserved? with
  | some name => .error ⟨name⟩
  | none => .ok (session.emit time event)

/-- The line for an event at a level that does not exist. -/
def unknownLevelLine (level name : String) : Line :=
  ⟨.error, "logleak.fallback",
    "Structured logging failed: 'BoundLogger' object has no attribute " ++ Text.quoted level ++
      ", original event: " ++ name⟩

/-- The fields of an event that tells of a caught failure: a last one says so, unless they say it. -/
def failureFields (fields : List (String × Json)) : List (String × Json) :=
  if fields.any (·.1 == "exc_info") then fields else fields ++ [("exc_info", .bool true)]

/-- The lines of an event at a level with a name. An exception is an error that tells of a caught
failure. -/
def logAs (session : Session) (time level name : String) (fields : List (String × Json)) :
    Except Reserved (List Line) :=
  let label := Text.lower level
  if label = "exception" then session.log time ⟨.error, name, failureFields fields⟩
  else match Level.labelled? label with
    | some known => session.log time ⟨known, name, fields⟩
    | none => do
      let lines ← session.log time ⟨.error, name, fields⟩
      return if lines.isEmpty then [] else [unknownLevelLine label name]

/-- A number as JSON. -/
def numberJson : Decimal.Number → Json
  | .whole value => .int value
  | .real value => .float value

/-- The lines of an operation between two readings of a clock. -/
def timed (session : Session) (time : String) (start stop : Decimal.Number) (operation : Json)
    (error : Option String) (further : List (String × Json)) : Except Reserved (List Line) :=
  session.log time (.timed operation (numberJson (stop.sub start)) error further)

end Session

end LogAudit.Log
