import LogAudit.Detection
import LogAudit.Discovery
import LogAudit.Log.Event
import LogAudit.Settings.Basic
import LogAudit.SourceFile

/-! # Scans

A scan discovers the files below its roots and looks for detections in each of them, one file after the
other or with several workers at a time. A file that cannot be read becomes a warning, and the scan goes
on without it. All that happens is noted in order.

* `scanFile`: the outcome of one file.
* `ScanResult`: detections, counts and warnings.
* `Pool`: the workers.
* `scanAll`: the outcomes of several files.
* `scan`: the result of a scan, with its notes. -/

namespace LogAudit
set_option autoImplicit false

open Files Decimal

/-! ## Results -/

/-- A file that was left out, and why. -/
structure FileWarning where
  path : String
  reason : String
deriving Repr, DecidableEq

/-- The counts of a scan and the time it took. -/
structure Statistics where
  filesScanned : Int := 0
  totalDetections : Int := 0
  milliseconds : Int := 0
deriving Repr, DecidableEq

/-- The result of a scan. -/
structure ScanResult where
  detections : List Detection := []
  statistics : Statistics := {}
  warnings : List FileWarning := []
deriving Repr, DecidableEq

/-- Whether anything was detected. -/
def ScanResult.hasDetections (result : ScanResult) : Bool := !result.detections.isEmpty

namespace ScanResult

/-- Counts one more file. -/
def countFile (result : ScanResult) : ScanResult :=
  { result with statistics.filesScanned := result.statistics.filesScanned + 1 }

/-- Counts more detections; the list of detections stays as it is. -/
def countDetections (result : ScanResult) (count : Int) : ScanResult :=
  { result with statistics.totalDetections := result.statistics.totalDetections + count }

/-- Adds a detection to the list; the count stays as it is. -/
def addDetection (result : ScanResult) (detection : Detection) : ScanResult :=
  { result with detections := result.detections ++ [detection] }

/-- Adds a warning. -/
def addWarning (result : ScanResult) (warning : FileWarning) : ScanResult :=
  { result with warnings := result.warnings ++ [warning] }

/-- Sets the duration. -/
def setDuration (result : ScanResult) (milliseconds : Int) : ScanResult :=
  { result with statistics.milliseconds := milliseconds }

end ScanResult

/-! ## One file -/

/-- What a scan makes of one file. -/
structure FileOutcome where
  path : String
  detections : List Detection := []
  statements : Nat := 0
  warning : Option FileWarning := none
deriving Repr, DecidableEq

/-- Scans one file. -/
def scanFile (codecs : Encoding.Codecs) (tree : Tree) (rules : RuleSet) (settings : Settings)
    (path : Path) : Except Encoding.Failure FileOutcome :=
  match readLines codecs tree path settings.encoding (some settings.largestFile) with
  | .error failure => .error failure
  | .ok (.error failure) =>
    .ok { path := path.text, warning := some ⟨path.text, failure.message⟩ }
  | .ok (.ok lines) =>
    let statements := fileStatements path.text lines
    .ok { path := path.text
          detections := statements.flatMap (detect rules.keywords rules.objectTypes)
          statements := statements.length }

/-! ## Notes -/

/-- What is noted during a scan: an event, or a plain line. -/
inductive Note
  | event (entry : Log.Event)
  | line (entry : Log.Line)
deriving Repr

/-- The line of a note. Events are logged inside of a scan only if `logsEvents`. -/
def Note.line? (logsEvents : Bool) (render : Log.Renderer) (context : Log.Context) :
    Note → Option Log.Line
  | event entry => if logsEvents then some (entry.line render context) else none
  | line entry => some entry

/-- The note of discovery as a line. -/
def DiscoveryNote.note (note : DiscoveryNote) : Note :=
  let level := match note with
    | .excluded _ => Log.Level.debug
    | .inaccessible _ _ => Log.Level.warning
    | .stopped _ => Log.Level.warning
  .line (Log.plainLine level "scanner.discovery" note.message)

/-- The note that a file is left out, at the moment it is read. -/
def FileOutcome.readNotes (outcome : FileOutcome) : List Note :=
  match outcome.warning with
  | some warning =>
    [.line (Log.plainLine .debug "scanner.pipeline"
      ("Skipping " ++ warning.path ++ ": " ++ warning.reason))]
  | none => []

/-- The notes on one file when its outcome is taken into the result. -/
def FileOutcome.notes (outcome : FileOutcome) : List Note :=
  match outcome.warning with
  | some warning => [.event (.fileSkipped (.string warning.path) (.string warning.reason))]
  | none =>
    .event (.fileScanned (.string outcome.path) (.int outcome.statements)
      (.int outcome.detections.length)) ::
      outcome.detections.map fun detection =>
        .event (.detected (.string detection.file) (.int detection.line) (.string detection.label))

/-! ## Whole scans -/

/-- Takes the outcome of a file into a result. -/
def ScanResult.add (result : ScanResult) (outcome : FileOutcome) : ScanResult :=
  match outcome.warning with
  | some warning => { result with warnings := result.warnings ++ [warning] }
  | none =>
    { result with
      detections := result.detections ++ outcome.detections
      statistics := { result.statistics with
        filesScanned := result.statistics.filesScanned + 1
        totalDetections := result.statistics.totalDetections + outcome.detections.length } }

/-- Why a scan comes to nothing. -/
inductive ScanFailure
  | root (failure : RootFailure)
  | encoding (failure : Encoding.Failure)
deriving Repr, DecidableEq

/-- A failure, or a value, with the notes made on the way. -/
structure Noted (α : Type) where
  outcome : Except ScanFailure α
  notes : List Note

/-- How files are searched for under some settings, through a number of levels of directories. -/
def Settings.search (settings : Settings) (rules : RuleSet) (deepest : Nat) : Search where
  deepest := deepest
  extensions := settings.extensions
  skippedNames := settings.skippedNames
  exclusions := rules.exclusions
  followLinks := settings.followLinks
  limit := settings.timeLimit.map Number.real

/-- Milliseconds between two readings of a clock, without fractions. -/
def millisecondsBetween (start stop : Number) : Int :=
  (((stop.sub start).mul (.whole 1000)).truncate?).getD 0

/-- Scans files one after another, up to the first whose encoding fails. -/
def scanFiles (codecs : Encoding.Codecs) (tree : Tree) (rules : RuleSet) (settings : Settings) :
    List Path → List FileOutcome × Option Encoding.Failure
  | [] => ([], none)
  | path :: rest =>
    match scanFile codecs tree rules settings path with
    | .error failure => ([], some failure)
    | .ok outcome =>
      let (outcomes, failure) := scanFiles codecs tree rules settings rest
      (outcome :: outcomes, failure)

/-- Workers that scan several files at a time: the outcomes they come to, and the notes in the order in
which they make them. -/
structure Pool where
  map : (Path → Except Encoding.Failure FileOutcome) → List Path →
    List (Except Encoding.Failure FileOutcome)
  gather : List (List Note) → List Note

/-- One worker that takes the files in turn. -/
def Pool.inTurn : Pool where
  map := fun scanOne files => files.map scanOne
  gather := List.flatten

/-- What a scan takes from the machine it runs on: decoders, workers, and the levels of directories that a
walk can go through. -/
structure Machine where
  codecs : Encoding.Codecs := Encoding.asciiCodecs
  pool : Pool := .inTurn
  deepest : Nat := 900

/-- The outcomes up to the first that failed, and its failure. -/
def upToFailure : List (Except Encoding.Failure FileOutcome) →
    List FileOutcome × Option Encoding.Failure
  | [] => ([], none)
  | .error failure :: _ => ([], some failure)
  | .ok outcome :: rest =>
    let (outcomes, failure) := upToFailure rest
    (outcome :: outcomes, failure)

/-- The notes made while a file is read. -/
def attemptNotes : Except Encoding.Failure FileOutcome → List Note
  | .ok outcome => outcome.readNotes
  | .error _ => []

/-- Whether several files are scanned at a time. -/
def Settings.sharesWork (settings : Settings) (files : List Path) : Bool :=
  1 < settings.workers && 1 < files.length

/-- Scans files, with the workers of the machine if there are several of both; gives what `scanFiles` gives,
and the notes on the way. -/
def scanAll (machine : Machine) (tree : Tree) (rules : RuleSet) (settings : Settings)
    (files : List Path) : (List FileOutcome × Option Encoding.Failure) × List Note :=
  if settings.sharesWork files then
    let attempts := machine.pool.map (scanFile machine.codecs tree rules settings) files
    (upToFailure attempts, machine.pool.gather (attempts.map attemptNotes))
  else
    let scanned := scanFiles machine.codecs tree rules settings files
    (scanned, scanned.1.flatMap FileOutcome.readNotes)

/-- Scans the files below the given roots. The clock is read from number `start` on: once at the
beginning, then by discovery, and once at the end. -/
def scan (machine : Machine) (tree : Tree) (rules : RuleSet) (settings : Settings)
    (clock : Clock) (start : Nat) (roots : List (Option String)) : Noted ScanResult :=
  match discover tree (settings.search rules machine.deepest) clock (start + 1) roots with
  | .error halt => ⟨.error (.root halt.failure), halt.notes.map DiscoveryNote.note⟩
  | .ok found =>
    let shownRoots := roots.map fun root => root.getD "None"
    let stopped := if found.stopped then
      [FileWarning.mk (String.intercalate ", " shownRoots) "discovery stopped: max_seconds"] else []
    let started := found.notes.map DiscoveryNote.note ++
      [.event (.scanStarted (.array (shownRoots.map .string)) (.int found.files.length)
        (.int settings.workers))]
    let ((outcomes, failure), read) := scanAll machine tree rules settings found.files
    let reading := started ++ read
    match failure with
    | some failure => ⟨.error (.encoding failure), reading⟩
    | none =>
      let collected := outcomes.foldl ScanResult.add { warnings := stopped }
      let milliseconds := millisecondsBetween (clock start) (clock (start + 1 + found.readings))
      let result := { collected with statistics := { collected.statistics with milliseconds } }
      ⟨.ok result, reading ++ outcomes.flatMap FileOutcome.notes ++
        [.event (.scanCompleted (.int result.statistics.filesScanned)
          (.int result.statistics.totalDetections) (.int milliseconds)
          (.int result.warnings.length))]⟩

end LogAudit
