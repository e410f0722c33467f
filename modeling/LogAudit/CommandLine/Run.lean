import LogAudit.CommandLine.Help
import LogAudit.CommandLine.Options
import LogAudit.Log.Session
import LogAudit.Report.Screen
import LogAudit.RuleFile
import LogAudit.Settings.Read

/-! # Runs of the program

A run reads its settings, loads rules, scans the files below its roots, shows the result and writes a
report. The first thing wrong ends it. It leaves it to a toolkit to understand its arguments, to read
settings, and to bring texts to the screen and into the log.

* `Toolkit`: what does this for a run.
* `World`: all that a run can see.
* `Outcome`: all that it leaves behind.
* `Stop`: why it ends early.
* `run`: the outcome of a command line. -/

namespace LogAudit.CommandLine
set_option autoImplicit false

open Files

/-! ## Toolkits -/

/-- Why something cannot be shown: its tags do not match, or the screen lacks one of its characters. -/
inductive ScreenFault
  | tag (fault : Console.TagFault)
  | character (c : Char)
deriving Repr, DecidableEq

/-- The words for a fault. -/
def ScreenFault.message : ScreenFault → String
  | tag fault => fault.message
  | character c => "the screen cannot show " ++ Text.quoted (String.ofList [c])

/-- What comes to the screen, and what keeps the rest of it away, if anything does. -/
structure Shown where
  lines : List String := []
  fault : Option ScreenFault := none
deriving Repr, DecidableEq

/-- Why there are no settings, in words, and whether this is for the user to know. -/
structure SettingsStop where
  words : String
  isReported : Bool
deriving Repr, DecidableEq

/-- What a run leaves to others: to understand its arguments, to read the settings of an environment, to
show a result, where its report is, and why a run fails, and to render the events of its log. -/
structure Toolkit where
  parse : Tree → List String → Except UsageFault Request
  settings : List (String × String) → Except SettingsStop Settings
  showResult : Bool → ScanResult → Shown
  showPath : Path → Shown
  showFailure : String → String → Shown
  render : Log.Renderer

/-- The settings of an environment. -/
def readSettings (limits : Json.Limits) (help? : String → Option String)
    (environment : List (String × String)) : Except SettingsStop Settings :=
  match Settings.read limits [] environment with
  | .ok settings => .ok settings
  | .error (.invalid faults) => .error ⟨SettingFault.describeAll help? faults, true⟩
  | .error (.tooDeep container) => .error ⟨container.depthMessage, false⟩

/-- The usual toolkit, for a screen of a width that can show every character. -/
def Toolkit.usual (limits : Json.Limits) (help? : String → Option String) (screen : Nat) : Toolkit where
  parse := CommandLine.parse
  settings := readSettings limits help?
  showResult := fun withStatements result =>
    { lines := Report.screenLines screen withStatements result
      fault := (Report.screenFault? result).map .tag }
  showPath := fun path => { lines := Report.writtenLines screen path }
  showFailure := fun title message => { lines := Report.failureLines screen title message }
  render := Log.Format.text.render

/-- All that a run can see: its toolkit, what the machine brings to scans and to patterns, the limits of
numbers, files, environment, clock and date, and the id that its scan gets. -/
structure World where
  toolkit : Toolkit
  machine : Machine := {}
  engine : Pattern.Engine
  limits : Json.Limits := {}
  tree : Tree
  environment : List (String × String)
  clock : Clock
  moment : Moment
  /-- the date and time as events show them -/
  time : String
  scanId : String

/-- Why a run ends early. -/
inductive Stop
  | settings (stop : SettingsStop)
  | rules (failure : RuleFileFailure)
  | noRoots
  | scan (failure : ScanFailure)
  | screen (fault : ScreenFault)
  | report (failure : Report.Failure)
deriving Repr

/-- All that a run leaves behind: its status, what it shows on the screen, what it logs, the files after
it, and the reason if it ended early. -/
structure Outcome where
  status : Nat
  shown : List String := []
  logged : List String := []
  tree : Tree
  stop : Option Stop := none

/-! ## Stops -/

namespace Stop

/-- What stands above the words for a reason on the screen. A reason that no user can mend ends the
program without a word on the screen. -/
def title? : Stop → Option String
  | settings stop => if stop.isReported then some "Configuration error" else none
  | rules failure => failure.code?.map fun _ => "Configuration error"
  | noRoots => some "No scan roots"
  | scan (.root (.faulty _ _)) => none
  | scan (.root .tooDeep) => none
  | scan (.root _) => some "Scan failed"
  | scan (.encoding _) => none
  | screen _ => none
  | report (.file _ _) => some "Report error"
  | report (.digits _) => none

/-- The words for a reason. -/
def message : Stop → String
  | settings stop => if stop.isReported then "Invalid LOGLEAK_* settings: " ++ stop.words else stop.words
  | rules failure => failure.message
  | noRoots => "No directories to scan: pass ROOTS, list them in scan-directories.xml " ++
      "or set LOGLEAK_SCAN_ROOTS"
  | scan (.root failure) => failure.message
  | scan (.encoding failure) => failure.message
  | screen fault => fault.message
  | report failure => failure.message

end Stop

/-- The outcome of a run that ends early and leaves a tree of files behind. If its reason is to be shown
and cannot be, then that is the reason. -/
def World.stopped (world : World) (shown : List String) (lines : List Log.Line) (tree : Tree)
    (stop : Stop) : Outcome :=
  let logged := lines.map (·.message)
  match stop.title? with
  | none => { status := 1, shown, logged, tree, stop := some stop }
  | some title =>
    let failure := world.toolkit.showFailure title stop.message
    let shown := shown ++ failure.lines
    match failure.fault with
    | some fault => { status := 1, shown, logged, tree, stop := some (.screen fault) }
    | none =>
      { status := 1, shown, logged := logged ++ ["Error: " ++ stop.message], tree, stop := some stop }

/-! ## Settings and rules -/

/-- Settings with what the command line asks for. -/
def Options.override (options : Options) (settings : Settings) : Settings :=
  { settings with
    workers := options.workers.getD settings.workers
    timeLimit := options.timeLimit.or settings.timeLimit }

/-- A text unless it is empty. -/
def unlessEmpty (text : Option String) : Option String :=
  text.filter (· != "")

/-- The directory that rules are loaded from, if any. -/
def Options.rulesFrom (options : Options) (settings : Settings) : Option String :=
  (unlessEmpty options.ruleDirectory).or (unlessEmpty settings.ruleDirectory)

/-- The rules of a directory, or those that are built in. -/
def rulesOf (world : World) (directory : Option String) : Except RuleFileFailure RuleSet :=
  match directory with
  | some name => loadRules world.machine.codecs world.engine world.tree (some name)
  | none => .ok RuleSet.builtIn

/-- What is called the source of the rules that are built in. -/
def builtInName : String := "built-in"

/-- The lines about the loading of rules: how many there are, how long it took, and once more how many
there are. -/
def loadingLines (world : World) (session : Log.Session) (directory : Option String)
    (loaded : Except RuleFileFailure RuleSet) : List Log.Line :=
  let timed (error : Option String) := session.emit world.time
    (.timed (.string "load_rule_set")
      (Log.Session.numberJson ((world.clock 1).sub (world.clock 0))) error
      [("source", .string (directory.getD builtInName))])
  match loaded with
  | .error failure => timed (some failure.text)
  | .ok rules =>
    let summary := if directory.isNone then []
      else session.pass [Log.plainLine .debug "configuration.loader" rules.summary]
    summary ++ timed none ++ session.emit world.time
      (.rulesLoaded (.string ((unlessEmpty rules.source).getD builtInName))
        (.int rules.keywords.length) (.int rules.objectTypes.length) (.int rules.exclusions.length))

/-- The roots of a scan: those of the command line, else those of the rules, else those of the
settings. -/
def rootsOf (options : Options) (rules : RuleSet) (settings : Settings) : List String :=
  if !options.roots.isEmpty then options.roots
  else if !rules.scanDirectories.isEmpty then rules.scanDirectories
  else settings.roots

/-! ## Scan and report -/

/-- The lines of what is noted during a scan. -/
def noteLines (world : World) (session : Log.Session) (notes : List Note) : List Log.Line :=
  let inside := (session.enter world.scanId none).1
  notes.flatMap fun
    | .event entry => inside.emit world.time entry
    | .line entry => inside.pass [entry]

/-- The form of the report. -/
def formatOf (options : Options) (settings : Settings) : Report.Format :=
  match options.format with
  | some format => format
  | none => if settings.reportFormat == "json" then .document else .page

/-- A name below a directory. -/
def inDirectory (directory name : String) : String :=
  if directory.isEmpty || directory.toList.getLast? == some '/' then directory ++ name
  else directory ++ "/" ++ name

/-- Where the report goes. -/
def reportPath (world : World) (options : Options) (settings : Settings) : String :=
  (unlessEmpty options.output).getD
    (inDirectory settings.reportDirectory
      (Report.defaultName world.moment (formatOf options settings).ending))

/-- The status of a run whose report is written. -/
def finalStatus (options : Options) (result : ScanResult) : Nat :=
  if options.failOnDetection && result.hasDetections then 2 else 0

/-- Shows a result, writes its report, and shows where it is. -/
def finish (world : World) (options : Options) (settings : Settings) (lines : List Log.Line)
    (result : ScanResult) : Outcome :=
  let screen := world.toolkit.showResult options.verbose result
  match screen.fault with
  | some fault => world.stopped screen.lines lines world.tree (.screen fault)
  | none =>
    match Report.write world.limits world.tree (formatOf options settings) world.moment result
        (reportPath world options settings) with
    | (.error failure, tree) => world.stopped screen.lines lines tree (.report failure)
    | (.ok path, tree) =>
      let last := world.toolkit.showPath path
      let shown := screen.lines ++ last.lines
      match last.fault with
      | some fault => world.stopped shown lines tree (.screen fault)
      | none => { status := finalStatus options result, shown, logged := lines.map (·.message), tree }

/-! ## Whole runs -/

/-- The session of a run, with the lines for its logger. -/
def sessionOf (world : World) (options : Options) (settings : Settings) :
    Log.Session × List Log.Line :=
  let level := if options.verbose then "DEBUG" else settings.logLevel
  let session := ({} : Log.Session).configure
    ((Log.threshold? level).getD Log.unsetThreshold) world.toolkit.render
  session.create world.environment (if settings.logsEvents then none else some false)

/-- Scans as the options ask for. The clock is read twice while rules are loaded, and then by the
scan. -/
def runScan (world : World) (options : Options) : Outcome :=
  match world.toolkit.settings world.environment with
  | .error stop => world.stopped [] [] world.tree (.settings stop)
  | .ok read =>
    let settings := options.override read
    let (session, created) := sessionOf world options settings
    let directory := options.rulesFrom settings
    let loaded := rulesOf world directory
    let lines := created ++ loadingLines world session directory loaded
    match loaded with
    | .error failure => world.stopped [] lines world.tree (.rules failure)
    | .ok rules =>
      let roots := rootsOf options rules settings
      if roots.isEmpty then world.stopped [] lines world.tree .noRoots
      else
        let noted := scan world.machine world.tree rules settings world.clock 2 (roots.map some)
        let lines := lines ++ noteLines world session noted.notes
        match noted.outcome with
        | .error failure => world.stopped [] lines world.tree (.scan failure)
        | .ok result => finish world options settings lines result

/-- The outcome of a command line. -/
def run (world : World) (arguments : List String) : Outcome :=
  match world.toolkit.parse world.tree arguments with
  | .error fault =>
    { status := 2
      logged := (if fault.showsUsage then usageLines else []) ++ ["Error: " ++ fault.message]
      tree := world.tree }
  | .ok .help => { status := 0, shown := helpLines, tree := world.tree }
  | .ok (.scan options) => runScan world options

end LogAudit.CommandLine
