import LogAudit.CommandLine.Run
import LogAudit.Text.CharName
import Std.Time

/-! # The program

Takes in the files below the current directory, the environment and the date, runs the command line on
them, shows and logs what comes out, and writes the files that are new or have changed. -/

namespace LogAudit.CommandLine
set_option autoImplicit false

/-- A tree in which the system refuses to have a place read. -/
def unreadable (tree : Files.Tree) (place : Files.Place) : Files.Tree :=
  { tree with bars := ((place, .read), .denied) :: tree.bars }

/-- Takes in the files below a place. Links are left out. -/
partial def takeIn (tree : Files.Tree) (place : Files.Place) : IO Files.Tree := do
  let here ← IO.currentDir
  let entries ← ((here / "/".intercalate (place.drop tree.current.length)).readDir).toBaseIO
  match entries with
  | .error _ => return unreadable tree place
  | .ok entries =>
    let mut tree := tree
    for entry in entries do
      let inner := place ++ [entry.fileName]
      match (← entry.path.symlinkMetadata).type with
      | .dir => tree ← takeIn (tree.addDirectory inner) inner
      | .file =>
        match ← (IO.FS.readBinFile entry.path).toBaseIO with
        | .ok bytes => tree := tree.addFile inner bytes.toList
        | .error _ => tree := unreadable (tree.addFile inner []) inner
      | _ => pure ()
    return tree

/-- The tree of files below the current directory. -/
def takeInCurrent : IO Files.Tree := do
  let current := Files.partsOf (← IO.currentDir).toString
  takeIn { (({} : Files.Tree).addDirectory current) with current } current

/-- Makes the directories and writes the files that are new or have changed. -/
def putOut (before after : Files.Tree) : IO Unit := do
  for (place, node) in after.entries do
    unless before.node? place == some node do
      match node with
      | .directory => IO.FS.createDirAll ("/" ++ "/".intercalate place)
      | .file bytes =>
        IO.FS.createDirAll ("/" ++ "/".intercalate place.dropLast)
        IO.FS.writeBinFile ("/" ++ "/".intercalate place) ⟨bytes.toArray⟩
      | _ => pure ()

/-- The variables of the environment that have a meaning. -/
def readEnvironment : IO (List (String × String)) := do
  let names := Log.Session.switchName ::
    Settings.names.map fun name => Text.upper (Settings.environmentMark ++ name)
  names.filterMapM fun name => return (← IO.getEnv name).map fun value => (name, value)

/-- The local date and time. -/
def readMoment : IO Moment := do
  let here ← Std.Time.PlainDateTime.now
  return { year := here.date.year.toInt.toNat, month := here.date.month.toNat
           day := here.date.day.toNat, hour := here.time.hour.toNat
           minute := here.time.minute.toNat, second := here.time.second.toNat }

/-- A random id. -/
def freshId : IO String := do
  let digits (count : Nat) : IO String := do
    return String.ofList (Text.hexDigits count (← IO.rand 0 (Nat.pow 16 count - 1)))
  return "-".intercalate
    [← digits 8, ← digits 4, "4" ++ (← digits 3), "8" ++ (← digits 3), ← digits 12]

/-- Milliseconds as a number of seconds. -/
def seconds (milliseconds : Nat) : Decimal.Number :=
  .real (Decimal.Double.ofRatio false milliseconds 1000)

/-- Runs the program. The clock is read before and after the files are taken in. -/
def start (arguments : List String) : IO UInt32 := do
  let began ← IO.monoMsNow
  let tree ← takeInCurrent
  let ended ← IO.monoMsNow
  let moment ← readMoment
  let instant ← Std.Time.Timestamp.now
  let utc := Moment.ofSeconds instant.toSecondsSinceUnixEpoch.val.toNat
  let screen := ((← IO.getEnv "COLUMNS").bind String.toNat?).getD 80
  let limits : Json.Limits := { deepest := some 900, digits := some 4300 }
  let world : World :=
    { tree, moment, limits
      toolkit := .usual limits (fun _ => none) screen
      engine := ⟨Text.charNamed?, 400⟩
      environment := ← readEnvironment
      clock := fun reading => if reading ≤ 2 then seconds began else seconds ended
      time := utc.dateText ++ "T" ++ utc.timeText ":" ++ "+00:00"
      scanId := ← freshId }
  let outcome := run world arguments
  putOut tree outcome.tree
  for line in outcome.shown do IO.println line
  for line in outcome.logged do IO.eprintln line
  if let some stop := outcome.stop then
    if stop.title?.isNone then IO.eprintln stop.message
  return outcome.status.toUInt32

end LogAudit.CommandLine

/-- The command line of the program. -/
def main (arguments : List String) : IO UInt32 :=
  LogAudit.CommandLine.start arguments
