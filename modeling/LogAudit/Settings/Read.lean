import LogAudit.Encoding.Charset
import LogAudit.Settings.Basic
import LogAudit.Settings.Value
import LogAudit.Text.Case

/-! # Reading settings

A setting is taken from the values given directly, else from the environment, else from the defaults.
Every setting is checked, and all faults are reported in the order of the settings; names that are no
settings come last. Nothing is reported if the text of a list goes too deep.

* `environmentValue?`: a setting in an environment.
* `read`: the settings from values. -/

namespace LogAudit.Settings
set_option autoImplicit false

open Decimal Text

/-! ## Names -/

/-- The names of the settings, in order. -/
def names : List String :=
  ["environment", "log_level", "config_dir", "scan_roots", "file_extensions", "exclude_dir_names",
    "follow_symlinks", "max_file_bytes", "file_encoding", "workers", "scan_timeout", "report_dir",
    "report_format", "observability_enabled"]

/-- What the name of every setting begins with in an environment. -/
def environmentMark : String := "logleak_"

/-- The value of a setting in an environment. Case is of no importance in names, empty values do not
count, and of several values the last one does. -/
def environmentValue? (environment : List (String × String)) (name : String) : Option String :=
  ((environment.filter fun pair =>
    lower pair.1 == environmentMark ++ name && pair.2 != "").getLast?).map (·.2)

/-- A value given directly; case is of no importance in names. -/
def givenValue? (given : List (String × Json)) (name : String) : Option Json :=
  (given.find? fun pair => lower pair.1 == name).map (·.2)

/-! ## Checks -/

/-- A value with the faults found on the way to it. -/
structure Checked (α : Type) where
  value : α
  faults : List SettingFault := []

/-- Checks one value; without it the default stands. -/
def check {α : Type} (name : String) (default : α) (read : Json → Except SettingCause α)
    (value? : Option Json) : Checked α :=
  match value? with
  | none => ⟨default, []⟩
  | some value =>
    match read value with
    | .ok result => ⟨result, []⟩
    | .error cause => ⟨default, [⟨[name], cause, value⟩]⟩

/-- A reader that also takes the absence of a value for a value. -/
def orNothing {α : Type} (read : Json → Except SettingCause α) (value : Json) :
    Except SettingCause (Option α) :=
  match value with
  | .null => .ok none
  | other => (read other).map some

/-- One of several allowed texts, after a change of case. -/
def readChoice (name : String) (allowed : List String) (change : String → String) (value : Json) :
    Except SettingCause String := do
  let text := change (← readText value)
  if allowed.contains text then return text else throw (.notAmong name allowed)

/-- An integer that is at least one. -/
def readCount (value : Json) : Except SettingCause Int := do
  let count ← readInteger value
  if count < 1 then throw (.below 1) else return count

/-- The greatest number of files that are scanned at a time. -/
def mostWorkers : Int := 64

/-- A number of files that are scanned at a time. -/
def readWorkers (value : Json) : Except SettingCause Int := do
  let count ← readInteger value
  if mostWorkers < count then throw (.above mostWorkers)
  else if count < 1 then throw (.below 1)
  else return count

/-- A number above zero. -/
def readPositive (value : Json) : Except SettingCause Double := do
  let number ← readNumber value
  if (Double.zero false).lt number then return number else throw .notPositive

/-- The name of a known encoding. -/
def readEncoding (value : Json) : Except SettingCause String := do
  let name ← readText value
  if name.toList.contains '\x00' then throw .nullCharacter
  else if (Encoding.Charset.named? name).isSome then return name else throw (.unknownEncoding name)

/-- The faults of items that are no texts, the first of which has a given index. -/
def itemFaults (name : String) : Nat → List Json → List SettingFault
  | _, [] => []
  | index, item :: rest =>
    let later := itemFaults name (index + 1) rest
    match readText item with
    | .ok _ => later
    | .error cause => ⟨[name, toString index], cause, item⟩ :: later

/-- Checks a list of texts, which may be given as one text. -/
def checkList (limits : Json.Limits) (name : String) (default : List String) (value? : Option Json) :
    Except SettingsFailure (Checked (List String)) :=
  match value? with
  | none => .ok ⟨default, []⟩
  | some (.string text) =>
    match splitList limits text with
    | .ok items => .ok ⟨items, []⟩
    | .error container => .error (.tooDeep container)
  | some (.array items) =>
    .ok ⟨items.filterMap fun item => (readText item).toOption, itemFaults name 0 items⟩
  | some value => .ok ⟨default, [⟨[name], .noList, value⟩]⟩

/-- An extension with the point it begins with. -/
def withPoint (extension : String) : String :=
  if extension.toList.head? == some '.' then extension else "." ++ extension

/-! ## All settings -/

/-- Reads all settings from the values given directly and those of an environment. A list that goes too
deep to be read ends it at once. -/
def read (limits : Json.Limits) (given : List (String × Json)) (environment : List (String × String)) :
    Except SettingsFailure Settings := do
  let value? := fun name =>
    (givenValue? given name).or ((environmentValue? environment name).map Json.string)
  let usual : Settings := {}
  let stage := check "environment" usual.environment
    (readChoice "environment" ["development", "staging", "production"] id) (value? "environment")
  let logLevel := check "log_level" usual.logLevel
    (readChoice "log_level" ["DEBUG", "INFO", "WARNING", "ERROR", "CRITICAL"] upper)
    (value? "log_level")
  let ruleDirectory := check "config_dir" none (orNothing readText) (value? "config_dir")
  let roots ← checkList limits "scan_roots" usual.roots (value? "scan_roots")
  let extensions ← checkList limits "file_extensions" usual.extensions (value? "file_extensions")
  let skippedNames ← checkList limits "exclude_dir_names" usual.skippedNames
    (value? "exclude_dir_names")
  let followLinks := check "follow_symlinks" usual.followLinks readTruth (value? "follow_symlinks")
  let largestFile := check "max_file_bytes" usual.largestFile readCount (value? "max_file_bytes")
  let encoding := check "file_encoding" usual.encoding readEncoding (value? "file_encoding")
  let workers := check "workers" usual.workers readWorkers (value? "workers")
  let timeLimit := check "scan_timeout" none (orNothing readPositive) (value? "scan_timeout")
  let reportDirectory := check "report_dir" usual.reportDirectory readText (value? "report_dir")
  let reportFormat := check "report_format" usual.reportFormat
    (readChoice "report_format" ["html", "json"] lower) (value? "report_format")
  let logsEvents := check "observability_enabled" usual.logsEvents readTruth
    (value? "observability_enabled")
  let unknown := (given.filter fun pair => !names.contains (lower pair.1)).map fun pair =>
    (⟨[pair.1], .unknownName, pair.2⟩ : SettingFault)
  let faults := stage.faults ++ logLevel.faults ++ ruleDirectory.faults ++ roots.faults ++
    extensions.faults ++ skippedNames.faults ++ followLinks.faults ++ largestFile.faults ++
    encoding.faults ++ workers.faults ++ timeLimit.faults ++ reportDirectory.faults ++
    reportFormat.faults ++ logsEvents.faults ++ unknown
  if !faults.isEmpty then .error (.invalid faults)
  else .ok {
    environment := stage.value
    logLevel := logLevel.value
    ruleDirectory := ruleDirectory.value
    roots := roots.value
    extensions := extensions.value.map withPoint
    skippedNames := skippedNames.value
    followLinks := followLinks.value
    largestFile := largestFile.value
    encoding := encoding.value
    workers := workers.value
    timeLimit := timeLimit.value
    reportDirectory := reportDirectory.value
    reportFormat := reportFormat.value
    logsEvents := logsEvents.value }

end LogAudit.Settings
