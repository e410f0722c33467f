import LogAudit.CommandLine.Fault
import LogAudit.Decimal.Integer
import LogAudit.Files.Tree
import LogAudit.Report.File
import LogAudit.Settings.Value
import LogAudit.Text.Similar

/-! # Options of the command line

An option is named by two dashes and a word. Its value is the next argument, or follows the name and an
equals sign. All other arguments are roots, also what follows two dashes alone. Of an option that is
given more than once the last value counts, but values are checked in the order in which their options
first appear.

* `collect`: options and roots as they are given.
* `Options`: what is asked for.
* `parse`: the request of a command line. -/

namespace LogAudit.CommandLine
set_option autoImplicit false

open Text Decimal

/-! ## Names -/

/-- The options that can be given. -/
inductive Switch
  | config
  | output
  | format
  | workers
  | timeout
  | verbose
  | failOnDetection
  | help
deriving Repr, DecidableEq

namespace Switch

/-- All options in their order. -/
def all : List Switch :=
  [config, output, format, workers, timeout, verbose, failOnDetection, help]

/-- The name of an option. -/
def name : Switch → String
  | config => "--config"
  | output => "--output"
  | format => "--format"
  | workers => "--workers"
  | timeout => "--timeout"
  | verbose => "--verbose"
  | failOnDetection => "--fail-on-detection"
  | help => "--help"

/-- Whether an option has a value. -/
def takesValue : Switch → Bool
  | verbose => false
  | failOnDetection => false
  | help => false
  | _ => true

/-- The option with a name. -/
def named? (name : String) : Option Switch :=
  all.find? fun switch => switch.name == name

end Switch

/-! ## Collecting -/

/-- An option as it is given; the value of one that takes none is empty. -/
structure Given where
  switch : Switch
  value : String := ""
deriving Repr, DecidableEq

/-- The options and roots of a command line, in their order. -/
structure Collected where
  options : List Given := []
  roots : List String := []
deriving Repr, DecidableEq

/-- Puts an option in front. -/
def Collected.withOption (collected : Collected) (switch : Switch) (value : String) : Collected :=
  { collected with options := ⟨switch, value⟩ :: collected.options }

/-- Puts a root in front. -/
def Collected.withRoot (collected : Collected) (root : String) : Collected :=
  { collected with roots := root :: collected.roots }

/-- Whether an argument is an option. -/
def isOption (argument : String) : Bool :=
  match argument.toList with
  | '-' :: _ :: _ => true
  | _ => false

/-- The name in an argument, and the value behind an equals sign. -/
def splitValue (argument : String) : String × Option String :=
  let chars := argument.toList
  match chars.dropWhile (· != '=') with
  | _ :: value => (String.ofList (chars.takeWhile (· != '=')), some (String.ofList value))
  | [] => (argument, none)

/-- The fault of an option that does not exist. After a single dash each letter is taken for an option
of its own. -/
def unknown (argument name : String) : UsageFault :=
  match argument.toList with
  | '-' :: '-' :: _ => .unknownOption name (similarWords (Switch.all.map Switch.name) name)
  | '-' :: c :: _ => .unknownOption (String.ofList ['-', c]) []
  | _ => .unknownOption name []

/-- Collects options and roots. -/
def collect : List String → Except UsageFault Collected
  | [] => .ok {}
  | argument :: rest =>
    if argument = "--" then .ok { roots := rest }
    else if !isOption argument then (collect rest).map (·.withRoot argument)
    else
      let (name, value?) := splitValue argument
      match Switch.named? name with
      | none => .error (unknown argument name)
      | some switch =>
        if switch.takesValue then
          match value?, rest with
          | some value, rest => (collect rest).map (·.withOption switch value)
          | none, value :: rest => (collect rest).map (·.withOption switch value)
          | none, [] => .error (.missingValue name)
        else if value?.isSome then .error (.needlessValue name)
        else (collect rest).map (·.withOption switch "")

/-! ## Values -/

/-- What a command line asks for. -/
structure Options where
  roots : List String := []
  ruleDirectory : Option String := none
  output : Option String := none
  format : Option Report.Format := none
  workers : Option Int := none
  timeLimit : Option Double := none
  verbose : Bool := false
  failOnDetection : Bool := false
deriving Repr, DecidableEq

/-- The number of files that can be scanned at a time: from one to this. -/
def mostWorkers : Int := 64

/-- Whether every underscore stands between two digits; the first argument is the character before. -/
def underscoresFit : Option Char → List Char → Bool
  | before, [] => before != some '_'
  | before, c :: rest =>
    (if c == '_' then before.any (·.isDigit) else before != some '_' || c.isDigit) &&
      underscoresFit (some c) rest

/-- A digit of any script as an ASCII digit. -/
def plainDigit (c : Char) : Char :=
  match digitValue? c with
  | some value => Char.ofNat (48 + value)
  | none => c

/-- The number that a text stands for, with blanks around it and underscores between its digits. -/
def number? (text : String) : Option Double :=
  let chars := (trimmed text.toList).map plainDigit
  if underscoresFit none chars then Settings.plainNumber? (chars.filter (· != '_')) else none

/-- Takes the value of one option. -/
def Options.take (options : Options) (given : Given) : Except UsageFault Options :=
  let name := given.switch.name
  match given.switch with
  | .config => .ok { options with ruleDirectory := some given.value }
  | .output => .ok { options with output := some given.value }
  | .format =>
    match lower given.value with
    | "html" => .ok { options with format := some .page }
    | "json" => .ok { options with format := some .document }
    | _ => .error (.notAmong name given.value ["html", "json"])
  | .workers =>
    match integer? given.value with
    | none => .error (.notInteger name given.value)
    | some count =>
      if 1 ≤ count && count ≤ mostWorkers then .ok { options with workers := some count }
      else .error (.integerOutside name count 1 mostWorkers)
  | .timeout =>
    match number? given.value with
    | none => .error (.notNumber name given.value)
    | some limit =>
      if limit == .nan || (Double.zero false).lt limit then .ok { options with timeLimit := some limit }
      else .error (.notPositive name limit)
  | .verbose => .ok { options with verbose := true }
  | .failOnDetection => .ok { options with failOnDetection := true }
  | .help => .ok options

/-- The options in the order in which they first appear, each with its last value. -/
def settled : List Given → List Given
  | [] => []
  | given :: rest =>
    let last := (rest.filter (·.switch == given.switch)).getLast?.getD given
    last :: (settled rest).filter (·.switch != given.switch)

/-- Whether a text can only name a directory: it ends with a slash, or with a slash and a point. -/
def namesDirectory (root : String) : Bool :=
  (pieces '/' root).getLast?.any fun last => last == "" || last == "."

/-- Checks that a root is no file, and that it is not known to be unreadable. -/
def checkRoot (tree : Files.Tree) (root : String) : Except UsageFault Unit :=
  match tree.locate (.ofText root) true with
  | .error _ => .ok ()
  | .ok (_, .file _) => if namesDirectory root then .ok () else .error (.rootIsFile root)
  | .ok _ => if tree.isListable (.ofText root) then .ok () else .error (.rootUnreadable root)

/-! ## Requests -/

/-- What the program is to do. -/
inductive Request
  | help
  | scan (options : Options)
deriving Repr, DecidableEq

/-- The request of a command line. -/
def parse (tree : Files.Tree) (arguments : List String) : Except UsageFault Request := do
  let collected ← collect arguments
  if collected.options.any (·.switch == .help) then return .help
  let options ← (settled collected.options).foldlM Options.take {}
  collected.roots.forM (checkRoot tree)
  return .scan { options with roots := collected.roots }

end LogAudit.CommandLine
