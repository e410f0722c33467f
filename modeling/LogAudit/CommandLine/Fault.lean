import LogAudit.Decimal.Layout
import LogAudit.Text.Quoted

/-! # Faults of a command line

Why the arguments of the program cannot be understood. Most faults are shown below a reminder of the
usage. -/

namespace LogAudit.CommandLine
set_option autoImplicit false

open Text

/-- Why arguments are refused. -/
inductive UsageFault
  | unknownOption (name : String) (similar : List String)
  | missingValue (option : String)
  | needlessValue (option : String)
  | notAmong (option given : String) (allowed : List String)
  | notInteger (option given : String)
  | integerOutside (option : String) (value least most : Int)
  | notNumber (option given : String)
  | notPositive (option : String) (value : Decimal.Double)
  | rootIsFile (root : String)
  | rootUnreadable (root : String)
deriving Repr, DecidableEq

namespace UsageFault

/-- A hint at similar names. -/
def hint (similar : List String) : String :=
  match similar with
  | [] => ""
  | [name] => " Did you mean " ++ quoted name ++ "?"
  | names =>
    let sorted := names.mergeSort fun a b => decide (a ≤ b)
    " (Did you mean one of: " ++ ", ".intercalate (sorted.map quoted) ++ "?)"

/-- The words for a value that is refused. -/
def invalid (parameter reason : String) : String :=
  "Invalid value for " ++ quoted parameter ++ ": " ++ reason

/-- The words for a fault. -/
def message : UsageFault → String
  | unknownOption name similar => "No such option " ++ quoted name ++ "." ++ hint similar
  | missingValue option => "Option " ++ quoted option ++ " requires an argument."
  | needlessValue option => "Option " ++ quoted option ++ " does not take a value."
  | notAmong option given allowed =>
    invalid option (quoted given ++ " is not one of " ++ ", ".intercalate (allowed.map quoted) ++ ".")
  | notInteger option given => invalid option (quoted given ++ " is not a valid integer range.")
  | integerOutside option value least most =>
    invalid option s!"{value} is not in the range {least}<=x<={most}."
  | notNumber option given => invalid option (quoted given ++ " is not a valid float range.")
  | notPositive option value => invalid option (value.text ++ " is not in the range x>0.")
  | rootIsFile root => invalid "[ROOTS]..." ("Directory " ++ quoted root ++ " is a file.")
  | rootUnreadable root =>
    invalid "[ROOTS]..." ("Directory " ++ quoted root ++ " is not readable.")

/-- Whether a fault is shown below the usage. -/
def showsUsage : UsageFault → Bool
  | missingValue _ => false
  | needlessValue _ => false
  | _ => true

end UsageFault

end LogAudit.CommandLine
