import LogAudit.Decimal.Double

/-! # Settings

What can be set for a scan, and the values in force where nothing is set. -/

namespace LogAudit
set_option autoImplicit false

/-- The settings of a scan. -/
structure Settings where
  environment : String := "development"
  logLevel : String := "INFO"
  ruleDirectory : Option String := none
  roots : List String := []
  extensions : List String := [".java"]
  skippedNames : List String :=
    [".git", ".hg", ".svn", ".idea", ".vscode", "node_modules", "target", "build", "out", ".gradle",
      "__pycache__"]
  followLinks : Bool := false
  largestFile : Int := 10 * 1024 * 1024
  encoding : String := "utf-8"
  workers : Int := 1
  timeLimit : Option Decimal.Double := none
  reportDirectory : String := "."
  reportFormat : String := "html"
  logsEvents : Bool := true
deriving Repr, DecidableEq

end LogAudit
