/-! # Help

The texts that explain the usage of the program. -/

namespace LogAudit.CommandLine
set_option autoImplicit false

/-- The usage in one line. -/
def usageLine : String := "Usage: logleak [OPTIONS] [ROOTS]..."

/-- What is shown above a fault. -/
def usageLines : List String :=
  [usageLine, "Try 'logleak --help' for help.", ""]

/-- The whole help. -/
def helpLines : List String := [
  usageLine,
  "",
  "  Scan Java sources for sensitive data written to log statements.",
  "",
  "Options:",
  "  --config TEXT            Directory with keywords.xml, object-types.xml,",
  "                           exclusions.xml and scan-directories.xml",
  "  --output TEXT            Report file path",
  "  --format [html|json]     Report format (default: html)",
  "  --workers INTEGER RANGE  Files scanned in parallel  [1<=x<=64]",
  "  --timeout FLOAT RANGE    Stop file discovery after this many seconds  [x>0]",
  "  --verbose                Show full log statements in the console table",
  "  --fail-on-detection      Exit with status 2 when anything is detected",
  "  --help                   Show this message and exit."]

end LogAudit.CommandLine
