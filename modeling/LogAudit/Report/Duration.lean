import LogAudit.Scan

/-! # Durations in words

Less than a second is given in milliseconds, less than a minute in seconds with two places, and more in
minutes and whole seconds. -/

namespace LogAudit.Report
set_option autoImplicit false

/-- The text of a number of milliseconds. -/
def durationText (milliseconds : Int) : String :=
  if milliseconds < 1000 then s!"{milliseconds} ms"
  else if milliseconds < 60000 then
    (Decimal.Double.ofRatio false milliseconds.toNat 1000).fixed 2 ++ " seconds"
  else
    let minutes := milliseconds / 60000
    let seconds := milliseconds % 60000 / 1000
    s!"{minutes} min {seconds} sec"

/-- The integers that a number of milliseconds is shown with. -/
def durationIntegers (milliseconds : Int) : List Int :=
  if milliseconds < 1000 then [milliseconds]
  else if milliseconds < 60000 then []
  else [milliseconds / 60000, milliseconds % 60000 / 1000]

end LogAudit.Report
