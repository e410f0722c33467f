import LogAudit.Text.Quoted

/-! # Faults of the file system

Why a file cannot be reached, read or written, with the number and the words that the system has for
it. -/

namespace LogAudit.Files
set_option autoImplicit false

/-- Why an operation on a file fails. -/
inductive Fault
  | notFound
  | alreadyExists
  | notDirectory
  | isDirectory
  | nameTooLong
  | tooManyLinks
  | denied
  | broken
  | noSpace
deriving Repr, DecidableEq

/-- The number of a fault. -/
def Fault.code : Fault → Nat
  | notFound => 2
  | alreadyExists => 17
  | notDirectory => 20
  | isDirectory => 21
  | nameTooLong => 36
  | tooManyLinks => 40
  | denied => 13
  | broken => 5
  | noSpace => 28

/-- The words for a fault. -/
def Fault.reason : Fault → String
  | notFound => "No such file or directory"
  | alreadyExists => "File exists"
  | notDirectory => "Not a directory"
  | isDirectory => "Is a directory"
  | nameTooLong => "File name too long"
  | tooManyLinks => "Too many levels of symbolic links"
  | denied => "Permission denied"
  | broken => "Input/output error"
  | noSpace => "No space left on device"

/-- Number, words and place of a fault. Where space runs out, the place is not told. -/
def Fault.describe (fault : Fault) (place : String) : String :=
  "[Errno " ++ toString fault.code ++ "] " ++ fault.reason ++
    if fault = .noSpace then "" else ": " ++ Text.quoted place

end LogAudit.Files
