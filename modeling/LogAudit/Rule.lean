import LogAudit.Pattern.Basic
import LogAudit.Text.Scan

/-! # Rules

A rule names something sensitive, as a literal or as a pattern. A literal is compared with names as a
whole and looked for in texts, both without regard to case. A pattern is searched for, in names with
regard to case and in texts without. -/

namespace LogAudit
set_option autoImplicit false

open Text

/-- How the text of a rule is meant. -/
inductive RuleKind
  | literal
  | pattern
deriving Repr, DecidableEq

/-- The kind that a `type` attribute stands for: `regex` in any case and with blanks around it is a
pattern, and all else is a literal. -/
def RuleKind.ofAttribute (value : String) : RuleKind :=
  if lower (trim value) = "regex" then .pattern else .literal

/-- A rule, with its compiled pattern if it is one. -/
structure Rule where
  text : String
  pattern? : Option Pattern
deriving Repr, DecidableEq

/-- Why a rule cannot be made. -/
inductive RuleFailure
  | blank (text : String)
  | malformed (text : String) (fault : Pattern.Fault) (position : Option Nat)
  | countTooLarge
  | conflictingAlphabets
  | tooDeep
deriving Repr, DecidableEq

/-- The words for a failure. -/
def RuleFailure.message : RuleFailure → String
  | blank _ => "Rule text cannot be empty"
  | malformed text fault position =>
    "Invalid regex pattern: " ++ text ++ " - " ++ Pattern.faultMessage text fault position
  | countTooLarge => "the repetition number is too large"
  | conflictingAlphabets => "ASCII and UNICODE flags are incompatible"
  | tooDeep => "maximum recursion depth exceeded"

namespace Rule

/-- A literal rule. -/
def literal (text : String) : Rule := ⟨text, none⟩

/-- Makes a rule of a kind from a text that is not blank. -/
def make (engine : Pattern.Engine) (kind : RuleKind) (text : String) : Except RuleFailure Rule :=
  if isBlankText text then .error (.blank text)
  else match kind with
    | .literal => .ok (literal text)
    | .pattern =>
      match Pattern.compile engine text with
      | .ok pattern => .ok ⟨text, some pattern⟩
      | .error (.malformed fault position) => .error (.malformed text fault position)
      | .error .countTooLarge => .error .countTooLarge
      | .error .conflictingAlphabets => .error .conflictingAlphabets
      | .error .tooDeep => .error .tooDeep

/-- Whether a rule is a pattern. -/
def isPattern (rule : Rule) : Bool := rule.pattern?.isSome

/-- Whether a rule matches a name. -/
def matchesName (rule : Rule) (name : String) : Bool :=
  match rule.pattern? with
  | some pattern => pattern.occursIn name
  | none => lower name == lower rule.text

/-- Whether a rule is found in a text. -/
def foundIn (rule : Rule) (text : String) : Bool :=
  match rule.pattern? with
  | some pattern => pattern.occursInAnyCase text
  | none => occursIn (lower rule.text).toList (lower text).toList

end Rule

/-- The first of several rules that matches a name. -/
def firstMatch? (rules : List Rule) (name : String) : Option Rule :=
  rules.find? (·.matchesName name)

/-! ## Rule sets -/

/-- The rules of a scan, the directories they name, and where they were read. -/
structure RuleSet where
  keywords : List Rule := []
  objectTypes : List Rule := []
  exclusions : List Rule := []
  scanDirectories : List String := []
  source : Option String := none
deriving Repr, DecidableEq

/-- The rules that are in force if none are configured. -/
def RuleSet.builtIn : RuleSet where
  keywords :=
    ["password", "passwd", "ssn", "socialSecurityNumber", "creditCard", "cardNumber", "cvv", "pin",
      "dob", "dateOfBirth", "apiKey", "secret", "token"].map Rule.literal
  objectTypes := ["request", "response"].map Rule.literal

end LogAudit
