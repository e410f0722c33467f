import LogAudit.Rule
import LogAudit.Source.Dynamic
import LogAudit.Source.Name
import LogAudit.Source.Statement

/-! # Detections

Each strategy pulls candidate names out of a statement. A name that a keyword rule matches is reported
once; then the variables that an object type matches; then, if the statement has dynamic content, the
literals in which a keyword is found.

* `namesReported`: the names reported by rules, in order of first occurrence.
* `literalsReported`: the keywords reported in literals, at most one for each literal.
* `nameFindings`, `objectFindings`, `literalFindings`: what the three phases report.
* `detect`: all detections of a statement. -/

namespace LogAudit
set_option autoImplicit false

open Source

/-- A rule found in a statement. -/
structure Detection where
  file : String
  line : Int
  label : String
  statement : String
deriving Repr, DecidableEq

/-- The ways to pull names out of a statement. -/
inductive Strategy
  | wholeNames
  | methodCalls
  | bufferAppends
  | bufferTraces
  | stringJoin
  | stringJoiner
deriving Repr, DecidableEq

namespace Strategy

/-- All strategies, in the order in which they are tried. -/
def all : List Strategy :=
  [wholeNames, methodCalls, bufferAppends, bufferTraces, stringJoin, stringJoiner]

/-- The names that a strategy finds in a statement. -/
def names (statement : Statement) : Strategy → List String
  | wholeNames => Source.wholeNames statement.text.toList
  | methodCalls => Source.methodCalls statement.text.toList
  | bufferAppends => appendedNames statement.text.toList
  | bufferTraces =>
    statement.traces.flatMap fun buffer =>
      buffer.history.flatMap fun argument => namesOf argument.toList
  | stringJoin => joinedNames statement.text.toList
  | stringJoiner => joinerNames statement.text.toList

end Strategy

/-! ## Reporting -/

/-- A key that is not reported again within a statement, and the label it is reported under. -/
structure Finding where
  key : String
  label : String
deriving Repr, DecidableEq

/-- The names that rules match, each reported once under the first rule that matches it. -/
def namesReported (rules : List Rule) : List String → List String → List Finding
  | _, [] => []
  | reported, name :: rest =>
    if name ∈ reported then namesReported rules reported rest
    else match firstMatch? rules name with
      | some rule => ⟨name, rule.text⟩ :: namesReported rules (name :: reported) rest
      | none => namesReported rules reported rest

/-- The key under which a keyword found in a literal is reported. -/
def literalKey (rule : Rule) : String := "literal:" ++ rule.text

/-- The keywords found in literals: each literal reports the first keyword found in it that is not
reported yet. -/
def literalsReported (rules : List Rule) : List String → List (List Char) → List Finding
  | _, [] => []
  | reported, content :: rest =>
    match rules.find? fun rule =>
        literalKey rule ∉ reported && rule.foundIn (String.ofList content) with
    | some rule =>
      ⟨literalKey rule, rule.text ++ " (in string literal)"⟩ ::
        literalsReported rules (literalKey rule :: reported) rest
    | none => literalsReported rules reported rest

/-- The names that the strategies find in a statement and a keyword matches. -/
def nameFindings (strategies : List Strategy) (keywords : List Rule) (statement : Statement) :
    List Finding :=
  namesReported keywords [] (strategies.flatMap (·.names statement))

/-- The variables of a statement that an object type matches and that are not reported yet. -/
def objectFindings (objectTypes : List Rule) (reported : List String) (statement : Statement) :
    List Finding :=
  namesReported objectTypes reported (Source.wholeNames statement.text.toList)

/-- The keywords in the literals of a statement with dynamic content that are not reported yet. -/
def literalFindings (keywords : List Rule) (reported : List String) (statement : Statement) :
    List Finding :=
  if hasDynamicContent statement.text.toList then
    literalsReported keywords reported (literalContents statement.text.toList)
  else []

/-- The findings of a statement, in order. -/
def findings (strategies : List Strategy) (keywords objectTypes : List Rule)
    (statement : Statement) : List Finding :=
  let named := nameFindings strategies keywords statement
  let objects := objectFindings objectTypes (named.map (·.key)) statement
  let literals := literalFindings keywords ((named ++ objects).map (·.key)) statement
  named ++ objects ++ literals

/-- The detections of a statement, by the given strategies. -/
def detectWith (strategies : List Strategy) (keywords objectTypes : List Rule)
    (statement : Statement) : List Detection :=
  (findings strategies keywords objectTypes statement).map fun finding =>
    ⟨statement.file, statement.line, finding.label, statement.text⟩

/-- The detections of a statement. -/
def detect (keywords objectTypes : List Rule) (statement : Statement) : List Detection :=
  detectWith Strategy.all keywords objectTypes statement

/-! ## Whole files -/

/-- The statements of a file with the histories of its buffers. -/
def fileStatements (file : String) (lines : List String) : List Statement :=
  statements file (trackBuffers lines) lines

/-- The detections in the lines of a file. -/
def detectLines (rules : RuleSet) (file : String) (lines : List String) : List Detection :=
  (fileStatements file lines).flatMap (detect rules.keywords rules.objectTypes)

end LogAudit
