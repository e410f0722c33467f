import LogAudit.Files.Tree
import LogAudit.Rule
import LogAudit.Xml.Document

/-! # Rule files

A directory of rules holds up to four documents: scan directories, keywords, object types and
exclusions, which are read in this order. The first thing wrong decides. An entry is an element of a
given name at any depth, and its text is that before its first child, trimmed.

* `rulesIn`, `directoriesIn`: the entries of one document.
* `loadRules`: the rules of a directory. -/

namespace LogAudit
set_option autoImplicit false

open Files Text Encoding

/-- Why rules cannot be loaded. -/
inductive RuleFileFailure
  | blankDirectory
  | absentDirectory (directory : String)
  | notDirectory (directory : String)
  | unreadableDirectory (directory : String)
  | faultyDirectory (fault : Fault) (directory : String)
  | unreadable (file : Path) (fault : Fault)
  | unparsable (file : Path) (failure : Xml.Failure)
  | emptyEntry (file : Path) (tag : String) (position : Nat)
  | missingKind (file : Path) (tag text : String)
  | invalidRule (file : Path) (tag text : String) (failure : RuleFailure)
deriving Repr, DecidableEq

/-- The words for a failure. -/
def RuleFileFailure.message : RuleFileFailure → String
  | blankDirectory => "Configuration directory path cannot be null or empty"
  | absentDirectory directory => "Configuration directory not found: " ++ directory
  | notDirectory directory => "Configuration path is not a directory: " ++ directory
  | unreadableDirectory directory => "Configuration directory is not readable: " ++ directory
  | faultyDirectory fault directory => fault.describe directory
  | unreadable file fault => "Error reading " ++ file.name ++ ": " ++ fault.describe file.text
  | unparsable file failure =>
    match failure with
    | .malformed _ _ _ => "Invalid XML structure in " ++ file.name ++ ": " ++ failure.message
    | _ => failure.message
  | emptyEntry file tag position =>
    "Empty " ++ tag ++ " found at position " ++ toString position ++ " in " ++ file.name
  | missingKind file tag text =>
    "Missing 'type' attribute for " ++ tag ++ ": " ++ text ++ " in " ++ file.name
  | invalidRule file tag _ failure =>
    match failure with
    | .countTooLarge => failure.message
    | .conflictingAlphabets => failure.message
    | .tooDeep => failure.message
    | _ => "Invalid regex pattern for " ++ tag ++ " in " ++ file.name ++ ": " ++ failure.message

/-- What a failure is about. -/
def RuleFileFailure.source? : RuleFileFailure → Option String
  | blankDirectory => none
  | absentDirectory directory => some directory
  | notDirectory directory => some directory
  | unreadableDirectory directory => some directory
  | faultyDirectory _ directory => some directory
  | unreadable file _ => some file.text
  | unparsable file _ => some file.text
  | emptyEntry file _ _ => some file.text
  | missingKind file _ _ => some file.text
  | invalidRule file _ _ _ => some file.text

/-- The code of a failure; one that no user can mend has none. -/
def RuleFileFailure.code? : RuleFileFailure → Option String
  | faultyDirectory _ _ => none
  | unparsable _ (.malformed _ _ _) => some "CONFIGURATION_ERROR"
  | unparsable _ _ => none
  | invalidRule _ _ _ .countTooLarge => none
  | invalidRule _ _ _ .conflictingAlphabets => none
  | invalidRule _ _ _ .tooDeep => none
  | invalidRule _ _ _ _ => some "INVALID_RULE"
  | _ => some "CONFIGURATION_ERROR"

/-- A failure in one line, with its code if it has one. -/
def RuleFileFailure.text (failure : RuleFileFailure) : String :=
  match failure.code? with
  | some code => "[" ++ code ++ "] " ++ failure.message
  | none => failure.message

/-! ## Entries -/

/-- The rule of one entry. -/
def ruleOf (engine : Pattern.Engine) (file : Path) (tag : String) (position : Nat)
    (element : Xml.Element) : Except RuleFileFailure Rule :=
  let text := trim element.text
  let kind := trim ((element.attribute? "type").getD "")
  if text = "" then .error (.emptyEntry file tag position)
  else if kind = "" then .error (.missingKind file tag text)
  else (Rule.make engine (RuleKind.ofAttribute kind) text).mapError (.invalidRule file tag text)

/-- The rules of entries, the first of which has a given position. -/
def rulesFrom (engine : Pattern.Engine) (file : Path) (tag : String) :
    Nat → List Xml.Element → Except RuleFileFailure (List Rule)
  | _, [] => .ok []
  | position, element :: rest => do
    let rule ← ruleOf engine file tag position element
    let rules ← rulesFrom engine file tag (position + 1) rest
    return rule :: rules

/-- The directories of entries, the first of which has a given position. -/
def directoriesFrom (file : Path) :
    Nat → List Xml.Element → Except RuleFileFailure (List String)
  | _, [] => .ok []
  | position, element :: rest =>
    let text := trim element.text
    if text = "" then .error (.emptyEntry file "directory" position)
    else (directoriesFrom file (position + 1) rest).map (text :: ·)

/-! ## Files -/

/-- The root of the document at a path. -/
def readDocument (codecs : Codecs) (tree : Tree) (file : Path) :
    Except RuleFileFailure Xml.Element :=
  match tree.read file with
  | .error fault => .error (.unreadable file fault)
  | .ok bytes => (Xml.parseDocument codecs bytes).mapError (.unparsable file)

/-- Reads a file of a directory, if it is there. -/
def readIfPresent {α : Type} (codecs : Codecs) (tree : Tree) (directory : Path) (name : String)
    (read : Path → Xml.Element → Except RuleFileFailure (List α)) :
    Except RuleFileFailure (List α) :=
  let file := directory.child name
  match tree.exists? file with
  | .error fault => .error (.faultyDirectory fault file.text)
  | .ok false => .ok []
  | .ok true =>
    match readDocument codecs tree file with
    | .error failure => .error failure
    | .ok root => read file root

/-- The rules in a document. -/
def rulesIn (engine : Pattern.Engine) (tag : String) (file : Path) (root : Xml.Element) :
    Except RuleFileFailure (List Rule) :=
  rulesFrom engine file tag 0 (root.named tag)

/-- The scan directories in a document. -/
def directoriesIn (file : Path) (root : Xml.Element) : Except RuleFileFailure (List String) :=
  directoriesFrom file 0 (root.named "directory")

/-- The rules in the files of a directory. -/
def loadRulesFrom (codecs : Codecs) (engine : Pattern.Engine) (tree : Tree) (directory : Path) :
    Except RuleFileFailure RuleSet := do
  let scanDirectories ← readIfPresent codecs tree directory "scan-directories.xml" directoriesIn
  let keywords ← readIfPresent codecs tree directory "keywords.xml" (rulesIn engine "keyword")
  let objectTypes ← readIfPresent codecs tree directory "object-types.xml"
    (rulesIn engine "object-type")
  let exclusions ← readIfPresent codecs tree directory "exclusions.xml"
    (rulesIn engine "exclusion")
  return { keywords, objectTypes, exclusions, scanDirectories, source := some directory.text }

/-- The rules of a directory that is given by its name. -/
def loadRules (codecs : Codecs) (engine : Pattern.Engine) (tree : Tree)
    (directory : Option String) : Except RuleFileFailure RuleSet :=
  match directory with
  | none => .error .blankDirectory
  | some text =>
    let path := Path.ofText text
    if isBlankText text then .error .blankDirectory
    else match tree.exists? path with
      | .error fault => .error (.faultyDirectory fault path.text)
      | .ok false => .error (.absentDirectory text)
      | .ok true =>
        if !tree.leadsToDirectory path then .error (.notDirectory text)
        else if !tree.isListable path then .error (.unreadableDirectory text)
        else loadRulesFrom codecs engine tree path

/-- How many rules were loaded, and from where. -/
def RuleSet.summary (rules : RuleSet) : String :=
  "Loaded " ++ toString rules.keywords.length ++ " keywords, " ++
    toString rules.objectTypes.length ++ " object types, " ++
    toString rules.exclusions.length ++ " exclusions from " ++ rules.source.getD ""

end LogAudit
