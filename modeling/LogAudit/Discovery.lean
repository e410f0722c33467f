import LogAudit.Decimal.Number
import LogAudit.Files.Tree
import LogAudit.Rule

/-! # Discovery of source files

Every root is walked depth first: the files of a directory come before those of its subdirectories,
both in order of their names. A file counts once, under the first path that leads to it. Discovery can
be given a limit of time; it then looks at the clock when it starts and in every directory. A walk can
only go so deep, and discovery ends where directories go on below.

* `visits`: the directories of a root in the order of the walk, with the names of their files.
* `Discovery.accept`: what becomes of one file.
* `discover`: the files below all roots. -/

namespace LogAudit
set_option autoImplicit false

open Files Decimal

/-- What is looked for, and how far; a walk goes through a number of levels of directories at most. -/
structure Search where
  extensions : List String := [".java"]
  skippedNames : List String := []
  exclusions : List Rule := []
  followLinks : Bool := false
  limit : Option Number := none
  deepest : Nat := 900
deriving Repr

/-- Readings of a clock, by their number. -/
abbrev Clock : Type := Nat → Number

/-! ## Roots -/

/-- Why a root cannot be searched. -/
inductive RootFailure
  | blank
  | absent (root : String)
  | notDirectory (root : String)
  | unreadable (root : String)
  | faulty (fault : Fault) (path : String)
  | tooDeep
deriving Repr, DecidableEq

/-- The words for a failure. -/
def RootFailure.message : RootFailure → String
  | blank => "Root path cannot be null or empty"
  | absent root => "Path does not exist: " ++ root
  | notDirectory root => "Path is not a directory: " ++ root
  | unreadable root => "Path is not readable: " ++ root
  | faulty fault path => fault.describe path
  | tooDeep => "maximum recursion depth exceeded"

/-- The path of a root that is a directory and can be listed. -/
def checkRoot (tree : Tree) (root : Option String) : Except RootFailure Path :=
  match root with
  | none => .error .blank
  | some text =>
    let path := Path.ofText text
    if Text.isBlankText text then .error .blank
    else match tree.exists? path with
      | .error fault => .error (.faulty fault path.text)
      | .ok false => .error (.absent text)
      | .ok true =>
        if !tree.leadsToDirectory path then .error (.notDirectory text)
        else if !tree.isListable path then .error (.unreadable text)
        else .ok path

/-! ## The walk -/

/-- A directory of the walk with the names in it that are no directories, one that cannot be listed, or one
that is too deep for the walk. -/
inductive Visit
  | listed (directory : Path) (files : List String)
  | refused (directory : Path) (fault : Fault)
  | buried (directory : Path)
deriving Repr, DecidableEq

/-- Names in order of their code points. -/
def sortedNames (names : List String) : List String :=
  names.mergeSort fun a b => a ≤ b

/-- The text that a walk has for a path: below the current directory it begins with a dot. -/
def walkText (root path : Path) : String :=
  if !root.isAbsolute && root.parts.isEmpty && !path.parts.isEmpty then "./" ++ path.text
  else path.text

/-- Whether the system takes the text that a walk has for a path. -/
def fitsWalk (root path : Path) : Bool :=
  decide ((walkText root path).utf8ByteSize ≤ Tree.longestPath)

/-- Whether an entry of a directory at a place is a directory, or a link that leads to one. -/
def isBelow (tree : Tree) (root : Path) (place : Place) (directory : Path) (name : String) : Bool :=
  match tree.node? (place ++ [name]) with
  | some .directory => true
  | some (.link _) =>
    fitsWalk root (directory.child name) && tree.leadsToDirectory (directory.child name)
  | _ => false

/-- Whether a walk goes on into an entry that is a directory. -/
def isEntered (tree : Tree) (search : Search) (place : Place) (name : String) : Bool :=
  search.followLinks ||
    match tree.node? (place ++ [name]) with
    | some (.link _) => false
    | _ => true

/-- The place of the directory that a walk lists at a path, or why it cannot. -/
def listing (tree : Tree) (root directory : Path) : Except Fault Place :=
  if !fitsWalk root directory then .error .nameTooLong
  else match tree.locate directory true with
    | .error fault => .error fault
    | .ok (place, .directory) =>
      match tree.bar? place .read with
      | some bar => .error bar.fault
      | none => .ok place
    | .ok _ => .error .notDirectory

/-- The names in a directory that are no directories, in order. -/
def filesIn (tree : Tree) (root : Path) (place : Place) (directory : Path) : List String :=
  sortedNames ((tree.namesAt place).filter (!isBelow tree root place directory ·))

/-- The names in a directory that a walk goes on to, in order. -/
def directoriesBelow (tree : Tree) (search : Search) (root : Path) (place : Place)
    (directory : Path) : List String :=
  (sortedNames ((tree.namesAt place).filter fun name =>
    isBelow tree root place directory name && !search.skippedNames.contains name)).filter
      (isEntered tree search place)

/-- The directories at and below a directory, depth first; the number is that of the levels that the walk
can still go through. -/
def visitsFrom (tree : Tree) (search : Search) (root : Path) : Nat → Path → List Visit
  | 0, directory => [.buried directory]
  | levels + 1, directory =>
    match listing tree root directory with
    | .error fault => [.refused directory fault]
    | .ok place =>
      .listed directory (filesIn tree root place directory) ::
        (directoriesBelow tree search root place directory).flatMap fun name =>
          visitsFrom tree search root levels (directory.child name)

/-- The directories of a root in the order of the walk. -/
def visits (tree : Tree) (search : Search) (root : Path) : List Visit :=
  visitsFrom tree search root search.deepest root

/-! ## Files -/

/-- What discovery has to say about its way. -/
inductive DiscoveryNote
  | excluded (path : Path)
  | inaccessible (text : String) (fault : Fault)
  | stopped (limit : Number)
deriving Repr, DecidableEq

/-- The words of a note. -/
def DiscoveryNote.message : DiscoveryNote → String
  | excluded path => "Excluded by rule: " ++ path.text
  | inaccessible text fault => "Cannot access " ++ text ++ ": " ++ fault.reason
  | stopped limit => "File discovery stopped after " ++ limit.fixed 1 ++ "s"

/-- Files found so far, their places, notes, and the number of readings taken from the clock. -/
structure Discovery where
  files : List Path := []
  places : List (Option Place) := []
  notes : List DiscoveryNote := []
  readings : Nat := 0
  stopped : Bool := false
deriving Repr

/-- Whether a rule of exclusion is found in a path below its root. -/
def isExcluded (exclusions : List Rule) (path : String) : Bool :=
  exclusions.any (·.foundIn path)

/-- Whether a name ends with one of several extensions. -/
def hasExtension (extensions : List String) (name : String) : Bool :=
  extensions.any fun ending => ending.toList.isSuffixOf name.toList

/-- Why discovery ends without files, and what it had to say until then. -/
structure DiscoveryHalt where
  failure : RootFailure
  notes : List DiscoveryNote := []
deriving Repr, DecidableEq

/-- Takes one file into account. A path that the system cannot look at ends discovery. -/
def Discovery.accept (tree : Tree) (search : Search) (root : Path) (found : Discovery)
    (path : Path) : Except DiscoveryHalt Discovery :=
  let halt := fun (fault : Fault) => DiscoveryHalt.mk (.faulty fault path.text) found.notes
  if !hasExtension search.extensions path.name then .ok found
  else match (if search.followLinks then .ok false else tree.isLink? path), tree.isFile? path with
    | .error fault, _ => .error (halt fault)
    | .ok true, _ => .ok found
    | .ok false, .error fault => .error (halt fault)
    | .ok false, .ok false => .ok found
    | .ok false, .ok true =>
      if isExcluded search.exclusions (root.below path) then
        .ok { found with notes := found.notes ++ [.excluded path] }
      else
        let place := tree.placeOf? path
        if found.places.contains place then .ok found
        else .ok { found with files := found.files ++ [path], places := found.places ++ [place] }

/-- Takes the files of one directory into account. -/
def Discovery.look (tree : Tree) (search : Search) (root : Path) (found : Discovery)
    (directory : Path) (files : List String) : Except DiscoveryHalt Discovery :=
  files.foldlM (fun found name => found.accept tree search root (directory.child name)) found

/-- Takes one directory into account, unless the time is over. One that is too deep ends discovery. -/
def Discovery.enter (tree : Tree) (search : Search) (clock : Clock) (start : Nat) (root : Path)
    (found : Discovery) (visit : Visit) : Except DiscoveryHalt Discovery :=
  if found.stopped then .ok found
  else match visit, search.limit with
    | .refused directory fault, _ =>
      .ok { found with notes := found.notes ++ [.inaccessible (walkText root directory) fault] }
    | .buried _, _ => .error ⟨.tooDeep, found.notes⟩
    | .listed directory files, none => found.look tree search root directory files
    | .listed directory files, some limit =>
      let next := { found with readings := found.readings + 1 }
      if limit.lt ((clock (start + found.readings)).sub (clock start)) then
        .ok { next with notes := found.notes ++ [.stopped limit], stopped := true }
      else next.look tree search root directory files

/-- The files below the given roots. The clock is read from number `start` on. -/
def discover (tree : Tree) (search : Search) (clock : Clock) (start : Nat)
    (roots : List (Option String)) : Except DiscoveryHalt Discovery := do
  let paths ← (roots.mapM (checkRoot tree)).mapError fun failure => { failure }
  paths.foldlM (fun found root =>
    (visits tree search root).foldlM (fun found visit => found.enter tree search clock start root visit)
      found) { readings := 1 }

end LogAudit
