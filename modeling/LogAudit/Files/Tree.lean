import LogAudit.Files.Path
import LogAudit.Files.Fault

/-! # File trees

A file tree has directories, files with their bytes, links, and devices. Each entry has a place, the list
of names that leads to it from the top. One of the directories is the current one, where all paths begin
that are not absolute. The system can refuse to search, to list, to read or to change what stands at a
place, and there may be little room for what is written.

* `Tree.bar?`: what the system refuses.
* `Tree.locate`: the entry that a path leads to; at most forty links are followed.
* `Tree.exists?`, `isDirectory?`, `isFile?`, `isLink?`: what is at a path.
* `Tree.namesAt`: the names in a directory.
* `Tree.read`: the contents of files.
* `Tree.site`: where a new entry at a path would stand.
* `Tree.makeDirectories`, `write`: changes. -/

namespace LogAudit.Files
set_option autoImplicit false

/-- The names that lead from the top to an entry. -/
abbrev Place : Type := List String

/-- What stands at a place. A device takes all that is written to it, and nothing can be read from it. -/
inductive Node
  | directory
  | file (bytes : List UInt8)
  | link (target : String)
  | device
deriving Repr, DecidableEq

/-- What is done with an entry. A directory is read to list it, searched for the entries in it, and
written to make one there. -/
inductive Access
  | read
  | write
  | search
deriving Repr, DecidableEq

/-- Why the system refuses access: it is not permitted, or it does not work. -/
inductive Bar
  | denied
  | broken
deriving Repr, DecidableEq

/-- The fault of a refusal. -/
def Bar.fault : Bar → Fault
  | denied => .denied
  | broken => .broken

/-- All entries, the current directory, what the system refuses, and the number of bytes that there is
room for in a file, if that is limited. -/
structure Tree where
  entries : List (Place × Node) := []
  current : Place := []
  bars : List ((Place × Access) × Bar) := []
  room : Option Nat := none
deriving Repr, DecidableEq

namespace Tree

/-! ## Places -/

/-- Why the system refuses access to a place, if it does. -/
def bar? (tree : Tree) (place : Place) (access : Access) : Option Bar :=
  tree.bars.lookup (place, access)

/-- What stands at a place; the top is always there. -/
def node? (tree : Tree) (place : Place) : Option Node :=
  if place.isEmpty then some .directory else tree.entries.lookup place

/-- Puts a node at a place, where it replaces what stood there. -/
def put (tree : Tree) (place : Place) (node : Node) : Tree :=
  if tree.entries.any (·.1 == place) then
    { tree with
      entries := tree.entries.map fun entry => if entry.1 == place then (place, node) else entry }
  else { tree with entries := tree.entries ++ [(place, node)] }

/-- Makes a directory at a place and at every place on the way, unless something is there. -/
def addDirectory (tree : Tree) (place : Place) : Tree :=
  (List.range (place.length + 1)).foldl (fun made depth =>
    if (made.node? (place.take depth)).isSome then made else made.put (place.take depth) .directory)
    tree

/-- Puts a file at a place, with the directories on the way. -/
def addFile (tree : Tree) (place : Place) (bytes : List UInt8) : Tree :=
  (tree.addDirectory place.dropLast).put place (.file bytes)

/-- Puts a link at a place, with the directories on the way. -/
def addLink (tree : Tree) (place : Place) (target : String) : Tree :=
  (tree.addDirectory place.dropLast).put place (.link target)

/-- The names of the entries directly below a place. -/
def namesAt (tree : Tree) (place : Place) : List String :=
  tree.entries.filterMap fun entry =>
    if entry.1.dropLast == place then entry.1.getLast? else none

/-! ## Paths -/

/-- The number of bytes that a name can have. -/
def longestName : Nat := 255

/-- The number of bytes that a path can have. -/
def longestPath : Nat := 4095

/-- The number of links that are followed on the way to an entry. -/
def mostLinks : Nat := 40

/-- Goes from a place along the names that are left. The number is that of links that may still be
followed; a link at the very end is followed only if `followLast`. -/
def locateFrom (tree : Tree) (followLast : Bool) (links : Nat) (here : Place) (names : List String) :
    Except Fault (Place × Node) :=
  match names with
  | [] =>
    match tree.node? here with
    | some node => .ok (here, node)
    | none => .error .notFound
  | name :: rest =>
    if tree.node? here != some .directory then .error .notDirectory
    else match tree.bar? here .search with
    | some bar => .error bar.fault
    | none =>
      if name == ".." then locateFrom tree followLast links here.dropLast rest
      else if name.utf8ByteSize > longestName then .error .nameTooLong
      else match tree.node? (here ++ [name]) with
        | none => .error .notFound
        | some (.link target) =>
          if rest.isEmpty && !followLast then .ok (here ++ [name], .link target)
          else match links with
            | 0 => .error .tooManyLinks
            | left + 1 =>
              locateFrom tree followLast left ((Path.ofText target).start here)
                ((Path.ofText target).parts ++ rest)
        | some _ => locateFrom tree followLast links (here ++ [name]) rest
termination_by (links, names.length)

/-- The entry that a path leads to, and its place. -/
def locate (tree : Tree) (path : Path) (followLast : Bool) : Except Fault (Place × Node) :=
  if path.text.utf8ByteSize > longestPath then .error .nameTooLong
  else locateFrom tree followLast mostLinks (path.start tree.current) path.parts

/-- Whether a fault only says that nothing can be found. -/
def meansAbsent (fault : Fault) : Bool :=
  fault == .notFound || fault == .notDirectory || fault == .tooManyLinks

/-- Whether a path leads to a node of some sort; no if it leads nowhere. -/
def holds? (tree : Tree) (path : Path) (test : Node → Bool) : Except Fault Bool :=
  match tree.locate path true with
  | .ok (_, node) => .ok (test node)
  | .error fault => if meansAbsent fault then .ok false else .error fault

/-- Whether something is at a path. -/
def exists? (tree : Tree) (path : Path) : Except Fault Bool :=
  tree.holds? path fun _ => true

/-- Whether a directory is at a path. -/
def isDirectory? (tree : Tree) (path : Path) : Except Fault Bool :=
  tree.holds? path (· == .directory)

/-- Whether a file is at a path. -/
def isFile? (tree : Tree) (path : Path) : Except Fault Bool :=
  tree.holds? path fun
    | .file _ => true
    | _ => false

/-- Whether a link is at a path. -/
def isLink? (tree : Tree) (path : Path) : Except Fault Bool :=
  match tree.locate path false with
  | .ok (_, .link _) => .ok true
  | .ok _ => .ok false
  | .error fault => if meansAbsent fault then .ok false else .error fault

/-- Whether a path leads to a directory, taking every fault for a no. -/
def leadsToDirectory (tree : Tree) (path : Path) : Bool :=
  match tree.locate path true with
  | .ok (_, .directory) => true
  | _ => false

/-- Whether the system lets a directory be listed, for all that is known before it is. -/
def isListable (tree : Tree) (path : Path) : Bool :=
  match tree.locate path true with
  | .ok (place, _) => tree.bar? place .read != some .denied
  | .error _ => false

/-- The place of the entry that a path leads to through all links. -/
def placeOf? (tree : Tree) (path : Path) : Option Place :=
  (tree.locate path true).toOption.map (·.1)

/-! ## Contents -/

/-- The bytes of the file at a path. -/
def read (tree : Tree) (path : Path) : Except Fault (List UInt8) :=
  match tree.locate path true with
  | .error fault => .error fault
  | .ok (place, node) =>
    match tree.bar? place .read, node with
    | some bar, _ => .error bar.fault
    | none, .file bytes => .ok bytes
    | none, .device => .ok []
    | none, _ => .error .isDirectory

/-- Goes from a place along the names that are left to the site of an entry at their end, which need not
be there. The number is that of links that may still be followed. -/
def siteFrom (tree : Tree) (links : Nat) (here : Place) (names : List String) : Except Fault Place :=
  match names with
  | [] => .ok here
  | name :: rest =>
    if tree.node? here != some .directory then .error .notDirectory
    else match tree.bar? here .search with
    | some bar => .error bar.fault
    | none =>
      if name == ".." then siteFrom tree links here.dropLast rest
      else if name.utf8ByteSize > longestName then .error .nameTooLong
      else match tree.node? (here ++ [name]) with
        | none => if rest.isEmpty then .ok (here ++ [name]) else .error .notFound
        | some (.link target) =>
          match links with
          | 0 => .error .tooManyLinks
          | left + 1 =>
            siteFrom tree left ((Path.ofText target).start here) ((Path.ofText target).parts ++ rest)
        | some _ => siteFrom tree links (here ++ [name]) rest
termination_by (links, names.length)

/-- The site of a new entry at a path, in a directory where entries can be made. -/
def site (tree : Tree) (path : Path) : Except Fault Place :=
  match siteFrom tree mostLinks (path.start tree.current) path.parts with
  | .error fault => .error fault
  | .ok place =>
    match tree.bar? place.dropLast .write with
    | some bar => .error bar.fault
    | none => .ok place

/-- Makes one directory. -/
def makeDirectory (tree : Tree) (path : Path) : Except Fault Tree :=
  match tree.locate path false with
  | .ok _ => .error .alreadyExists
  | .error .notFound => (tree.site path).map (tree.put · .directory)
  | .error fault => .error fault

/-- Makes a directory and those on the way to it. A directory that is there already is no fault. What is
made stays there, also if a fault names a directory that cannot be made; the number bounds the way up. -/
def makeDirectoriesFrom : Nat → Tree → Path → Option (Fault × Path) × Tree
  | steps, tree, path =>
    match tree.makeDirectory path with
    | .ok made => (none, made)
    | .error .notFound =>
      match steps with
      | 0 => (some (.notFound, path), tree)
      | fewer + 1 =>
        match makeDirectoriesFrom fewer tree path.parent with
        | (some fault, above) => (some fault, above)
        | (none, above) =>
          match above.makeDirectory path with
          | .ok made => (none, made)
          | .error fault =>
            if above.leadsToDirectory path then (none, above) else (some (fault, path), above)
    | .error fault => if tree.leadsToDirectory path then (none, tree) else (some (fault, path), tree)

/-- Makes a directory and all that are missing on the way to it. -/
def makeDirectories (tree : Tree) (path : Path) : Option (Fault × Path) × Tree :=
  makeDirectoriesFrom path.parts.length tree path

/-- Fills the file at a place, as far as there is room. -/
def fill (tree : Tree) (place : Place) (bytes : List UInt8) : Option Fault × Tree :=
  if tree.room.all (bytes.length ≤ ·) then (none, tree.put place (.file bytes))
  else (some .noSpace, tree.put place (.file (bytes.take (tree.room.getD 0))))

/-- Writes a file at a path, new or in place of the bytes that were there. If there is too little room, the
file is left with the beginning of the bytes. -/
def write (tree : Tree) (path : Path) (bytes : List UInt8) : Option Fault × Tree :=
  match tree.locate path true with
  | .error .notFound =>
    match tree.site path with
    | .error fault => (some fault, tree)
    | .ok place => tree.fill place bytes
  | .error fault => (some fault, tree)
  | .ok (place, node) =>
    match node, tree.bar? place .write with
    | .directory, _ => (some .isDirectory, tree)
    | _, some bar => (some bar.fault, tree)
    | .device, none => (none, tree)
    | .file _, none => tree.fill place bytes
    | .link _, none => (some .notFound, tree)

end Tree

end LogAudit.Files
