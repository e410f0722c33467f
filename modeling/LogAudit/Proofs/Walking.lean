import LogAudit.Proofs.Halting

/-! # Where a walk comes

A walk that follows no links goes down from its root through directories that it may enter. Its paths
lead where the names say, as long as the system takes them and lets their directories be searched.

* `locate_descend`: the entry at the end of names that go down through directories.
* `mem_visits_iff`: the directories of a walk.
* `mem_candidates_iff`: the files of a walk that discovery wants. -/

namespace LogAudit
set_option autoImplicit false

open Files

theorem eq_ok_of_toOption {α ε : Type} {result : Except ε α} {value : α}
    (h : result.toOption = some value) : result = .ok value := by
  cases result with
  | error failure => cases h
  | ok other => exact congrArg Except.ok (Option.some.inj h)

/-! ## Names of entries -/

/-- Whether an entry of a directory can have a name. -/
def IsEntryName (name : String) : Prop :=
  name ≠ "" ∧ name ≠ "." ∧ name ≠ ".." ∧ '/' ∉ name.toList ∧ name.utf8ByteSize ≤ Tree.longestName

instance (name : String) : Decidable (IsEntryName name) := by
  unfold IsEntryName
  infer_instance

/-- A tree in which all entries have names that entries can have. -/
def WellNamed (tree : Tree) : Prop :=
  ∀ entry ∈ tree.entries, ∀ name ∈ entry.1, IsEntryName name

instance (tree : Tree) : Decidable (WellNamed tree) := by
  unfold WellNamed
  infer_instance

variable {tree : Tree} {place : Place} {name : String}

theorem node?_append_singleton :
    tree.node? (place ++ [name]) = tree.entries.lookup (place ++ [name]) := by
  simp [Tree.node?]

theorem exists_entry_of_node? {node : Node} (h : tree.node? (place ++ [name]) = some node) :
    ∃ entry ∈ tree.entries, entry.1 = place ++ [name] := by
  rw [node?_append_singleton] at h
  obtain ⟨entry, hmem, hkey⟩ := List.lookup_isSome_iff.mp (Option.isSome_of_eq_some h)
  exact ⟨entry, hmem, (beq_iff_eq.mp hkey).symm⟩

theorem isEntryName_of_node? (hnames : WellNamed tree) {node : Node}
    (h : tree.node? (place ++ [name]) = some node) : IsEntryName name := by
  obtain ⟨entry, hmem, hkey⟩ := exists_entry_of_node? h
  exact hnames entry hmem name (by simp [hkey])

theorem mem_namesAt_iff :
    name ∈ tree.namesAt place ↔ (tree.node? (place ++ [name])).isSome = true := by
  rw [node?_append_singleton, List.lookup_isSome_iff, Tree.namesAt, List.mem_filterMap]
  refine exists_congr fun entry => and_congr_right fun _ => ?_
  constructor
  · intro h
    split at h
    · next hfront =>
      have hlast := List.dropLast_append_getLast? name h
      rw [beq_iff_eq.mp hfront] at hlast
      exact beq_iff_eq.mpr hlast
    · cases h
  · intro hkey
    simp [← beq_iff_eq.mp hkey]

/-! ## Going down -/

variable {top : Path} {start : Place}

/-- The path of an entry some names below a path. -/
def descend (top : Path) (names : List String) : Path := { top with parts := top.parts ++ names }

theorem descend_nil : descend top [] = top := by
  simp [descend]

theorem descend_append_singleton {names : List String} :
    descend top (names ++ [name]) = (descend top names).child name := by
  simp [descend, Path.child]

theorem name_child {path : Path} : (path.child name).name = name := by
  simp [Path.child, Path.name]

theorem below_descend {names : List String} :
    top.below (descend top names) = String.intercalate "/" names := by
  simp [Path.below, descend]

/-- Going down to an entry that is no link. -/
theorem locateFrom_down {followLast : Bool} {links : Nat} {here : Place} {rest : List String}
    {node : Node} (hdir : ¬(tree.node? here != some .directory) = true)
    (hopen : tree.bar? here .search = none) (hup : ¬(name == "..") = true)
    (hlong : ¬name.utf8ByteSize > Tree.longestName) (hnode : tree.node? (here ++ [name]) = some node)
    (hnolink : ∀ target, node ≠ .link target) :
    tree.locateFrom followLast links here (name :: rest) =
      tree.locateFrom followLast links (here ++ [name]) rest := by
  rw [Tree.locateFrom]
  simp only [hdir, hopen, hup, hlong, if_false, Bool.false_eq_true, hnode]

theorem locateFrom_entry {followLast : Bool} {links : Nat} {here : Place} {rest : List String}
    {node : Node} (hname : IsEntryName name) (hdir : tree.node? here = some .directory)
    (hopen : tree.bar? here .search = none) (hnode : tree.node? (here ++ [name]) = some node)
    (hnolink : ∀ target, node ≠ .link target) :
    tree.locateFrom followLast links here (name :: rest) =
      tree.locateFrom followLast links (here ++ [name]) rest := by
  obtain ⟨_, _, hup, _, hlong⟩ := hname
  exact locateFrom_down (by simp [hdir]) hopen (by simpa using hup) (Nat.not_lt.mpr hlong) hnode hnolink

theorem locateFrom_up {followLast : Bool} {links : Nat} {here : Place} {rest : List String}
    (hdir : ¬(tree.node? here != some .directory) = true) (hopen : tree.bar? here .search = none)
    (hup : (name == "..") = true) :
    tree.locateFrom followLast links here (name :: rest) =
      tree.locateFrom followLast links here.dropLast rest := by
  rw [Tree.locateFrom, if_neg hdir, hopen]
  simp only [hup, if_true]

theorem locateFrom_barred {followLast : Bool} {links : Nat} {here : Place} {rest : List String}
    {bar : Bar} (hdir : tree.node? here = some .directory) (hbar : tree.bar? here .search = some bar) :
    tree.locateFrom followLast links here (name :: rest) = .error bar.fault := by
  rw [Tree.locateFrom, if_neg (by simp [hdir]), hbar]

/-- Following a link takes one of those left. -/
theorem locateFrom_follow {followLast : Bool} {left : Nat} {here : Place} {rest : List String}
    {target : String} (hdir : ¬(tree.node? here != some .directory) = true)
    (hopen : tree.bar? here .search = none) (hup : ¬(name == "..") = true)
    (hlong : ¬name.utf8ByteSize > Tree.longestName)
    (hnode : tree.node? (here ++ [name]) = some (.link target))
    (hgoes : (rest.isEmpty && !followLast) = false) :
    tree.locateFrom followLast (left + 1) here (name :: rest) =
      tree.locateFrom followLast left ((Path.ofText target).start here)
        ((Path.ofText target).parts ++ rest) := by
  rw [Tree.locateFrom, if_neg hdir, hopen]
  simp only [hup, hlong, hnode, hgoes, Bool.false_eq_true, if_false]

/-- A path that leads somewhere leads on from there, with fewer links left. -/
theorem locateFrom_append {links : Nat} {here : Place} {names : List String} {node : Node}
    (h : tree.locateFrom true links here names = .ok (place, node)) :
    ∃ left ≤ links, ∀ followLast rest, rest ≠ [] →
      tree.locateFrom followLast links here (names ++ rest) =
        tree.locateFrom followLast left place rest := by
  fun_induction Tree.locateFrom tree true links here names with
  | case1 links here node hnode =>
    obtain ⟨rfl, _⟩ := Prod.mk.inj (Except.ok.inj h)
    exact ⟨links, le_rfl, fun _ _ _ => rfl⟩
  | case5 links here name rest hdir hopen hup ih =>
    obtain ⟨left, hle, hleft⟩ := ih h
    refine ⟨left, hle, fun followLast more hmore => ?_⟩
    rw [List.cons_append, locateFrom_up hdir hopen hup]
    exact hleft followLast more hmore
  | case10 here name rest hdir hopen hup hlong target hnode hstop left ih =>
    obtain ⟨fewer, hle, hfewer⟩ := ih h
    refine ⟨fewer, Nat.le_succ_of_le hle, fun followLast more hmore => ?_⟩
    have hnext := hfewer followLast more hmore
    rw [List.append_assoc] at hnext
    have hgoes : ((rest ++ more).isEmpty && !followLast) = false := by simp [hmore]
    rw [List.cons_append, locateFrom_follow hdir hopen hup hlong hnode hgoes]
    exact hnext
  | case11 links here name rest hdir hopen hup hlong node hnolink hnode ih =>
    obtain ⟨left, hle, hleft⟩ := ih h
    refine ⟨left, hle, fun followLast more hmore => ?_⟩
    rw [List.cons_append, locateFrom_down hdir hopen hup hlong hnode hnolink]
    exact hleft followLast more hmore
  | case8 links here name rest _ _ _ _ target _ hstop => simp at hstop
  | case2 | case3 | case4 | case6 | case7 | case9 => cases h

/-- What a path leads to stands in the tree. -/
theorem node?_of_locateFrom {followLast : Bool} {links : Nat} {here : Place} {names : List String}
    {node : Node} (h : tree.locateFrom followLast links here names = .ok (place, node)) :
    tree.node? place = some node := by
  fun_induction Tree.locateFrom tree followLast links here names with
  | case1 links here node hnode =>
    obtain ⟨rfl, rfl⟩ := Prod.mk.inj (Except.ok.inj h)
    exact hnode
  | case5 links here name rest _ _ _ ih => exact ih h
  | case8 links here name rest _ _ _ _ target hnode _ =>
    obtain ⟨rfl, rfl⟩ := Prod.mk.inj (Except.ok.inj h)
    exact hnode
  | case10 here name rest _ _ _ _ target _ _ left ih => exact ih h
  | case11 links here name rest _ _ _ _ node _ _ ih => exact ih h
  | case2 | case3 | case4 | case6 | case7 | case9 => cases h

/-- Names that lead down from a place through directories that can be searched; the last one need not
be. -/
structure Descends (tree : Tree) (start : Place) (names : List String) : Prop where
  directories : ∀ front, front <+: names → tree.node? (start ++ front) = some .directory
  searched : ∀ front, front <+: names → front ≠ names → tree.bar? (start ++ front) .search = none

theorem front_ne_append_singleton {front names : List String} (h : front <+: names) (name : String) :
    front ≠ names ++ [name] := by
  rintro rfl
  have hlength := h.length_le
  simp at hlength

theorem descends_append_singleton_iff {names : List String} :
    Descends tree start (names ++ [name]) ↔ Descends tree start names ∧
      tree.bar? (start ++ names) .search = none ∧
      tree.node? (start ++ names ++ [name]) = some .directory := by
  constructor
  · rintro ⟨hdirectories, hsearched⟩
    have hfront : ∀ front, front <+: names → front <+: names ++ [name] :=
      fun front hfront => hfront.trans (List.prefix_append _ _)
    refine ⟨⟨fun front h => hdirectories front (hfront front h), fun front h _ => ?_⟩, ?_, ?_⟩
    · exact hsearched front (hfront front h) (front_ne_append_singleton h name)
    · exact hsearched names (List.prefix_append _ _) (front_ne_append_singleton List.prefix_rfl name)
    · rw [List.append_assoc]
      exact hdirectories _ List.prefix_rfl
  · rintro ⟨⟨hdirectories, hsearched⟩, hopen, hlast⟩
    constructor
    · intro front hfront
      rcases List.prefix_concat_iff.mp hfront with rfl | hfront
      · rw [← List.append_assoc]
        exact hlast
      · exact hdirectories front hfront
    · intro front hfront hne
      have hfront := (List.prefix_concat_iff.mp hfront).resolve_left hne
      by_cases hall : front = names
      · rw [hall]
        exact hopen
      · exact hsearched front hfront hall

theorem Descends.directory {names : List String} (h : Descends tree start names) :
    tree.node? (start ++ names) = some .directory :=
  h.directories names List.prefix_rfl

theorem descends_nil (h : tree.node? start = some .directory) : Descends tree start [] := by
  constructor
  · intro front hfront
    rw [List.prefix_nil.mp hfront, List.append_nil]
    exact h
  · intro front hfront hne
    exact absurd (List.prefix_nil.mp hfront) hne

theorem locateFrom_descends (hnames : WellNamed tree) {names : List String}
    (h : Descends tree start names) (followLast : Bool) (links : Nat) (rest : List String) :
    tree.locateFrom followLast links start (names ++ rest) =
      tree.locateFrom followLast links (start ++ names) rest := by
  induction names using List.reverseRecOn generalizing rest with
  | nil => simp
  | append_singleton names name ih =>
    obtain ⟨hfronts, hopen, hlast⟩ := descends_append_singleton_iff.mp h
    have hname := isEntryName_of_node? hnames hlast
    rw [List.append_assoc, List.singleton_append, ih hfronts,
      locateFrom_entry hname hfronts.directory hopen hlast nofun, List.append_assoc]

/-! ## Paths below a root -/

/-- Whether the system takes the text of a path. -/
def Fits (path : Path) : Prop := path.text.utf8ByteSize ≤ Tree.longestPath

/-- A path that leads to a directory. -/
structure StartsAt (tree : Tree) (top : Path) (start : Place) : Prop where
  locate : tree.locate top true = .ok (start, .directory)

theorem locate_of_fits {path : Path} (hfits : Fits path) (followLast : Bool) :
    tree.locate path followLast =
      tree.locateFrom followLast Tree.mostLinks (path.start tree.current) path.parts := by
  rw [Tree.locate, if_neg (Nat.not_lt.mpr hfits)]

theorem StartsAt.fits (h : StartsAt tree top start) : Fits top := by
  by_contra hlong
  have hlocate := h.locate
  rw [Tree.locate, if_pos (Nat.not_le.mp hlong)] at hlocate
  cases hlocate

theorem StartsAt.descends (h : StartsAt tree top start) : Descends tree start [] := by
  have hlocate := h.locate
  rw [locate_of_fits h.fits] at hlocate
  exact descends_nil (node?_of_locateFrom hlocate)

/-- Below a root, the system goes down the names. -/
theorem StartsAt.locate_descend (h : StartsAt tree top start) (hnames : WellNamed tree) :
    ∃ left, ∀ followLast names rest, Descends tree start names → rest ≠ [] →
      Fits (descend top (names ++ rest)) →
        tree.locate (descend top (names ++ rest)) followLast =
          tree.locateFrom followLast left (start ++ names) rest := by
  have hlocate := h.locate
  rw [locate_of_fits h.fits] at hlocate
  obtain ⟨left, _, hleft⟩ := locateFrom_append hlocate
  refine ⟨left, fun followLast names rest hdescends hrest hfits => ?_⟩
  rw [locate_of_fits hfits]
  change tree.locateFrom followLast _ (top.start tree.current) (top.parts ++ (names ++ rest)) = _
  rw [hleft followLast _ (by simp [hrest]), locateFrom_descends hnames hdescends]

theorem StartsAt.locate_directory (h : StartsAt tree top start) (hnames : WellNamed tree)
    {names : List String} (hdescends : Descends tree start names) (hfits : Fits (descend top names)) :
    tree.locate (descend top names) true = .ok (start ++ names, .directory) := by
  obtain ⟨left, hleft⟩ := h.locate_descend hnames
  rcases List.eq_nil_or_concat' names with rfl | ⟨names, name, rfl⟩
  · rw [descend_nil, List.append_nil]
    exact h.locate
  · obtain ⟨hfronts, hopen, hlast⟩ := descends_append_singleton_iff.mp hdescends
    have hname := isEntryName_of_node? hnames hlast
    rw [hleft true names [name] hfronts (by simp) hfits,
      locateFrom_entry hname hfronts.directory hopen hlast nofun, Tree.locateFrom, hlast,
      List.append_assoc]

/-! ## Lengths of paths -/

theorem size_walkText_le (top path : Path) :
    path.text.utf8ByteSize ≤ (walkText top path).utf8ByteSize ∧
      (walkText top path).utf8ByteSize ≤ path.text.utf8ByteSize + 2 := by
  unfold walkText
  split
  · have hsize : ("./" ++ path.text).utf8ByteSize = 2 + path.text.utf8ByteSize :=
      String.utf8ByteSize_append
    omega
  · omega

/-- The text of a walk for a directory is no longer than the path of an entry in it. -/
theorem size_walkText_le_child {path : Path} (hname : name ≠ "") :
    (walkText top path).utf8ByteSize ≤ (path.child name).text.utf8ByteSize := by
  have hsize : name.utf8ByteSize ≠ 0 := fun h => hname (String.utf8ByteSize_eq_zero_iff.mp h)
  have hchild : (path.child name).text.utf8ByteSize = path.root.utf8ByteSize +
      (String.intercalate "/" (path.parts ++ [name])).utf8ByteSize := by
    simp [Path.text, Path.child]
  by_cases hparts : path.parts = []
  · have hwalk : walkText top path = path.text := by simp [walkText, hparts]
    have hjoined : String.intercalate "/" (path.parts ++ [name]) = name := by simp [hparts]
    rw [hjoined] at hchild
    rw [hwalk, hchild]
    by_cases hroot : path.root = ""
    · have htext : path.text.utf8ByteSize = 1 := by simp [Path.text, hroot, hparts]; rfl
      omega
    · have htext : path.text.utf8ByteSize = path.root.utf8ByteSize := by
        simp [Path.text, hroot, hparts]
      omega
  · have hjoined : (String.intercalate "/" (path.parts ++ [name])).utf8ByteSize =
        (String.intercalate "/" path.parts).utf8ByteSize + 1 + name.utf8ByteSize := by
      rw [String.intercalate_append_of_ne_nil hparts (by simp), String.intercalate_singleton,
        String.utf8ByteSize_append, String.utf8ByteSize_append]
      rfl
    have htext : path.text.utf8ByteSize =
        path.root.utf8ByteSize + (String.intercalate "/" path.parts).utf8ByteSize := by
      simp [Path.text, hparts]
    have hwalk := (size_walkText_le top path).2
    omega

theorem fitsWalk_of_child {path : Path} (hname : name ≠ "") (h : Fits (path.child name)) :
    fitsWalk top path = true := by
  have hsize : (walkText top path).utf8ByteSize ≤ (path.child name).text.utf8ByteSize :=
    size_walkText_le_child hname
  unfold Fits at h
  simp only [fitsWalk, decide_eq_true_eq]
  omega

theorem fits_of_fitsWalk {path : Path} (h : fitsWalk top path = true) : Fits path := by
  have hsize := (size_walkText_le top path).1
  simp only [fitsWalk, decide_eq_true_eq] at h
  unfold Fits
  omega

theorem fitsWalk_of_descend (hnames : WellNamed tree) {names more : List String}
    (hdescends : Descends tree start (names ++ more))
    (h : fitsWalk top (descend top (names ++ more)) = true) :
    fitsWalk top (descend top names) = true := by
  induction more using List.reverseRecOn with
  | nil => simpa using h
  | append_singleton more name ih =>
    rw [← List.append_assoc] at hdescends h
    obtain ⟨hfronts, -, hlast⟩ := descends_append_singleton_iff.mp hdescends
    rw [descend_append_singleton] at h
    exact ih hfronts (fitsWalk_of_child (isEntryName_of_node? hnames hlast).1 (fits_of_fitsWalk h))

/-! ## Directories of a walk -/

variable {search : Search}

/-- A directory that can be searched and listed. -/
structure Open (tree : Tree) (place : Place) : Prop where
  search : tree.bar? place .search = none
  read : tree.bar? place .read = none

/-- Names that a walk goes down: they lead through directories, all of which but the last one are open,
and none of them is skipped. -/
structure Enters (tree : Tree) (search : Search) (start : Place) (names : List String) : Prop where
  descends : Descends tree start names
  listed : ∀ front, front <+: names → front ≠ names → tree.bar? (start ++ front) .read = none
  unskipped : ∀ name ∈ names, name ∉ search.skippedNames

theorem enters_append_singleton_iff {names : List String} :
    Enters tree search start (names ++ [name]) ↔ Enters tree search start names ∧
      Open tree (start ++ names) ∧ tree.node? (start ++ names ++ [name]) = some .directory ∧
      name ∉ search.skippedNames := by
  constructor
  · rintro ⟨hdescends, hlisted, hskipped⟩
    obtain ⟨hfronts, hopen, hlast⟩ := descends_append_singleton_iff.mp hdescends
    have hread : ∀ front, front <+: names → tree.bar? (start ++ front) .read = none :=
      fun front hfront => hlisted front (hfront.trans (List.prefix_append _ _))
        (front_ne_append_singleton hfront name)
    exact ⟨⟨hfronts, fun front hfront _ => hread front hfront,
      fun other hother => hskipped other (by simp [hother])⟩,
      ⟨hopen, hread names List.prefix_rfl⟩, hlast, hskipped name (by simp)⟩
  · rintro ⟨⟨hfronts, hlisted, hskipped⟩, hopen, hlast, hname⟩
    refine ⟨descends_append_singleton_iff.mpr ⟨hfronts, hopen.search, hlast⟩, ?_, ?_⟩
    · intro front hfront hne
      have hfront := (List.prefix_concat_iff.mp hfront).resolve_left hne
      by_cases hall : front = names
      · rw [hall]
        exact hopen.read
      · exact hlisted front hfront hall
    · intro other hother
      rcases List.mem_append.mp hother with hother | hother
      · exact hskipped other hother
      · exact List.mem_singleton.mp hother ▸ hname

theorem enters_nil (h : StartsAt tree top start) : Enters tree search start [] := by
  refine ⟨h.descends, ?_, nofun⟩
  intro front hfront hne
  exact absurd (List.prefix_nil.mp hfront) hne

/-- Of names that a walk goes down, it also goes down those in front. -/
theorem Enters.front {names more : List String} (h : Enters tree search start (names ++ more)) :
    Enters tree search start names := by
  induction more using List.reverseRecOn with
  | nil => simpa using h
  | append_singleton more name ih =>
    rw [← List.append_assoc] at h
    exact ih (enters_append_singleton_iff.mp h).1

theorem mem_directoriesBelow_iff (hlinks : search.followLinks = false) {directory : Path} :
    name ∈ directoriesBelow tree search top place directory ↔
      tree.node? (place ++ [name]) = some .directory ∧ name ∉ search.skippedNames := by
  simp only [directoriesBelow, List.mem_filter, sortedNames, List.mem_mergeSort, mem_namesAt_iff,
    isEntered, isBelow, hlinks, Bool.false_or]
  cases hnode : tree.node? (place ++ [name]) with
  | none => simp
  | some node => cases node <;> simp

theorem StartsAt.listing_eq_ok_iff (hstart : StartsAt tree top start) (hnames : WellNamed tree)
    {names : List String} (hdescends : Descends tree start names) :
    listing tree top (descend top names) = .ok place ↔ fitsWalk top (descend top names) = true ∧
      tree.bar? (start ++ names) .read = none ∧ place = start ++ names := by
  unfold listing
  by_cases hfits : fitsWalk top (descend top names) = true
  · rw [hstart.locate_directory hnames hdescends (fits_of_fitsWalk hfits), hfits]
    cases hbar : tree.bar? (start ++ names) .read with
    | none => simp [hbar, eq_comm]
    | some bar => simp [hbar]
  · simp [hfits]

theorem not_fits_locate {path : Path} (h : ¬ Fits path) (followLast : Bool) :
    tree.locate path followLast = .error .nameTooLong := by
  rw [Tree.locate, if_pos (Nat.not_le.mp h)]

/-- Nothing is reached through a directory that cannot be searched. -/
theorem StartsAt.locate_barred (hstart : StartsAt tree top start) (hnames : WellNamed tree)
    {names : List String} (hdescends : Descends tree start names) {bar : Bar}
    (hbar : tree.bar? (start ++ names) .search = some bar) (name : String) (followLast : Bool) :
    ∃ fault, tree.locate (descend top (names ++ [name])) followLast = .error fault ∧
      Tree.meansAbsent fault = false := by
  by_cases hfits : Fits (descend top (names ++ [name]))
  · obtain ⟨left, hleft⟩ := hstart.locate_descend hnames
    refine ⟨bar.fault, ?_, by cases bar <;> rfl⟩
    rw [hleft followLast names [name] hdescends (by simp) hfits,
      locateFrom_barred hdescends.directory hbar]
  · exact ⟨_, not_fits_locate hfits followLast, rfl⟩

theorem visitsFrom_succ (levels : Nat) {directory : Path} (h : listing tree top directory = .ok place) :
    visitsFrom tree search top (levels + 1) directory =
      .listed directory (filesIn tree top place directory) ::
        (directoriesBelow tree search top place directory).flatMap fun name =>
          visitsFrom tree search top levels (directory.child name) := by
  simp only [visitsFrom, h]

theorem not_listed_of_listing_error {levels : Nat} {directory other : Path} {files : List String}
    {fault : Fault} (h : listing tree top directory = .error fault) :
    .listed other files ∉ visitsFrom tree search top levels directory := by
  cases levels with
  | zero => simp [visitsFrom]
  | succ levels => simp [visitsFrom, h]

/-- A directory of a walk: it can be listed, and its path fits. -/
structure IsListed (tree : Tree) (search : Search) (top : Path) (start : Place) (names : List String) :
    Prop where
  enters : Enters tree search start names
  fits : fitsWalk top (descend top names) = true
  read : tree.bar? (start ++ names) .read = none

theorem IsListed.front (hnames : WellNamed tree) {names more : List String}
    (h : IsListed tree search top start (names ++ more)) : IsListed tree search top start names := by
  refine ⟨h.enters.front, fitsWalk_of_descend hnames h.enters.descends h.fits, ?_⟩
  cases more with
  | nil => simpa using h.read
  | cons name more => exact h.enters.listed names (List.prefix_append _ _) (by simp)

theorem IsListed.listing (hstart : StartsAt tree top start) (hnames : WellNamed tree) {names : List String}
    (h : IsListed tree search top start names) :
    listing tree top (descend top names) = .ok (start ++ names) :=
  (hstart.listing_eq_ok_iff hnames h.enters.descends).mpr ⟨h.fits, h.read, rfl⟩

theorem mem_visitsFrom_iff (hstart : StartsAt tree top start) (hnames : WellNamed tree)
    (hlinks : search.followLinks = false) {directory : Path} {files : List String} {levels : Nat}
    {names : List String} (henters : Enters tree search start names) :
    .listed directory files ∈ visitsFrom tree search top levels (descend top names) ↔
      ∃ more, more.length < levels ∧ IsListed tree search top start (names ++ more) ∧
        directory = descend top (names ++ more) ∧
        files = filesIn tree top (start ++ (names ++ more)) directory := by
  induction levels generalizing names with
  | zero => simp [visitsFrom]
  | succ levels ih =>
    cases hlisting : listing tree top (descend top names) with
    | ok place =>
      obtain ⟨hfits, hread, rfl⟩ := (hstart.listing_eq_ok_iff hnames henters.descends).mp hlisting
      rw [visitsFrom_succ levels hlisting, List.mem_cons, List.mem_flatMap]
      constructor
      · rintro (hhead | ⟨name, hname, hvisit⟩)
        · obtain ⟨rfl, rfl⟩ := Visit.listed.inj hhead
          exact ⟨[], by simp, by simpa using ⟨henters, hfits, hread⟩, by simp, by simp⟩
        · rw [← descend_append_singleton] at hvisit
          cases hsearch : tree.bar? (start ++ names) .search with
          | none =>
            have hnext := enters_append_singleton_iff.mpr
              ⟨henters, ⟨hsearch, hread⟩, (mem_directoriesBelow_iff hlinks).mp hname⟩
            obtain ⟨more, hlevels, hmore, hdirectory, hfiles⟩ := (ih hnext).mp hvisit
            rw [List.append_assoc, List.singleton_append] at hmore hdirectory hfiles
            exact ⟨name :: more, by simpa using hlevels, hmore, hdirectory, hfiles⟩
          | some bar =>
            obtain ⟨fault, hlocate, -⟩ := hstart.locate_barred hnames henters.descends hsearch name true
            obtain ⟨fault, hfault⟩ :
                ∃ fault, listing tree top (descend top (names ++ [name])) = .error fault := by
              unfold listing
              split
              · exact ⟨_, rfl⟩
              · rw [hlocate]
                exact ⟨_, rfl⟩
            exact absurd hvisit (not_listed_of_listing_error hfault)
      · rintro ⟨more, hlevels, hmore, hdirectory, hfiles⟩
        cases more with
        | nil =>
          rw [List.append_nil] at hdirectory hfiles
          exact Or.inl (by rw [hdirectory] at hfiles ⊢; rw [hfiles])
        | cons name more =>
          right
          have hsplit : names ++ name :: more = names ++ [name] ++ more := by simp
          rw [hsplit] at hmore hdirectory hfiles
          have hnext := hmore.enters.front
          refine ⟨name, (mem_directoriesBelow_iff hlinks).mpr
            (enters_append_singleton_iff.mp hnext).2.2, ?_⟩
          rw [← descend_append_singleton]
          exact (ih hnext).mpr ⟨more, by simpa using hlevels, hmore, hdirectory, hfiles⟩
    | error fault =>
      refine iff_of_false (not_listed_of_listing_error hlisting) ?_
      rintro ⟨more, _, hmore, _, _⟩
      rw [(hmore.front hnames).listing hstart hnames] at hlisting
      cases hlisting

/-- A walk that cannot go through enough levels ends at a directory that is too deep for it. -/
theorem exists_buried (hstart : StartsAt tree top start) (hnames : WellNamed tree)
    (hlinks : search.followLinks = false) {levels : Nat} {names more : List String}
    (hmore : IsListed tree search top start (names ++ more)) (hlevels : levels ≤ more.length) :
    ∃ directory, .buried directory ∈ visitsFrom tree search top levels (descend top names) := by
  induction levels generalizing names more with
  | zero => exact ⟨_, List.mem_singleton.mpr rfl⟩
  | succ levels ih =>
    cases more with
    | nil => simp at hlevels
    | cons name more =>
      have hhere := (hmore.front hnames).listing hstart hnames
      have hsplit : names ++ name :: more = names ++ [name] ++ more := by simp
      rw [hsplit] at hmore
      obtain ⟨directory, hburied⟩ := ih hmore (by simpa using hlevels)
      have hbelow := (enters_append_singleton_iff.mp hmore.enters.front).2.2
      rw [descend_append_singleton] at hburied
      refine ⟨directory, ?_⟩
      rw [visitsFrom_succ levels hhere, List.mem_cons, List.mem_flatMap]
      exact Or.inr ⟨name, (mem_directoriesBelow_iff hlinks).mpr hbelow, hburied⟩

/-- The directories of a walk are those below its root that it may enter and whose paths it takes, if none
is too deep for it. -/
theorem mem_visits_iff (hstart : StartsAt tree top start) (hnames : WellNamed tree)
    (hlinks : search.followLinks = false)
    (hshallow : ∀ directory, .buried directory ∉ visits tree search top) {directory : Path}
    {files : List String} :
    .listed directory files ∈ visits tree search top ↔
      ∃ names, IsListed tree search top start names ∧ directory = descend top names ∧
        files = filesIn tree top (start ++ names) directory := by
  have htop : visits tree search top =
      visitsFrom tree search top search.deepest (descend top []) := by rw [descend_nil, visits]
  rw [htop] at hshallow ⊢
  rw [mem_visitsFrom_iff hstart hnames hlinks (enters_nil hstart)]
  refine exists_congr fun names => and_iff_right_of_imp ?_
  rintro ⟨hlists, _⟩
  by_contra hdeep
  obtain ⟨directory, hburied⟩ := exists_buried hstart hnames hlinks hlists (Nat.not_lt.mp hdeep)
  exact hshallow directory hburied

/-! ## Files of a walk -/

/-- Whether discovery wants the file at a path. -/
def isWanted (tree : Tree) (search : Search) (root path : Path) : Bool :=
  hasExtension search.extensions path.name &&
    (search.followLinks || (tree.isLink? path).toOption == some false) &&
    (tree.isFile? path).toOption == some true && !isExcluded search.exclusions (root.below path)

/-- A file below a root that is to be found: names lead down to it through directories that are open, none
of which is skipped, its name has an extension that is looked for, and no rule excludes it. -/
structure Qualifies (tree : Tree) (search : Search) (start : Place) (names : List String)
    (name : String) : Prop where
  enters : Enters tree search start names
  opened : Open tree (start ++ names)
  file : ∃ bytes, tree.node? (start ++ names ++ [name]) = some (.file bytes)
  extension : hasExtension search.extensions name = true
  kept : ∀ rule ∈ search.exclusions, rule.foundIn (String.intercalate "/" (names ++ [name])) = false

theorem StartsAt.locate_entry (hstart : StartsAt tree top start) (hnames : WellNamed tree)
    {names : List String} (hdescends : Descends tree start names)
    (hopen : tree.bar? (start ++ names) .search = none) (hname : IsEntryName name)
    (hfits : Fits (descend top (names ++ [name]))) (followLast : Bool) {node : Node}
    (hnode : tree.node? (start ++ names ++ [name]) = some node)
    (hnolink : ∀ target, node ≠ .link target) :
    tree.locate (descend top (names ++ [name])) followLast = .ok (start ++ names ++ [name], node) := by
  obtain ⟨left, hleft⟩ := hstart.locate_descend hnames
  rw [hleft followLast names [name] hdescends (by simp) hfits,
    locateFrom_entry hname hdescends.directory hopen hnode hnolink, Tree.locateFrom, hnode]

theorem StartsAt.locate_missing (hstart : StartsAt tree top start) (hnames : WellNamed tree)
    {names : List String} (hdescends : Descends tree start names)
    (hopen : tree.bar? (start ++ names) .search = none) (hname : IsEntryName name)
    (hfits : Fits (descend top (names ++ [name]))) (followLast : Bool)
    (hnode : tree.node? (start ++ names ++ [name]) = none) :
    tree.locate (descend top (names ++ [name])) followLast = .error .notFound := by
  obtain ⟨left, hleft⟩ := hstart.locate_descend hnames
  obtain ⟨_, _, hup, _, hlong⟩ := hname
  rw [List.append_assoc] at hnode
  rw [hleft followLast names [name] hdescends (by simp) hfits, Tree.locateFrom]
  simp [hdescends.directory, hopen, hup, Nat.not_lt.mpr hlong, hnode]

theorem StartsAt.locate_link (hstart : StartsAt tree top start) (hnames : WellNamed tree)
    {names : List String} (hdescends : Descends tree start names)
    (hopen : tree.bar? (start ++ names) .search = none) (hname : IsEntryName name)
    (hfits : Fits (descend top (names ++ [name]))) {target : String}
    (hnode : tree.node? (start ++ names ++ [name]) = some (.link target)) :
    tree.locate (descend top (names ++ [name])) false =
      .ok (start ++ names ++ [name], .link target) := by
  obtain ⟨left, hleft⟩ := hstart.locate_descend hnames
  obtain ⟨_, _, hup, _, hlong⟩ := hname
  rw [List.append_assoc] at hnode
  rw [hleft false names [name] hdescends (by simp) hfits, Tree.locateFrom]
  simp [hdescends.directory, hopen, hup, Nat.not_lt.mpr hlong, hnode]

theorem isExcluded_eq_false_iff {exclusions : List Rule} {text : String} :
    isExcluded exclusions text = false ↔ ∀ rule ∈ exclusions, rule.foundIn text = false := by
  simp [isExcluded]

theorem StartsAt.isFile_entry_iff (hstart : StartsAt tree top start) (hnames : WellNamed tree)
    {names : List String} (hdescends : Descends tree start names)
    (hopen : tree.bar? (start ++ names) .search = none) (hname : IsEntryName name)
    (hfits : Fits (descend top (names ++ [name]))) :
    (tree.isLink? (descend top (names ++ [name]))).toOption = some false ∧
        (tree.isFile? (descend top (names ++ [name]))).toOption = some true ↔
      ∃ bytes, tree.node? (start ++ names ++ [name]) = some (.file bytes) := by
  have hlocate := hstart.locate_entry hnames hdescends hopen hname hfits
  cases hnode : tree.node? (start ++ names ++ [name]) with
  | none =>
    have hmissing := hstart.locate_missing hnames hdescends hopen hname hfits true hnode
    simp [Tree.isFile?, Tree.holds?, hmissing, Tree.meansAbsent, Except.toOption]
  | some node =>
    cases node with
    | file bytes =>
      have hlink := hlocate false hnode (by simp)
      have hfile := hlocate true hnode (by simp)
      simp [Tree.isLink?, Tree.isFile?, Tree.holds?, hlink, hfile, Except.toOption]
    | directory | device =>
      simp [Tree.isFile?, Tree.holds?, hlocate true hnode (by simp), Except.toOption]
    | link target =>
      have hlink := hstart.locate_link hnames hdescends hopen hname hfits hnode
      simp [Tree.isLink?, hlink, Except.toOption]

/-- A file that is to be found is wanted, in a directory of a walk. -/
theorem isWanted_descend_iff (hstart : StartsAt tree top start) (hnames : WellNamed tree)
    (hlinks : search.followLinks = false) {names : List String}
    (henters : Enters tree search start names) (hread : tree.bar? (start ++ names) .read = none)
    (hname : IsEntryName name) :
    isWanted tree search top (descend top (names ++ [name])) = true ↔
      Qualifies tree search start names name ∧ Fits (descend top (names ++ [name])) := by
  by_cases hfits : Fits (descend top (names ++ [name]))
  · rw [and_iff_left hfits]
    cases hsearch : tree.bar? (start ++ names) .search with
    | some bar =>
      obtain ⟨fault, hlocate, hpresent⟩ := hstart.locate_barred hnames henters.descends hsearch name true
      refine iff_of_false ?_ fun h => ?_
      · simp [isWanted, Tree.isFile?, Tree.holds?, hlocate, hpresent, Except.toOption]
      · rw [h.opened.search] at hsearch
        cases hsearch
    | none =>
      have hfile := hstart.isFile_entry_iff hnames henters.descends hsearch hname hfits
      have hbelow : top.below (descend top (names ++ [name])) =
          String.intercalate "/" (names ++ [name]) := below_descend
      have hlast : (descend top (names ++ [name])).name = name := by
        rw [descend_append_singleton, name_child]
      simp only [isWanted, hlast, hbelow, hlinks, Bool.false_or, Bool.and_eq_true, beq_iff_eq,
        Bool.not_eq_true', isExcluded_eq_false_iff]
      constructor
      · rintro ⟨⟨⟨hextension, hplain⟩, hholds⟩, hkept⟩
        exact ⟨henters, ⟨hsearch, hread⟩, hfile.mp ⟨hplain, hholds⟩, hextension, hkept⟩
      · intro h
        obtain ⟨hplain, hholds⟩ := hfile.mpr h.file
        exact ⟨⟨⟨h.extension, hplain⟩, hholds⟩, h.kept⟩
  · refine iff_of_false ?_ fun h => hfits h.2
    simp [isWanted, Tree.isFile?, Tree.holds?, not_fits_locate hfits, Tree.meansAbsent,
      Except.toOption]

/-- The paths of the files in a directory of a walk. -/
def Visit.paths : Visit → List Path
  | .listed directory files => files.map directory.child
  | .refused _ _ => []
  | .buried _ => []

/-- The paths of a walk that discovery wants, in order. -/
def candidates (tree : Tree) (search : Search) (top : Path) : List Path :=
  (visits tree search top).flatMap fun visit => visit.paths.filter (isWanted tree search top)

theorem mem_filesIn {directory : Path} (h : name ∈ filesIn tree top place directory) :
    ∃ node, tree.node? (place ++ [name]) = some node := by
  simp only [filesIn, sortedNames, List.mem_mergeSort, List.mem_filter, mem_namesAt_iff] at h
  exact Option.isSome_iff_exists.mp h.1

theorem mem_filesIn_of_file {directory : Path} {bytes : List UInt8}
    (h : tree.node? (place ++ [name]) = some (.file bytes)) :
    name ∈ filesIn tree top place directory := by
  simp [filesIn, sortedNames, mem_namesAt_iff, isBelow, h]

/-- A walk that follows no links and is not too deep comes to the files that are to be found, as far as
their paths fit. -/
theorem mem_candidates_iff (hstart : StartsAt tree top start) (hnames : WellNamed tree)
    (hlinks : search.followLinks = false)
    (hshallow : ∀ directory, .buried directory ∉ visits tree search top) {path : Path} :
    path ∈ candidates tree search top ↔
      ∃ names name, path = descend top (names ++ [name]) ∧ Qualifies tree search start names name ∧
        Fits path := by
  simp only [candidates, List.mem_flatMap, List.mem_filter]
  constructor
  · rintro ⟨visit, hvisit, hpath, hwanted⟩
    cases visit with
    | refused directory fault => cases hpath
    | buried directory => cases hpath
    | listed directory files =>
      obtain ⟨name, hname, rfl⟩ := List.mem_map.mp hpath
      obtain ⟨names, hlists, rfl, rfl⟩ := (mem_visits_iff hstart hnames hlinks hshallow).mp hvisit
      obtain ⟨node, hnode⟩ := mem_filesIn hname
      rw [← descend_append_singleton] at hwanted ⊢
      obtain ⟨hqualifies, hfits⟩ := (isWanted_descend_iff hstart hnames hlinks hlists.enters
        hlists.read (isEntryName_of_node? hnames hnode)).mp hwanted
      exact ⟨names, name, rfl, hqualifies, hfits⟩
  · rintro ⟨names, name, rfl, hqualifies, hfits⟩
    obtain ⟨bytes, hfile⟩ := hqualifies.file
    have hname := isEntryName_of_node? hnames hfile
    have hwanted := (isWanted_descend_iff hstart hnames hlinks hqualifies.enters hqualifies.opened.read
      hname).mpr ⟨hqualifies, hfits⟩
    rw [descend_append_singleton] at hwanted hfits ⊢
    have hlists : IsListed tree search top start names :=
      ⟨hqualifies.enters, fitsWalk_of_child hname.1 hfits, hqualifies.opened.read⟩
    refine ⟨_, (mem_visits_iff hstart hnames hlinks hshallow).mpr ⟨names, hlists, rfl, rfl⟩,
      List.mem_map.mpr ⟨name, ?_, rfl⟩, hwanted⟩
    exact mem_filesIn_of_file hfile

/-! ## Roots -/

theorem startsAt_of_checkRoot {root : Option String} (h : checkRoot tree root = .ok top) :
    ∃ start, StartsAt tree top start := by
  obtain ⟨text, rfl, hleads⟩ : ∃ text, top = Path.ofText text ∧ tree.leadsToDirectory top = true := by
    unfold checkRoot at h
    split at h
    · cases h
    · next text =>
      dsimp only at h
      split_ifs at h with hblank hleads hlistable
      · split at h <;> cases h
      · split at h <;> cases h
      · split at h
        · cases h
        · cases h
        · obtain rfl := Except.ok.inj h
          exact ⟨text, rfl, by simpa using hleads⟩
  unfold Tree.leadsToDirectory at hleads
  split at hleads
  · next start hlocate => exact ⟨start, ⟨hlocate⟩⟩
  · cases hleads

end LogAudit
