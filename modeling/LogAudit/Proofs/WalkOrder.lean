import LogAudit.Proofs.Discovering
import LogAudit.Proofs.Resembling

/-! # The order of discovery

A walk lists the files of a directory before it goes on into the directories below, both in order of
their names. So the files of a root have an order that only their names decide, and it does not matter
how the system lists a directory. Several roots are walked one after the other.

* `Precedes`: the order of two files below a root.
* `IsWay`: the files that a walk comes to.
* `exists_walk`: a walk lists all of these, in this order.
* `foldl_keepFirst_flatMap`: the files of several roots from those of each.
* `discover_canonical`: the order of discovery. -/

namespace LogAudit
set_option autoImplicit false

open Files

variable {tree : Tree} {search : Search} {top directory path : Path} {place : Place} {name : String}

/-! ## Order of files -/

/-- The order of two files below a directory, given by the names that lead to them. A file of the
directory itself comes before what lies further down; otherwise the first names decide. -/
def Precedes : List String → List String → Prop
  | [a], [b] => a < b
  | [_], _ :: _ :: _ => True
  | a :: x :: xs, b :: y :: ys => a < b ∨ a = b ∧ Precedes (x :: xs) (y :: ys)
  | _, _ => False

theorem precedes_singleton_cons {a b : String} {ys : List String} (hys : ys ≠ []) :
    Precedes [a] (b :: ys) := by
  cases ys with
  | nil => exact absurd rfl hys
  | cons y ys => trivial

theorem precedes_cons_cons {a b : String} {xs ys : List String} (hxs : xs ≠ []) (hys : ys ≠ []) :
    Precedes (a :: xs) (b :: ys) ↔ a < b ∨ a = b ∧ Precedes xs ys := by
  obtain ⟨x, xs, rfl⟩ := List.exists_cons_of_ne_nil hxs
  obtain ⟨y, ys, rfl⟩ := List.exists_cons_of_ne_nil hys
  rw [Precedes]

theorem Precedes.asymm {xs ys : List String} (h : Precedes xs ys) : ¬ Precedes ys xs := by
  fun_induction Precedes xs ys with
  | case1 a b => exact lt_asymm h
  | case2 a b y ys => simp [Precedes]
  | case3 a x xs b y ys ih =>
    rw [precedes_cons_cons (by simp) (by simp)]
    rintro (hless | ⟨rfl, hinner⟩)
    · rcases h with hmore | ⟨rfl, _⟩
      · exact lt_asymm hmore hless
      · exact lt_irrefl _ hless
    · rcases h with hmore | ⟨_, houter⟩
      · exact lt_irrefl _ hmore
      · exact ih houter hinner
  | case4 => exact h.elim

/-- Own files before what lies below, both in order, make an ordered list. -/
theorem pairwise_precedes {own below : List String} {ways : String → List (List String)}
    (hown : own.Pairwise (· < ·)) (hbelow : below.Pairwise (· < ·))
    (hways : ∀ name, (ways name).Pairwise Precedes) (hsome : ∀ name, ∀ way ∈ ways name, way ≠ []) :
    (own.map ([·]) ++ below.flatMap fun name => (ways name).map (name :: ·)).Pairwise Precedes := by
  refine List.pairwise_append.mpr ⟨List.pairwise_map.mpr hown, List.pairwise_flatMap.mpr ⟨?_, ?_⟩, ?_⟩
  · intro name _
    refine List.pairwise_map.mpr ((hways name).imp_of_mem ?_)
    intro way other hway hother hprecedes
    exact (precedes_cons_cons (hsome name way hway) (hsome name other hother)).mpr
      (Or.inr ⟨rfl, hprecedes⟩)
  · refine hbelow.imp ?_
    intro first second hless way hway other hother
    obtain ⟨rest, hrest, rfl⟩ := List.mem_map.mp hway
    obtain ⟨more, hmore, rfl⟩ := List.mem_map.mp hother
    exact (precedes_cons_cons (hsome first rest hrest) (hsome second more hmore)).mpr (Or.inl hless)
  · intro way hway other hother
    obtain ⟨name, _, rfl⟩ := List.mem_map.mp hway
    obtain ⟨first, _, hother⟩ := List.mem_flatMap.mp hother
    obtain ⟨more, hmore, rfl⟩ := List.mem_map.mp hother
    exact precedes_singleton_cons (hsome first more hmore)

/-! ## Names in a directory -/

theorem nodup_namesAt (hdistinct : PlacedApart tree) (place : Place) : (tree.namesAt place).Nodup := by
  refine List.pairwise_filterMap.mpr ((List.pairwise_map.mp hdistinct).imp ?_)
  intro entry other hplaces name hname name' hname' hsame
  subst hsame
  split_ifs at hname hname' with hentry hother
  have hfirst := List.dropLast_append_getLast? name hname
  have hsecond := List.dropLast_append_getLast? name hname'
  rw [beq_iff_eq.mp hentry] at hfirst
  rw [beq_iff_eq.mp hother] at hsecond
  exact hplaces (hfirst.symm.trans hsecond)

theorem sortedNames_pairwise_lt {names : List String} (h : names.Nodup) :
    (sortedNames names).Pairwise (· < ·) := by
  have hnodup : (sortedNames names).Nodup := (List.mergeSort_perm names _).nodup_iff.mpr h
  exact ((sortedNames_pairwise_le names).and hnodup).imp fun h => lt_of_le_of_ne h.1 h.2

theorem filesIn_pairwise_lt (hdistinct : PlacedApart tree) :
    (filesIn tree top place directory).Pairwise (· < ·) :=
  sortedNames_pairwise_lt ((nodup_namesAt hdistinct place).filter _)

theorem directoriesBelow_pairwise_lt (hdistinct : PlacedApart tree) :
    (directoriesBelow tree search top place directory).Pairwise (· < ·) :=
  (sortedNames_pairwise_lt ((nodup_namesAt hdistinct place).filter _)).filter _

/-! ## Files of a walk -/

/-- Whether a walk can list a directory, which stands at a place. -/
structure Listable (tree : Tree) (top directory : Path) (place : Place) : Prop where
  fits : fitsWalk top directory = true
  leads : tree.locate directory true = .ok (place, .directory)
  read : tree.bar? place .read = none

theorem listing_eq_ok_iff : listing tree top directory = .ok place ↔ Listable tree top directory place := by
  constructor
  · intro h
    unfold listing at h
    split_ifs at h with hfits
    split at h
    · cases h
    · next found hlocate =>
      split at h
      · cases h
      · next hread =>
        obtain rfl := Except.ok.inj h
        exact ⟨by simpa using hfits, hlocate, hread⟩
    · cases h
  · rintro ⟨hfits, hleads, hread⟩
    simp [listing, hfits, hleads, hread]

/-- Whether a walk goes on from a place into an entry there: a directory that is not skipped, or a link
if links are followed. -/
@[mk_iff]
structure Enterable (tree : Tree) (search : Search) (place : Place) (name : String) : Prop where
  kind : tree.node? (place ++ [name]) = some .directory ∨
    search.followLinks = true ∧ ∃ target, tree.node? (place ++ [name]) = some (.link target)
  unskipped : name ∉ search.skippedNames

/-- Names that lead from a directory to a file that discovery wants, through directories that a walk
lists. -/
inductive IsWay (tree : Tree) (search : Search) (top : Path) : Path → List String → Prop
  | file {directory : Path} {place : Place} {name : String}
      (listable : Listable tree top directory place)
      (entry : (tree.node? (place ++ [name])).isSome = true)
      (wanted : isWanted tree search top (directory.child name) = true) :
      IsWay tree search top directory [name]
  | further {directory : Path} {place : Place} {name : String} {rest : List String}
      (listable : Listable tree top directory place) (enterable : Enterable tree search place name)
      (way : IsWay tree search top (directory.child name) rest) :
      IsWay tree search top directory (name :: rest)

theorem Listable.unique {other : Place} (h : Listable tree top directory place)
    (hother : Listable tree top directory other) : place = other :=
  (Prod.mk.inj (Except.ok.inj (h.leads.symm.trans hother.leads))).1

theorem IsWay.listable {way : List String} (h : IsWay tree search top directory way) :
    ∃ place, Listable tree top directory place := by
  cases h with
  | file hlist _ _ => exact ⟨_, hlist⟩
  | further hlist _ _ => exact ⟨_, hlist⟩

theorem IsWay.ne_nil {way : List String} (h : IsWay tree search top directory way) : way ≠ [] := by
  cases h <;> simp

theorem descend_child {names : List String} :
    descend (path.child name) names = descend path (name :: names) := by
  simp [descend, Path.child]

theorem mem_directoriesBelow_iff_enterable {next : Place}
    (hnext : Listable tree top (directory.child name) next) :
    name ∈ directoriesBelow tree search top place directory ↔ Enterable tree search place name := by
  have hleads : tree.leadsToDirectory (directory.child name) = true := by
    simp [Tree.leadsToDirectory, hnext.leads]
  simp only [directoriesBelow, List.mem_filter, sortedNames, List.mem_mergeSort, mem_namesAt_iff,
    isEntered, isBelow, enterable_iff]
  cases hnode : tree.node? (place ++ [name]) with
  | none => simp
  | some node => cases node <;> simp [hleads, hnext.fits, and_comm]

/-- A walk that goes through fewer levels than a way has ends at a directory that is too deep for it. -/
theorem IsWay.exists_buried {way : List String} (h : IsWay tree search top directory way) {levels : Nat}
    (hlevels : levels < way.length) :
    ∃ deep, .buried deep ∈ visitsFrom tree search top levels directory := by
  induction h generalizing levels with
  | @file directory place name hlist _ _ =>
    obtain rfl : levels = 0 := by simpa using hlevels
    exact ⟨directory, List.mem_singleton.mpr rfl⟩
  | @further directory place name rest hlist henter hway ih =>
    cases levels with
    | zero => exact ⟨directory, List.mem_singleton.mpr rfl⟩
    | succ levels =>
      obtain ⟨next, hnext⟩ := hway.listable
      obtain ⟨deep, hdeep⟩ := ih (by simpa using hlevels)
      refine ⟨deep, ?_⟩
      rw [visitsFrom_succ levels (listing_eq_ok_iff.mpr hlist), List.mem_cons, List.mem_flatMap]
      exact Or.inr ⟨name, (mem_directoriesBelow_iff_enterable hnext).mpr henter, hdeep⟩

/-! ## The walk in order -/

/-- The paths at and below a directory that discovery wants, in the order of the walk. -/
def wantedBelow (tree : Tree) (search : Search) (top : Path) (levels : Nat) (directory : Path) :
    List Path :=
  (visitsFrom tree search top levels directory).flatMap fun visit =>
    visit.paths.filter (isWanted tree search top)

/-- The names in a directory of files that discovery wants. -/
def wantedIn (tree : Tree) (search : Search) (top : Path) (place : Place) (directory : Path) :
    List String :=
  (filesIn tree top place directory).filter fun name =>
    isWanted tree search top (directory.child name)

theorem wantedBelow_succ (hlist : Listable tree top directory place) (levels : Nat) :
    wantedBelow tree search top (levels + 1) directory =
      (wantedIn tree search top place directory).map directory.child ++
        (directoriesBelow tree search top place directory).flatMap fun name =>
          wantedBelow tree search top levels (directory.child name) := by
  rw [wantedBelow, visitsFrom_succ levels (listing_eq_ok_iff.mpr hlist), List.flatMap_cons,
    List.flatMap_assoc, Visit.paths, List.filter_map]
  rfl

theorem wantedBelow_of_not_listable (h : ¬ ∃ place, Listable tree top directory place)
    (levels : Nat) : wantedBelow tree search top levels directory = [] := by
  cases levels with
  | zero => rfl
  | succ levels =>
    cases hlisting : listing tree top directory with
    | error fault =>
      simp only [wantedBelow, visitsFrom, hlisting]
      rfl
    | ok place => exact absurd ⟨place, listing_eq_ok_iff.mp hlisting⟩ h

theorem fits_of_locate {followLast : Bool} {result : Place × Node}
    (h : tree.locate path followLast = .ok result) : Fits path := by
  by_contra hlong
  rw [not_fits_locate hlong] at h
  cases h

/-- A directory in a directory leads to no file. -/
theorem locate_child_ne_file (hnames : WellNamed tree) (hstart : StartsAt tree directory place)
    (hnode : tree.node? (place ++ [name]) = some .directory) (found : Place) (bytes : List UInt8) :
    tree.locate (directory.child name) true ≠ .ok (found, .file bytes) := by
  intro hfile
  have hplace : tree.node? (place ++ []) = some .directory := hstart.descends.directory
  rw [← List.append_nil place] at hnode
  change tree.locate (descend directory ([] ++ [name])) true = _ at hfile
  cases hbar : tree.bar? (place ++ []) .search with
  | some bar =>
    obtain ⟨fault, hfault, -⟩ := hstart.locate_barred hnames hstart.descends hbar name true
    rw [hfault] at hfile
    cases hfile
  | none =>
    rw [hstart.locate_entry hnames hstart.descends hbar (isEntryName_of_node? hnames hnode)
      (fits_of_locate hfile) true hnode nofun] at hfile
    cases hfile

theorem isBelow_of_isWanted (hnames : WellNamed tree) (hlist : Listable tree top directory place)
    (hwanted : isWanted tree search top (directory.child name) = true) :
    isBelow tree top place directory name = false := by
  obtain ⟨found, bytes, hfile⟩ := locate_of_isWanted hwanted
  unfold isBelow
  split
  · next hnode => exact absurd hfile (locate_child_ne_file hnames ⟨hlist.leads⟩ hnode found bytes)
  · simp [Tree.leadsToDirectory, hfile]
  · rfl

theorem mem_wantedIn_iff (hnames : WellNamed tree) (hlist : Listable tree top directory place) :
    name ∈ wantedIn tree search top place directory ↔
      (tree.node? (place ++ [name])).isSome = true ∧
        isWanted tree search top (directory.child name) = true := by
  rw [wantedIn, List.mem_filter]
  refine and_congr_left fun hwanted => ?_
  have hbelow := isBelow_of_isWanted hnames hlist hwanted
  simp [filesIn, sortedNames, mem_namesAt_iff, hbelow]

/-- Below a directory a walk comes to the files at the end of ways that do not have more levels than it can
go through, in their order. -/
theorem exists_ways (hnames : WellNamed tree) (hdistinct : PlacedApart tree) (search : Search)
    (top directory : Path) (levels : Nat) :
    ∃ ways : List (List String),
      wantedBelow tree search top levels directory = ways.map (descend directory) ∧
      ways.Pairwise Precedes ∧
      ∀ way, way ∈ ways ↔ IsWay tree search top directory way ∧ way.length ≤ levels := by
  induction levels generalizing directory with
  | zero =>
    refine ⟨[], rfl, .nil, fun way => iff_of_false (by simp) ?_⟩
    rintro ⟨hway, hlength⟩
    exact hway.ne_nil (List.length_eq_zero_iff.mp (Nat.le_zero.mp hlength))
  | succ levels ih =>
    by_cases hlistable : ∃ place, Listable tree top directory place
    · obtain ⟨place, hlist⟩ := hlistable
      choose ways hpaths hordered hmem using fun name => ih (directory.child name)
      refine ⟨(wantedIn tree search top place directory).map ([·]) ++
        (directoriesBelow tree search top place directory).flatMap fun name =>
          (ways name).map (name :: ·), ?_, ?_, fun way => ?_⟩
      · rw [wantedBelow_succ hlist, List.map_append, List.map_map, List.map_flatMap]
        congr 1
        refine List.flatMap_congr fun name _ => ?_
        rw [hpaths, List.map_map]
        exact List.map_congr_left fun way _ => descend_child
      · exact pairwise_precedes ((filesIn_pairwise_lt hdistinct).filter _)
          (directoriesBelow_pairwise_lt hdistinct) hordered
          fun name way hway => ((hmem name way).mp hway).1.ne_nil
      · simp only [List.mem_append, List.mem_map, List.mem_flatMap]
        constructor
        · rintro (⟨name, hname, rfl⟩ | ⟨name, hname, rest, hrest, rfl⟩)
          · obtain ⟨hentry, hwanted⟩ := (mem_wantedIn_iff hnames hlist).mp hname
            exact ⟨.file hlist hentry hwanted, by simp⟩
          · obtain ⟨hway, hlength⟩ := (hmem name rest).mp hrest
            obtain ⟨next, hnext⟩ := hway.listable
            exact ⟨.further hlist ((mem_directoriesBelow_iff_enterable hnext).mp hname) hway,
              Nat.succ_le_succ hlength⟩
        · rintro ⟨hway, hlength⟩
          cases hway with
          | @file _ _ name hother hentry hwanted =>
            obtain rfl := hlist.unique hother
            exact Or.inl ⟨name,
              (mem_wantedIn_iff hnames hlist).mpr ⟨hentry, hwanted⟩, rfl⟩
          | @further _ _ name rest hother henter hway =>
            obtain rfl := hlist.unique hother
            obtain ⟨next, hnext⟩ := hway.listable
            exact Or.inr ⟨name, (mem_directoriesBelow_iff_enterable hnext).mpr henter, rest,
              (hmem name rest).mpr ⟨hway, Nat.le_of_succ_le_succ hlength⟩, rfl⟩
    · refine ⟨[], wantedBelow_of_not_listable hlistable _, .nil, fun way => ?_⟩
      exact iff_of_false (by simp) fun h => hlistable h.1.listable

/-- The ways below a root to all files that discovery wants, in order. -/
structure IsWalk (tree : Tree) (search : Search) (top : Path) (ways : List (List String)) : Prop where
  mem_iff : ∀ way, way ∈ ways ↔ IsWay tree search top top way
  ordered : ways.Pairwise Precedes

theorem IsWalk.nodup {ways : List (List String)} (h : IsWalk tree search top ways) : ways.Nodup := by
  refine h.ordered.imp ?_
  rintro way _ hprecedes rfl
  exact hprecedes.asymm hprecedes

/-- Below a root there is only one walk. -/
theorem IsWalk.unique {ways others : List (List String)} (h : IsWalk tree search top ways)
    (hothers : IsWalk tree search top others) : ways = others := by
  refine List.Perm.eq_of_pairwise ?_ h.ordered hothers.ordered ?_
  · intro way other _ _ hprecedes hfollows
    exact absurd hfollows hprecedes.asymm
  · refine (List.perm_ext_iff_of_nodup h.nodup hothers.nodup).mpr fun way => ?_
    rw [h.mem_iff, hothers.mem_iff]

/-- What discovery wants below a root comes in the order of the walk, if this is not too deep. -/
theorem exists_walk (hnames : WellNamed tree) (hdistinct : PlacedApart tree)
    (hshallow : ∀ directory, .buried directory ∉ visits tree search top) :
    ∃ ways, IsWalk tree search top ways ∧ candidates tree search top = ways.map (descend top) := by
  obtain ⟨ways, hpaths, hordered, hmem⟩ :=
    exists_ways hnames hdistinct search top top search.deepest
  refine ⟨ways, ⟨fun way => ?_, hordered⟩, hpaths⟩
  rw [hmem way]
  refine and_iff_left_of_imp fun hway => ?_
  by_contra hlong
  obtain ⟨deep, hdeep⟩ := hway.exists_buried (Nat.not_le.mp hlong)
  exact hshallow deep hdeep

/-! ## Files of several roots -/

theorem mem_places_keepFirst {paths kept : List Path} {found : Option Place} :
    found ∈ (paths.foldl (keepFirst tree) kept).map tree.placeOf? ↔
      found ∈ kept.map tree.placeOf? ∨ found ∈ paths.map tree.placeOf? := by
  induction paths generalizing kept with
  | nil => simp
  | cons path paths ih =>
    rw [List.foldl_cons, ih, keepFirst, List.map_cons, List.mem_cons]
    split
    · next hseen =>
      rw [List.contains_iff_mem] at hseen
      constructor
      · rintro (hkept | hpaths)
        · exact Or.inl hkept
        · exact Or.inr (Or.inr hpaths)
      · rintro (hkept | rfl | hpaths)
        · exact Or.inl hkept
        · exact Or.inl hseen
        · exact Or.inr hpaths
    · simp only [List.map_append, List.map_singleton, List.mem_append, List.mem_singleton, or_assoc]

/-- Paths to places that are known among themselves need not be gone through again. -/
theorem foldl_keepFirst_kept (paths kept : List Path) :
    (paths.foldl (keepFirst tree) []).foldl (keepFirst tree) kept =
      paths.foldl (keepFirst tree) kept := by
  induction paths using List.reverseRecOn with
  | nil => rfl
  | append_singleton paths path ih =>
    simp only [List.foldl_append, List.foldl_cons, List.foldl_nil]
    by_cases hseen : tree.placeOf? path ∈ (paths.foldl (keepFirst tree) []).map tree.placeOf?
    · have hpath : tree.placeOf? path ∈ paths.map tree.placeOf? := by
        simpa using mem_places_keepFirst.mp hseen
      have hlater : tree.placeOf? path ∈ (paths.foldl (keepFirst tree) kept).map tree.placeOf? :=
        mem_places_keepFirst.mpr (Or.inr hpath)
      rw [keepFirst, if_pos (List.contains_iff_mem.mpr hseen), ih, keepFirst,
        if_pos (List.contains_iff_mem.mpr hlater)]
    · rw [keepFirst, if_neg (by rwa [List.contains_iff_mem]), List.foldl_append, ih, List.foldl_cons,
        List.foldl_nil]

theorem foldl_keepFirst_flatMap (tops : List Path) (kept : List Path) (paths : Path → List Path) :
    (tops.flatMap fun top => (paths top).foldl (keepFirst tree) []).foldl (keepFirst tree) kept =
      (tops.flatMap paths).foldl (keepFirst tree) kept := by
  induction tops generalizing kept with
  | nil => rfl
  | cons top tops ih =>
    rw [List.flatMap_cons, List.flatMap_cons, List.foldl_append, List.foldl_append,
      foldl_keepFirst_kept, ih]

theorem foldl_keepFirst_of_nodup {paths : List Path} (h : (paths.map tree.placeOf?).Nodup) :
    paths.foldl (keepFirst tree) [] = paths := by
  induction paths using List.reverseRecOn with
  | nil => rfl
  | append_singleton paths path ih =>
    rw [List.map_append, List.map_singleton, List.nodup_append] at h
    have hnew : tree.placeOf? path ∉ paths.map tree.placeOf? :=
      fun hseen => h.2.2 _ hseen _ (List.mem_singleton_self _) rfl
    rw [List.foldl_append, ih h.1, List.foldl_cons, List.foldl_nil, keepFirst,
      if_neg (by rwa [List.contains_iff_mem])]

/-- A walk that follows no links comes to no file twice. -/
theorem nodup_places_candidates (hnames : WellNamed tree) (hlinks : search.followLinks = false)
    (hshallow : ∀ directory, .buried directory ∉ visits tree search top) {root : Option String}
    (hroot : checkRoot tree root = .ok top) {ways : List (List String)}
    (hwalk : IsWalk tree search top ways)
    (hpaths : candidates tree search top = ways.map (descend top)) :
    ((candidates tree search top).map tree.placeOf?).Nodup := by
  have hnodup : (candidates tree search top).Nodup := by
    rw [hpaths]
    refine hwalk.nodup.map fun way other hsame => ?_
    exact List.append_cancel_left (congrArg Path.parts hsame)
  refine hnodup.map_on fun path hpath other hother hsame => ?_
  obtain ⟨visit, _, hwanted⟩ := List.mem_flatMap.mp hpath
  obtain ⟨place, bytes, hlocate⟩ := locate_of_isWanted (List.mem_filter.mp hwanted).2
  have hplace : tree.placeOf? path = some place := by
    simp [Tree.placeOf?, hlocate, Except.toOption]
  have hreaches := (reaches_iff hnames hlinks hshallow hroot).mpr ⟨hpath, hplace⟩
  exact hreaches.unique
    ((reaches_iff hnames hlinks hshallow hroot).mpr ⟨hother, hsame.symm.trans hplace⟩)

/-! ## When discovery returns -/

variable {clock : Clock} {start : Nat} {roots : List (Option String)}

theorem discover_returns_iff_checked (hlimit : search.limit = none) :
    (∃ found, discover tree search clock start roots = .ok found) ↔
      (∀ root ∈ roots, ∃ top, checkRoot tree root = .ok top) ∧ ¬ Obstructed tree search roots := by
  constructor
  · rintro ⟨found, h⟩
    obtain ⟨tops, htops, _⟩ := discover_files hlimit h
    have hroots : ∀ root ∈ roots, ∃ top, checkRoot tree root = .ok top := by
      intro root hroot
      obtain ⟨top, -, hcheck⟩ := exists_of_forall₂ htops hroot
      exact ⟨top, hcheck⟩
    exact ⟨hroots, (discover_returns_iff hlimit hroots).mp ⟨found, h⟩⟩
  · rintro ⟨hroots, hfree⟩
    exact (discover_returns_iff hlimit hroots).mpr hfree

theorem discover_alone (hlimit : search.limit = none) {root : Option String} {found : Discovery}
    (h : discover tree search clock start [root] = .ok found) :
    ∃ top, checkRoot tree root = .ok top ∧
      (∀ directory, .buried directory ∉ visits tree search top) ∧
      found.files = (candidates tree search top).foldl (keepFirst tree) [] := by
  obtain ⟨tops, htops, _, hfiles⟩ := discover_files hlimit h
  have hshallow := shallow_of_discover hlimit h htops
  cases htops with
  | @cons _ top _ _ hcheck hnone =>
    cases hnone
    rw [List.flatMap_singleton] at hfiles
    exact ⟨top, hcheck, hshallow top List.mem_cons_self, hfiles⟩

/-- Without a limit of time, discovery returns below several roots if it does below each. -/
theorem discover_returns_iff_alone (hlimit : search.limit = none) :
    (∃ found, discover tree search clock start roots = .ok found) ↔
      ∀ root ∈ roots, ∃ alone, discover tree search clock start [root] = .ok alone := by
  have hone : Obstructed tree search roots ↔ ∃ root ∈ roots, Obstructed tree search [root] := by
    simp [Obstructed]
  simp only [discover_returns_iff_checked hlimit, List.forall_mem_singleton, hone, not_exists, not_and,
    forall_and]

/-- The files of several roots are those of each, one after the other, with only the first path to a
place. -/
theorem discover_concat (hlimit : search.limit = none) {found : Discovery}
    (h : discover tree search clock start roots = .ok found) :
    ∃ lists, List.Forall₂ (fun root files => ∃ alone,
        discover tree search clock start [root] = .ok alone ∧ alone.files = files) roots lists ∧
      found.files = lists.flatten.foldl (keepFirst tree) [] := by
  obtain ⟨tops, htops, _, hfiles⟩ := discover_files hlimit h
  have halone := (discover_returns_iff_alone hlimit).mp ⟨found, h⟩
  refine ⟨tops.map fun top => (candidates tree search top).foldl (keepFirst tree) [], ?_, ?_⟩
  · rw [List.forall₂_map_right_iff]
    refine ((List.forall₂_and_left _ _).mpr ⟨halone, htops⟩).imp ?_
    rintro root top ⟨⟨alone, hdiscover⟩, hcheck⟩
    obtain ⟨top', hcheck', _, hfiles⟩ := discover_alone hlimit hdiscover
    obtain rfl := Except.ok.inj (hcheck.symm.trans hcheck')
    exact ⟨alone, hdiscover, hfiles⟩
  · rw [hfiles, ← List.flatMap_def, foldl_keepFirst_flatMap]

/-- The files of one root are those of its only walk, with only the first path to a place. -/
theorem discover_walk (hnames : WellNamed tree) (hdistinct : PlacedApart tree)
    (hlimit : search.limit = none) {root : Option String} {found : Discovery}
    (h : discover tree search clock start [root] = .ok found) :
    ∃ top ways, checkRoot tree root = .ok top ∧
      (∀ others, IsWalk tree search top others ↔ others = ways) ∧
      found.files = (ways.map (descend top)).foldl (keepFirst tree) [] ∧
      (search.followLinks = false → found.files = ways.map (descend top)) := by
  obtain ⟨top, hcheck, hshallow, hfiles⟩ := discover_alone hlimit h
  obtain ⟨ways, hwalk, hpaths⟩ := exists_walk hnames hdistinct hshallow
  refine ⟨top, ways, hcheck, fun others => ?_, hpaths ▸ hfiles, fun hlinks => ?_⟩
  · exact ⟨fun hothers => hothers.unique hwalk, fun hsame => hsame ▸ hwalk⟩
  · rw [hfiles, ← hpaths]
    exact foldl_keepFirst_of_nodup
      (nodup_places_candidates hnames hlinks hshallow hcheck hwalk hpaths)

/-- Without a limit of time, the files that discovery returns do not depend on the order of the entries
in the tree. Those of one root come in the order of its walk, and those of several roots are the files
of each, one after the other, without later paths to a place. -/
theorem discover_canonical (hnames : WellNamed tree) (hdistinct : PlacedApart tree)
    (hlimit : search.limit = none) (clock : Clock) (start : Nat) (roots : List (Option String)) :
    (∀ entries, tree.entries.Perm entries →
      discover { tree with entries := entries } search clock start roots =
        discover tree search clock start roots) ∧
    (∀ root found, discover tree search clock start [root] = .ok found →
      ∃ top ways, checkRoot tree root = .ok top ∧
        (∀ others, IsWalk tree search top others ↔ others = ways) ∧
        found.files = (ways.map (descend top)).foldl (keepFirst tree) [] ∧
        (search.followLinks = false → found.files = ways.map (descend top))) ∧
    ((∃ found, discover tree search clock start roots = .ok found) ↔
      ∀ root ∈ roots, ∃ alone, discover tree search clock start [root] = .ok alone) ∧
    ∀ found, discover tree search clock start roots = .ok found →
      ∃ lists, List.Forall₂ (fun root files => ∃ alone,
          discover tree search clock start [root] = .ok alone ∧ alone.files = files) roots lists ∧
        found.files = lists.flatten.foldl (keepFirst tree) [] := by
  refine ⟨?_, ?_, discover_returns_iff_alone hlimit, ?_⟩
  · intro entries hperm
    exact discover_resembles (resembles_of_perm hperm hdistinct) search clock start roots
  · intro root found hdiscover
    exact discover_walk hnames hdistinct hlimit hdiscover
  · intro found hdiscover
    exact discover_concat hlimit hdiscover

/-- With its entries the other way round, a tree has the same files, and those of the second root are
dropped again. -/
theorem discover_canonical_reversed :
    discover { linked with entries := linked.entries.reverse } {} (fun _ => .whole 0) 0 [some "c/b", some "a"] =
        .ok linkedFound ∧
      ∃ lists, List.Forall₂ (fun root files => ∃ alone,
          discover linked {} (fun _ => .whole 0) 0 [root] = .ok alone ∧ alone.files = files)
            [some "c/b", some "a"] lists ∧
        linkedFound.files = lists.flatten.foldl (keepFirst linked) [] := by
  obtain ⟨hperm, _, _, hconcat⟩ := discover_canonical (by decide : WellNamed linked)
    (by decide : PlacedApart linked) (rfl : ({} : Search).limit = none) (fun _ => .whole 0) 0
    [some "c/b", some "a"]
  exact ⟨(hperm _ (List.reverse_perm _).symm).trans discover_linked,
    hconcat linkedFound discover_linked⟩

end LogAudit
