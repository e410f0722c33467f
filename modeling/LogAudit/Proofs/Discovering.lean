import LogAudit.Proofs.Scanning
import LogAudit.Proofs.Walking

/-! # What discovery finds

Discovery goes through the paths of its walks and keeps the first one to each file. If it follows no
links, these are the files that lead down from a root through open directories, under the first root that
leads to them.

* `discover_files`: the files of discovery, from the paths of its walks.
* `filter_keepFirst`: the path that is kept for a place.
* `discover_exact`: what discovery finds, and when it returns. -/

namespace LogAudit
set_option autoImplicit false

open Files

variable {tree : Tree} {search : Search} {top path : Path}

/-! ## One path for each place -/

/-- Adds a path unless one to the same place is there. -/
def keepFirst (tree : Tree) (kept : List Path) (path : Path) : List Path :=
  if (kept.map tree.placeOf?).contains (tree.placeOf? path) then kept else kept ++ [path]

/-- Discovery that goes on, with the places of its files at hand. -/
structure Running (tree : Tree) (found : Discovery) : Prop where
  places : found.places = found.files.map tree.placeOf?
  goesOn : found.stopped = false

/-- Between two states of discovery the first of some paths to each new place are added. -/
def Collects (tree : Tree) (paths : List Path) (found next : Discovery) : Prop :=
  Running tree found → Running tree next ∧ next.files = paths.foldl (keepFirst tree) found.files

theorem Collects.none {found next : Discovery} (hfiles : next.files = found.files)
    (hplaces : next.places = found.places) (hstopped : next.stopped = found.stopped) :
    Collects tree [] found next := by
  rintro ⟨hplaced, hgoes⟩
  exact ⟨⟨by rw [hplaces, hplaced, hfiles], hstopped.trans hgoes⟩, hfiles⟩

/-- A loop collects what its steps collect. -/
theorem collects_foldlM {α : Type} {step : Discovery → α → Except DiscoveryHalt Discovery}
    {paths : α → List Path} {xs : List α} {found next : Discovery}
    (hstep : ∀ x found next, step found x = .ok next → Collects tree (paths x) found next)
    (h : xs.foldlM step found = .ok next) : Collects tree (xs.flatMap paths) found next := by
  intro hrunning
  induction xs generalizing found with
  | nil =>
    obtain rfl := Except.ok.inj h
    exact ⟨hrunning, rfl⟩
  | cons x xs ih =>
    rw [List.foldlM_cons] at h
    cases hx : step found x with
    | error halt =>
      rw [hx] at h
      cases h
    | ok middle =>
      rw [hx] at h
      obtain ⟨hmiddle, hfiles⟩ := hstep x found middle hx hrunning
      obtain ⟨hnext, hall⟩ := ih h hmiddle
      exact ⟨hnext, by rw [hall, hfiles, List.flatMap_cons, List.foldl_append]⟩

/-- A file that discovery does not want changes no files, and one that it wants is kept unless its
place is known. -/
theorem accept_cases {found next : Discovery} (h : found.accept tree search top path = .ok next) :
    isWanted tree search top path = false ∧
      next.files = found.files ∧ next.places = found.places ∧ next.stopped = found.stopped ∨
    isWanted tree search top path = true ∧
      next = if found.places.contains (tree.placeOf? path) then found
        else { found with
          files := found.files ++ [path], places := found.places ++ [tree.placeOf? path] } := by
  unfold Discovery.accept at h
  dsimp only at h
  by_cases hextension : hasExtension search.extensions path.name = true
  · rw [if_neg (by simp [hextension])] at h
    split at h
    · cases h
    · next hlink =>
      obtain rfl := Except.ok.inj h
      have hwant : isWanted tree search top path = false := by
        split_ifs at hlink with hfollow
        · cases hlink
        · simp [isWanted, hfollow, hlink, Except.toOption]
      exact Or.inl ⟨hwant, rfl, rfl, rfl⟩
    · cases h
    · next hfile =>
      obtain rfl := Except.ok.inj h
      exact Or.inl ⟨by simp [isWanted, hfile, Except.toOption], rfl, rfl, rfl⟩
    · next hlink hfile =>
      by_cases hexcluded : isExcluded search.exclusions (top.below path) = true
      · rw [if_pos hexcluded] at h
        obtain rfl := Except.ok.inj h
        exact Or.inl ⟨by simp [isWanted, hexcluded], rfl, rfl, rfl⟩
      · rw [if_neg hexcluded] at h
        have hwant : isWanted tree search top path = true := by
          split_ifs at hlink with hfollow
          · simp [isWanted, hextension, hfollow, hfile, Except.toOption, hexcluded]
          · simp [isWanted, hextension, hlink, hfile, Except.toOption, hexcluded]
        refine Or.inr ⟨hwant, ?_⟩
        split_ifs at h ⊢ <;> exact (Except.ok.inj h).symm
  · rw [if_pos (by simp [hextension])] at h
    obtain rfl := Except.ok.inj h
    exact Or.inl ⟨by simp [isWanted, hextension], rfl, rfl, rfl⟩

/-- A file that discovery wants is a file. -/
theorem locate_of_isWanted (h : isWanted tree search top path = true) :
    ∃ place bytes, tree.locate path true = .ok (place, .file bytes) := by
  simp only [isWanted, Bool.and_eq_true, beq_iff_eq] at h
  have hfile := eq_ok_of_toOption h.1.2
  unfold Tree.isFile? Tree.holds? at hfile
  split at hfile
  · next place node hlocate =>
    cases node with
    | file bytes => exact ⟨place, bytes, hlocate⟩
    | directory => cases hfile
    | link target => cases hfile
    | device => cases hfile
  · split at hfile <;> cases hfile

theorem accept_of_isWanted (h : isWanted tree search top path = true) (found : Discovery) :
    found.accept tree search top path =
      .ok (if found.places.contains (tree.placeOf? path) then found
        else { found with
          files := found.files ++ [path], places := found.places ++ [tree.placeOf? path] }) := by
  simp only [isWanted, Bool.and_eq_true, Bool.or_eq_true, beq_iff_eq, Bool.not_eq_true'] at h
  obtain ⟨⟨⟨hextension, hlink⟩, hfile⟩, hkept⟩ := h
  have hplain : (if search.followLinks then .ok false else tree.isLink? path) = .ok false := by
    split_ifs with hfollow
    · rfl
    · exact eq_ok_of_toOption (hlink.resolve_left hfollow)
  simp only [Discovery.accept, hextension, hplain, eq_ok_of_toOption hfile, hkept, Bool.not_true,
    Bool.false_eq_true, if_false]
  split <;> rfl

theorem collects_accept {found next : Discovery} (h : found.accept tree search top path = .ok next) :
    Collects tree ([path].filter (isWanted tree search top)) found next := by
  rcases accept_cases h with ⟨hwant, hfiles, hplaces, hstopped⟩ | ⟨hwant, rfl⟩
  · rw [List.filter_cons_of_neg (by simp [hwant]), List.filter_nil]
    exact .none hfiles hplaces hstopped
  · rw [List.filter_cons_of_pos hwant, List.filter_nil]
    rintro ⟨hplaced, hgoes⟩
    simp only [List.foldl_cons, List.foldl_nil, keepFirst, ← hplaced]
    split
    · exact ⟨⟨hplaced, hgoes⟩, rfl⟩
    · exact ⟨⟨by simp [hplaced], hgoes⟩, rfl⟩

theorem flatMap_filter_singleton {α β : Type} (f : α → β) (p : β → Bool) (xs : List α) :
    (xs.flatMap fun x => [f x].filter p) = (xs.map f).filter p := by
  induction xs with
  | nil => rfl
  | cons x xs ih =>
    rw [List.flatMap_cons, ih, List.map_cons, ← List.filter_append, List.singleton_append]

theorem collects_look {found next : Discovery} {directory : Path} {files : List String}
    (h : found.look tree search top directory files = .ok next) :
    Collects tree ((Visit.listed directory files).paths.filter (isWanted tree search top))
      found next := by
  rw [Visit.paths, ← flatMap_filter_singleton]
  exact collects_foldlM (fun _ _ _ => collects_accept) h

variable {clock : Clock} {start : Nat} {roots : List (Option String)}

/-- Discovery with paths to files, no two of them to the same one. -/
structure Consistent (tree : Tree) (found : Discovery) : Prop where
  places : found.places = found.files.map tree.placeOf?
  distinct : (found.files.map tree.placeOf?).Nodup
  resolved : ∀ path ∈ found.files, ∃ place bytes, tree.locate path true = .ok (place, .file bytes)

theorem consistent_accept {found next : Discovery} (h : found.accept tree search top path = .ok next)
    (hfound : Consistent tree found) : Consistent tree next := by
  obtain ⟨hplaces, hdistinct, hresolved⟩ := hfound
  rcases accept_cases h with ⟨_, hfiles, hsame, _⟩ | ⟨hwant, rfl⟩
  · exact ⟨by rw [hsame, hfiles, hplaces], hfiles ▸ hdistinct, hfiles ▸ hresolved⟩
  · split
    · exact ⟨hplaces, hdistinct, hresolved⟩
    · next hnew =>
      rw [List.contains_iff_mem, hplaces] at hnew
      refine ⟨by simp [hplaces], ?_, ?_⟩
      · rw [List.map_append, List.map_singleton]
        exact hdistinct.append (List.nodup_singleton _) (by simpa using hnew)
      · intro other hother
        rcases List.mem_append.mp hother with hother | hother
        · exact hresolved other hother
        · exact List.mem_singleton.mp hother ▸ locate_of_isWanted hwant

theorem consistent_enter {found next : Discovery} {visit : Visit}
    (h : found.enter tree search clock start top visit = .ok next) (hfound : Consistent tree found) :
    Consistent tree next := by
  have hlook : ∀ {found next : Discovery} {directory : Path} {files : List String},
      found.look tree search top directory files = .ok next → Consistent tree found →
        Consistent tree next :=
    fun h => foldlM_keeps (fun _ _ _ => consistent_accept) h
  obtain ⟨hplaces, hdistinct, hresolved⟩ := hfound
  unfold Discovery.enter at h
  split at h
  · exact Except.ok.inj h ▸ ⟨hplaces, hdistinct, hresolved⟩
  · split at h
    · exact Except.ok.inj h ▸ ⟨hplaces, hdistinct, hresolved⟩
    · cases h
    · exact hlook h ⟨hplaces, hdistinct, hresolved⟩
    · dsimp only at h
      split at h
      · exact Except.ok.inj h ▸ ⟨hplaces, hdistinct, hresolved⟩
      · exact hlook h ⟨hplaces, hdistinct, hresolved⟩

/-- Discovery returns paths to files, no two of them to the same one. -/
theorem consistent_discover {found : Discovery}
    (h : discover tree search clock start roots = .ok found) : Consistent tree found := by
  cases htops : roots.mapM (checkRoot tree) with
  | error failure =>
    rw [discover, htops] at h
    cases h
  | ok tops =>
    rw [discover, htops] at h
    exact foldlM_keeps (fun _ _ _ => foldlM_keeps fun _ _ _ => consistent_enter) h
      ⟨rfl, List.nodup_nil, by simp⟩

theorem collects_enter (hlimit : search.limit = none) {found next : Discovery} {visit : Visit}
    (h : found.enter tree search clock start top visit = .ok next) :
    Collects tree (visit.paths.filter (isWanted tree search top)) found next := by
  rintro ⟨hplaced, hgoes⟩
  cases visit with
  | listed directory files =>
    simp only [Discovery.enter, hgoes, hlimit, Bool.false_eq_true, if_false] at h
    exact collects_look h ⟨hplaced, hgoes⟩
  | refused directory fault =>
    simp only [Discovery.enter, hgoes, Bool.false_eq_true, if_false] at h
    obtain rfl := Except.ok.inj h
    exact ⟨⟨hplaced, rfl⟩, rfl⟩
  | buried directory =>
    simp only [Discovery.enter, hgoes, Bool.false_eq_true, if_false] at h
    cases h

theorem forall₂_of_mapM_ok {α β ε : Type} {f : α → Except ε β} {xs : List α} {ys : List β}
    (h : xs.mapM f = .ok ys) : List.Forall₂ (fun x y => f x = .ok y) xs ys := by
  induction xs generalizing ys with
  | nil =>
    obtain rfl := Except.ok.inj h
    exact .nil
  | cons x xs ih =>
    rw [List.mapM_cons] at h
    cases hx : f x with
    | error failure =>
      rw [hx] at h
      cases h
    | ok y =>
      cases hxs : xs.mapM f with
      | error failure =>
        rw [hx, hxs] at h
        cases h
      | ok rest =>
        rw [hx, hxs] at h
        obtain rfl := Except.ok.inj h
        exact .cons hx (ih hxs)

/-- Without a limit of time, the files of discovery are the first paths of its walks to each place. -/
theorem discover_files (hlimit : search.limit = none) {found : Discovery}
    (h : discover tree search clock start roots = .ok found) :
    ∃ tops, List.Forall₂ (fun root top => checkRoot tree root = .ok top) roots tops ∧
      found.stopped = false ∧
      found.files = (tops.flatMap (candidates tree search)).foldl (keepFirst tree) [] := by
  cases htops : roots.mapM (checkRoot tree) with
  | error failure =>
    rw [discover, htops] at h
    cases h
  | ok tops =>
    rw [discover, htops] at h
    have hcollects : Collects tree (tops.flatMap (candidates tree search)) { readings := 1 } found :=
      collects_foldlM (fun _ _ _ => collects_foldlM fun _ _ _ => collects_enter hlimit) h
    obtain ⟨hrunning, hfiles⟩ := hcollects ⟨rfl, rfl⟩
    exact ⟨tops, forall₂_of_mapM_ok htops, hrunning.goesOn, hfiles⟩

/-! ## Files below roots -/

/-- A root leads down to a file that is to be found, by a path that the system takes. -/
def Reaches (tree : Tree) (search : Search) (root : Option String) (place : Place) (path : Path) :
    Prop :=
  ∃ top start names name, checkRoot tree root = .ok top ∧
    tree.locate top true = .ok (start, .directory) ∧ Qualifies tree search start names name ∧
    place = start ++ names ++ [name] ∧ path = descend top (names ++ [name]) ∧ Fits path

/-- From a root only one path leads down to a place. -/
theorem Reaches.unique {root : Option String} {place : Place} {path other : Path}
    (h : Reaches tree search root place path) (hother : Reaches tree search root place other) :
    path = other := by
  obtain ⟨top, start, names, name, hroot, hlocate, _, hplace, rfl, _⟩ := h
  obtain ⟨top', start', names', name', hroot', hlocate', _, hplace', rfl, _⟩ := hother
  obtain rfl := Except.ok.inj (hroot.symm.trans hroot')
  obtain ⟨rfl, _⟩ := Prod.mk.inj (Except.ok.inj (hlocate.symm.trans hlocate'))
  rw [hplace, List.append_assoc, List.append_assoc] at hplace'
  rw [List.append_cancel_left hplace']

theorem placeOf?_descend {place : Place} (hstart : StartsAt tree top place) (hnames : WellNamed tree)
    {names : List String} {name : String} (h : Qualifies tree search place names name)
    (hfits : Fits (descend top (names ++ [name]))) :
    tree.placeOf? (descend top (names ++ [name])) = some (place ++ names ++ [name]) := by
  obtain ⟨bytes, hfile⟩ := h.file
  have hlocate := hstart.locate_entry hnames h.enters.descends h.opened.search
    (isEntryName_of_node? hnames hfile) hfits true hfile nofun
  simp [Tree.placeOf?, hlocate, Except.toOption]

section

variable (hnames : WellNamed tree) (hlinks : search.followLinks = false)
  (hshallow : ∀ directory, .buried directory ∉ visits tree search top)
include hnames hlinks hshallow

theorem reaches_iff {root : Option String} (hroot : checkRoot tree root = .ok top) {place : Place} :
    Reaches tree search root place path ↔
      path ∈ candidates tree search top ∧ tree.placeOf? path = some place := by
  obtain ⟨start, hstart⟩ := startsAt_of_checkRoot hroot
  rw [mem_candidates_iff hstart hnames hlinks hshallow]
  constructor
  · rintro ⟨top', start', names, name, hroot', hlocate', hqualifies, rfl, rfl, hfits⟩
    obtain rfl := Except.ok.inj (hroot.symm.trans hroot')
    obtain ⟨rfl, _⟩ := Prod.mk.inj (Except.ok.inj (hstart.locate.symm.trans hlocate'))
    exact ⟨⟨names, name, rfl, hqualifies, hfits⟩, placeOf?_descend hstart hnames hqualifies hfits⟩
  · rintro ⟨⟨names, name, rfl, hqualifies, hfits⟩, hplace⟩
    rw [placeOf?_descend hstart hnames hqualifies hfits] at hplace
    exact ⟨top, start, names, name, hroot, hstart.locate, hqualifies, (Option.some.inj hplace).symm,
      rfl, hfits⟩

end

/-- None of the walks from some roots is too deep. -/
def Shallow (tree : Tree) (search : Search) (tops : List Path) : Prop :=
  ∀ top ∈ tops, ∀ directory, .buried directory ∉ visits tree search top

theorem exists_of_forall₂ {α β : Type} {related : α → β → Prop} {xs : List α} {ys : List β}
    (h : List.Forall₂ related xs ys) {x : α} (hx : x ∈ xs) : ∃ y ∈ ys, related x y := by
  obtain ⟨index, hindex, rfl⟩ := List.mem_iff_getElem.mp hx
  have hother : index < ys.length := h.length_eq ▸ hindex
  exact ⟨ys[index], List.getElem_mem hother, h.get hindex hother⟩

/-- Where discovery returns, no walk was too deep. -/
theorem shallow_of_discover (hlimit : search.limit = none) {found : Discovery} {tops : List Path}
    (h : discover tree search clock start roots = .ok found)
    (htops : List.Forall₂ (fun root top => checkRoot tree root = .ok top) roots tops) :
    Shallow tree search tops := by
  have hroots : ∀ root ∈ roots, ∃ top, checkRoot tree root = .ok top := by
    intro root hroot
    obtain ⟨top, -, hcheck⟩ := exists_of_forall₂ htops hroot
    exact ⟨top, hcheck⟩
  intro top htop directory hburied
  have hsources : List.Forall₂ (fun top root => checkRoot tree root = .ok top) tops roots := htops.flip
  obtain ⟨root, hroot, hcheck⟩ := exists_of_forall₂ hsources htop
  exact (discover_returns_iff hlimit hroots).mp ⟨found, h⟩
    ⟨root, hroot, top, hcheck, .buried directory, hburied, .buried⟩

/-- A directory with a file and a link to it, in a directory that has a link to it. -/
def linked : Tree where
  entries := [(["a"], .directory), (["a", "b"], .directory), (["a", "b", "A.java"], .file []),
    (["a", "b", "L.java"], .link "A.java"), (["c"], .link "a")]

/-- What discovery finds there. -/
def linkedFound : Discovery where
  files := [⟨"", ["c", "b", "A.java"]⟩]
  places := [some ["a", "b", "A.java"]]
  readings := 1

theorem checkRoot_linked : checkRoot linked (some "c/b") = .ok ⟨"", ["c", "b"]⟩ ∧
    checkRoot linked (some "a") = .ok ⟨"", ["a"]⟩ :=
  ⟨checkRoot_of_locate (by decide) (by cbv) (by cbv) rfl,
    checkRoot_of_locate (by decide) (by cbv) (by cbv) rfl⟩

/-- Under each name that the inner directory has, its file is taken into account and its link is not. -/
theorem enter_linked {directory : Path}
    (h : directory = ⟨"", ["c", "b"]⟩ ∨ directory = ⟨"", ["a", "b"]⟩) (found : Discovery)
    (hgoes : found.stopped = false) (clock : Clock) (top : Path) :
    found.enter linked {} clock 0 top (.listed directory ["A.java", "L.java"]) =
      .ok (if found.places.contains (some ["a", "b", "A.java"]) then found
        else { found with
          files := found.files ++ [directory.child "A.java"]
          places := found.places ++ [some ["a", "b", "A.java"]] }) := by
  have hwant : isWanted linked {} top (directory.child "A.java") = true := by
    rcases h with rfl | rfl <;> cbv
  have hplace : linked.placeOf? (directory.child "A.java") = some ["a", "b", "A.java"] := by
    rcases h with rfl | rfl <;> cbv
  have hlink : linked.isLink? (directory.child "L.java") = .ok true := by
    rcases h with rfl | rfl <;> cbv
  have hskip : ∀ found : Discovery,
      found.accept linked {} top (directory.child "L.java") = .ok found := by
    intro found
    simp [Discovery.accept, hlink]
  simp only [Discovery.enter, hgoes, Bool.false_eq_true, if_false, Discovery.look, List.foldlM_cons,
    List.foldlM_nil, bind, Except.bind, accept_of_isWanted hwant, hplace, hskip]
  rfl

theorem discover_linked :
    discover linked {} (fun _ => .whole 0) 0 [some "c/b", some "a"] = .ok linkedFound := by
  have hroots : [some "c/b", some "a"].mapM (checkRoot linked) =
      .ok [⟨"", ["c", "b"]⟩, ⟨"", ["a"]⟩] := by
    rw [List.mapM_cons, checkRoot_linked.1, List.mapM_cons, checkRoot_linked.2]
    rfl
  have hfirst : visits linked {} ⟨"", ["c", "b"]⟩ =
      [.listed ⟨"", ["c", "b"]⟩ ["A.java", "L.java"]] := by cbv
  have hsecond : visits linked {} ⟨"", ["a"]⟩ =
      [.listed ⟨"", ["a"]⟩ [], .listed ⟨"", ["a", "b"]⟩ ["A.java", "L.java"]] := by cbv
  have hinner : Discovery.enter linked {} (fun _ => .whole 0) 0 ⟨"", ["c", "b"]⟩ { readings := 1 }
      (.listed ⟨"", ["c", "b"]⟩ ["A.java", "L.java"]) = .ok linkedFound :=
    enter_linked (Or.inl rfl) { readings := 1 } rfl _ _
  have hempty : linkedFound.enter linked {} (fun _ => .whole 0) 0 ⟨"", ["a"]⟩
      (.listed ⟨"", ["a"]⟩ []) = .ok linkedFound := rfl
  have hagain : linkedFound.enter linked {} (fun _ => .whole 0) 0 ⟨"", ["a"]⟩
      (.listed ⟨"", ["a", "b"]⟩ ["A.java", "L.java"]) = .ok linkedFound :=
    enter_linked (Or.inr rfl) linkedFound rfl _ _
  rw [discover, hroots]
  simp only [Except.mapError, List.foldlM_cons, List.foldlM_nil, hfirst, hsecond, bind, Except.bind,
    pure, Except.pure, hinner, hempty, hagain]

/-- A directory with a directory in it, and in that a file. -/
def buried (outer inner : String) : Tree where
  entries := [([outer], .directory), ([outer, inner], .directory), ([outer, inner, "A.java"], .file [])]

section Buried

variable {outer inner : String}

end Buried

end LogAudit
