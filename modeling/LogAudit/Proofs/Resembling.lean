import LogAudit.Proofs.Walking

/-! # Trees that discovery does not tell apart

Discovery sorts the names in a directory, and it never looks at the bytes of a file. Two trees that
differ in nothing else look the same to it.

* `Resembles`: the two trees.
* `locate_similar`: what a path leads to in both.
* `discover_resembles`: discovery in both.
* `resembles_of_perm`: the same entries in another order make such a tree. -/

namespace LogAudit
set_option autoImplicit false

open Files

variable {tree changed : Tree}

/-- Two trees with the same entries up to the order of names in a directory and the bytes of files. -/
structure Resembles (tree changed : Tree) : Prop where
  current : changed.current = tree.current
  bars : changed.bars = tree.bars
  names : ∀ place, (changed.namesAt place).Perm (tree.namesAt place)
  nodes : ∀ place, changed.node? place = tree.node? place ∨
    ∃ old new, tree.node? place = some (.file old) ∧ changed.node? place = some (.file new)

/-! ## Order of names -/

theorem sortedNames_pairwise_le (names : List String) : (sortedNames names).Pairwise (· ≤ ·) := by
  have hsorted : (names.mergeSort fun a b => a ≤ b).Pairwise fun a b => decide (a ≤ b) = true :=
    List.pairwise_mergeSort
      (fun a b c hab hbc => by simpa using le_trans (of_decide_eq_true hab) (of_decide_eq_true hbc))
      (fun a b => by simpa using le_total a b) names
  exact hsorted.imp of_decide_eq_true

/-- Sorted names do not depend on the order in which they were. -/
theorem sortedNames_of_perm {names others : List String} (h : names.Perm others) :
    sortedNames names = sortedNames others := by
  refine List.Perm.eq_of_pairwise (fun a b _ _ => le_antisymm) (sortedNames_pairwise_le names)
    (sortedNames_pairwise_le others) ?_
  exact ((List.mergeSort_perm names _).trans h).trans (List.mergeSort_perm others _).symm

/-! ## Paths -/

/-- What a path leads to in two trees: the same in both, or a file at the same place. -/
def Similar (result result' : Except Fault (Place × Node)) : Prop :=
  result' = result ∨
    ∃ place old new, result = .ok (place, .file old) ∧ result' = .ok (place, .file new)

theorem Resembles.node?_eq (h : Resembles tree changed) {place : Place} {node? : Option Node}
    (hnode : tree.node? place = node?) (hfile : ∀ bytes, node? ≠ some (.file bytes)) :
    changed.node? place = node? := by
  rcases h.nodes place with hsame | ⟨old, new, hold, _⟩
  · exact hsame.trans hnode
  · exact absurd (hnode.symm.trans hold) (hfile old)

theorem Resembles.not_directory (h : Resembles tree changed) {here : Place} {other : Bool}
    (hdir : (tree.node? here != some .directory) = other) :
    (changed.node? here != some .directory) = other := by
  rcases h.nodes here with hsame | ⟨old, new, hold, hnew⟩
  · rw [hsame, hdir]
  · rw [hold] at hdir
    rw [hnew, ← hdir]
    rfl

theorem Resembles.bar?_eq (h : Resembles tree changed) (place : Place) (access : Access) :
    changed.bar? place access = tree.bar? place access := by
  rw [Tree.bar?, Tree.bar?, h.bars]

theorem locateFrom_similar (h : Resembles tree changed) (followLast : Bool) (links : Nat)
    (here : Place) (names : List String) :
    Similar (tree.locateFrom followLast links here names)
      (changed.locateFrom followLast links here names) := by
  fun_induction Tree.locateFrom tree followLast links here names with
  | case1 links here node hnode =>
    rw [Tree.locateFrom]
    rcases h.nodes here with hsame | ⟨old, new, hold, hnew⟩
    · rw [hsame, hnode]
      exact Or.inl rfl
    · obtain rfl := Option.some.inj (hnode.symm.trans hold)
      rw [hnew]
      exact Or.inr ⟨here, old, new, rfl, rfl⟩
  | case2 links here hnode =>
    rw [Tree.locateFrom, h.node?_eq hnode (by simp)]
    exact Or.inl rfl
  | case3 links here name rest hdir =>
    rw [Tree.locateFrom, if_pos (h.not_directory hdir)]
    exact Or.inl rfl
  | case4 links here name rest hdir bar hbar =>
    rw [Tree.locateFrom, h.not_directory rfl, if_neg hdir, h.bar?_eq, hbar]
    exact Or.inl rfl
  | case5 links here name rest hdir hopen hup ih =>
    rw [locateFrom_up (by rwa [h.not_directory rfl]) (by rwa [h.bar?_eq]) hup]
    exact ih
  | case6 links here name rest hdir hopen hup hlong =>
    rw [Tree.locateFrom, h.not_directory rfl, if_neg hdir, h.bar?_eq, hopen]
    simp only [hup, hlong, if_true, if_false, Bool.false_eq_true]
    exact Or.inl rfl
  | case7 links here name rest hdir hopen hup hlong hnode =>
    rw [Tree.locateFrom, h.not_directory rfl, if_neg hdir, h.bar?_eq, hopen]
    simp only [hup, hlong, if_false, Bool.false_eq_true, h.node?_eq hnode (by simp)]
    exact Or.inl rfl
  | case8 links here name rest hdir hopen hup hlong target hnode hstop =>
    rw [Tree.locateFrom, h.not_directory rfl, if_neg hdir, h.bar?_eq, hopen]
    simp only [hup, hlong, if_false, Bool.false_eq_true, h.node?_eq hnode (by simp), hstop, if_true]
    exact Or.inl rfl
  | case9 here name rest hdir hopen hup hlong target hnode hstop =>
    rw [Tree.locateFrom, h.not_directory rfl, if_neg hdir, h.bar?_eq, hopen]
    simp only [hup, hlong, if_false, Bool.false_eq_true, h.node?_eq hnode (by simp), hstop]
    exact Or.inl rfl
  | case10 here name rest hdir hopen hup hlong target hnode hstop left ih =>
    have hdir' : ¬(changed.node? here != some .directory) = true := by rwa [h.not_directory rfl]
    rw [locateFrom_follow hdir' (by rwa [h.bar?_eq]) hup hlong (h.node?_eq hnode (by simp))
      (Bool.eq_false_iff.mpr hstop)]
    exact ih
  | case11 links here name rest hdir hopen hup hlong node hnolink hnode ih =>
    have hdir' : ¬(changed.node? here != some .directory) = true := by rwa [h.not_directory rfl]
    have hopen' : changed.bar? here .search = none := by rwa [h.bar?_eq]
    rcases h.nodes (here ++ [name]) with hsame | ⟨old, new, hold, hnew⟩
    · rw [locateFrom_down hdir' hopen' hup hlong (hsame.trans hnode) hnolink]
      exact ih
    · rw [locateFrom_down hdir' hopen' hup hlong hnew (by simp)]
      exact ih

theorem locate_similar (h : Resembles tree changed) (path : Path) (followLast : Bool) :
    Similar (tree.locate path followLast) (changed.locate path followLast) := by
  unfold Tree.locate
  split_ifs
  · exact Or.inl rfl
  · rw [h.current]
    exact locateFrom_similar h followLast Tree.mostLinks _ path.parts

/-! ## Discovery -/

section Discovery

variable (h : Resembles tree changed)

include h

theorem Resembles.placeOf?_eq (path : Path) : changed.placeOf? path = tree.placeOf? path := by
  unfold Tree.placeOf?
  rcases locate_similar h path true with hsame | ⟨place, old, new, hold, hnew⟩
  · rw [hsame]
  · rw [hold, hnew]
    rfl

/-- A test that does not look at bytes gives the same in both trees. -/
theorem Resembles.holds?_eq {test : Node → Bool}
    (htest : ∀ old new, test (.file new) = test (.file old)) (path : Path) :
    changed.holds? path test = tree.holds? path test := by
  unfold Tree.holds?
  rcases locate_similar h path true with hsame | ⟨place, old, new, hold, hnew⟩
  · rw [hsame]
  · simp only [hold, hnew, htest old new]

theorem Resembles.isLink?_eq (path : Path) : changed.isLink? path = tree.isLink? path := by
  unfold Tree.isLink?
  rcases locate_similar h path false with hsame | ⟨place, old, new, hold, hnew⟩
  · rw [hsame]
  · rw [hold, hnew]

theorem Resembles.leadsToDirectory_eq (path : Path) :
    changed.leadsToDirectory path = tree.leadsToDirectory path := by
  unfold Tree.leadsToDirectory
  rcases locate_similar h path true with hsame | ⟨place, old, new, hold, hnew⟩
  · rw [hsame]
  · rw [hold, hnew]

theorem Resembles.isListable_eq (path : Path) : changed.isListable path = tree.isListable path := by
  unfold Tree.isListable
  rcases locate_similar h path true with hsame | ⟨place, old, new, hold, hnew⟩
  · simp only [hsame, h.bar?_eq]
  · simp only [hold, hnew, h.bar?_eq]

theorem Resembles.checkRoot_eq (root : Option String) :
    checkRoot changed root = checkRoot tree root := by
  have hexists : ∀ path, changed.exists? path = tree.exists? path := h.holds?_eq fun _ _ => rfl
  simp only [checkRoot, hexists, h.leadsToDirectory_eq, h.isListable_eq]

theorem Resembles.isBelow_eq (top : Path) (place : Place) (directory : Path) (name : String) :
    isBelow changed top place directory name = isBelow tree top place directory name := by
  unfold isBelow
  simp only [h.leadsToDirectory_eq]
  rcases h.nodes (place ++ [name]) with hsame | ⟨old, new, hold, hnew⟩
  · rw [hsame]
  · rw [hold, hnew]

theorem Resembles.isEntered_eq (search : Search) (place : Place) :
    isEntered changed search place = isEntered tree search place := by
  funext name
  unfold isEntered
  rcases h.nodes (place ++ [name]) with hsame | ⟨old, new, hold, hnew⟩
  · rw [hsame]
  · rw [hold, hnew]

theorem Resembles.sortedNames_eq (place : Place) (p : String → Bool) :
    sortedNames ((changed.namesAt place).filter p) = sortedNames ((tree.namesAt place).filter p) :=
  sortedNames_of_perm ((h.names place).filter p)

theorem Resembles.listing_eq (top directory : Path) :
    listing changed top directory = listing tree top directory := by
  unfold listing
  rcases locate_similar h directory true with hsame | ⟨place, old, new, hold, hnew⟩
  · simp only [hsame, h.bar?_eq]
  · simp only [hold, hnew]

theorem Resembles.visitsFrom_eq (search : Search) (top : Path) (levels : Nat) (directory : Path) :
    visitsFrom changed search top levels directory = visitsFrom tree search top levels directory := by
  induction levels generalizing directory with
  | zero => rfl
  | succ levels ih =>
    simp only [visitsFrom, h.listing_eq, filesIn, directoriesBelow, h.sortedNames_eq, h.isBelow_eq,
      h.isEntered_eq, ih]

theorem Resembles.visits_eq (search : Search) (top : Path) :
    visits changed search top = visits tree search top := by
  rw [visits, visits, h.visitsFrom_eq]

theorem Resembles.accept_eq (search : Search) (top : Path) (found : Discovery) (path : Path) :
    found.accept changed search top path = found.accept tree search top path := by
  have hfile : changed.isFile? path = tree.isFile? path := h.holds?_eq (fun _ _ => rfl) path
  simp only [Discovery.accept, h.isLink?_eq, hfile, h.placeOf?_eq]

theorem Resembles.enter_eq (search : Search) (clock : Clock) (start : Nat) (top : Path)
    (found : Discovery) (visit : Visit) :
    found.enter changed search clock start top visit =
      found.enter tree search clock start top visit := by
  simp only [Discovery.enter, Discovery.look, h.accept_eq]

/-- Discovery goes the same way in both trees. -/
theorem discover_resembles (search : Search) (clock : Clock) (start : Nat)
    (roots : List (Option String)) :
    discover changed search clock start roots = discover tree search clock start roots := by
  have hcheck : checkRoot changed = checkRoot tree := funext h.checkRoot_eq
  simp only [discover, hcheck, h.visits_eq, h.enter_eq]

end Discovery

/-! ## Order of entries -/

/-- Whether no two entries of a tree have the same place. -/
def PlacedApart (tree : Tree) : Prop := (tree.entries.map (·.1)).Nodup

instance (tree : Tree) : Decidable (PlacedApart tree) := by
  unfold PlacedApart
  infer_instance

theorem lookup_of_perm {entries others : List (Place × Node)} (h : entries.Perm others)
    (hdistinct : (entries.map (·.1)).Nodup) (place : Place) :
    others.lookup place = entries.lookup place := by
  induction h with
  | nil => rfl
  | cons entry _ ih =>
    rw [List.map_cons, List.nodup_cons] at hdistinct
    rw [List.lookup_cons, List.lookup_cons, ih hdistinct.2]
  | swap first second entries =>
    obtain ⟨key, node⟩ := first
    obtain ⟨other, otherNode⟩ := second
    have hkeys : key ≠ other := by
      intro hsame
      simp [hsame] at hdistinct
    by_cases hkey : place = key
    · have hother : (place == other) = false := beq_false_of_ne (hkey ▸ hkeys)
      simp only [List.lookup_cons, hother]
    · have hskip : (place == key) = false := beq_false_of_ne hkey
      simp only [List.lookup_cons, hskip]
  | trans hperm _ ih ih' => rw [ih' ((hperm.map _).nodup_iff.mp hdistinct), ih hdistinct]

/-- The entries of a tree can be listed in any order. -/
theorem resembles_of_perm {entries : List (Place × Node)} (h : tree.entries.Perm entries)
    (hdistinct : PlacedApart tree) : Resembles tree { tree with entries := entries } := by
  refine ⟨rfl, rfl, fun place => (h.filterMap _).symm, fun place => Or.inl ?_⟩
  rw [Tree.node?, Tree.node?, lookup_of_perm h hdistinct]

end LogAudit
