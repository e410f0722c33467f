import Mathlib
import LogAudit.Discovery

/-! # What ends discovery early

Discovery passes over what is not there. It ends early only at a file that it has to look at and whose
path the system bars, and at a directory that is too deep for the walk.

* `locate_fault`: a fault means that nothing is there, or that the path is barred.
* `accept_error_iff`: what one file can do, and `obstructs_of_enter_error`, `enter_error_of_obstructs`: what one
  directory can.
* `obstructed_of_halt`: what ends discovery, with or without a limit of time.
* `discover_returns_iff`: when discovery returns, without a limit of time. -/

namespace LogAudit
set_option autoImplicit false

open Files

/-! ## Paths that are barred -/

variable {tree : Tree} {path : Path}

/-- A path that is too long for the system, or on which it refuses to search a directory. The last link
of the path is followed or not. -/
def Barred (tree : Tree) (path : Path) (followLast : Bool) : Prop :=
  ∃ fault, tree.locate path followLast = .error fault ∧
    (fault = .nameTooLong ∨ fault = .denied ∨ fault = .broken)

theorem bar_fault_cases (bar : Bar) : bar.fault = .denied ∨ bar.fault = .broken := by
  cases bar with
  | denied => exact Or.inl rfl
  | broken => exact Or.inr rfl

theorem locateFrom_fault {tree : Tree} {followLast : Bool} {links : Nat} {here : Place}
    {names : List String} {fault : Fault}
    (h : tree.locateFrom followLast links here names = .error fault) :
    Tree.meansAbsent fault = true ∨ fault = .nameTooLong ∨ fault = .denied ∨ fault = .broken := by
  fun_induction Tree.locateFrom tree followLast links here names with
  | case1 | case8 => cases h
  | case5 links here name rest _ _ _ ih => exact ih h
  | case10 here name rest _ _ _ _ target _ _ left ih => exact ih h
  | case11 links here name rest _ _ _ _ node _ _ ih => exact ih h
  | case4 links here name rest _ bar _ =>
    obtain rfl := Except.error.inj h
    exact Or.inr (Or.inr (bar_fault_cases bar))
  | case6 =>
    obtain rfl := Except.error.inj h
    exact Or.inr (Or.inl rfl)
  | case2 | case3 | case7 | case9 =>
    obtain rfl := Except.error.inj h
    exact Or.inl rfl

theorem locate_fault {followLast : Bool} {fault : Fault} (h : tree.locate path followLast = .error fault) :
    Tree.meansAbsent fault = true ∨ Barred tree path followLast := by
  have hfault : Tree.meansAbsent fault = true ∨
      fault = .nameTooLong ∨ fault = .denied ∨ fault = .broken := by
    have hsame := h
    unfold Tree.locate at hsame
    split_ifs at hsame
    · exact Or.inr (Or.inl (Except.error.inj hsame).symm)
    · exact locateFrom_fault hsame
  exact hfault.imp_right fun hbars => ⟨fault, h, hbars⟩

theorem Barred.not_absent {followLast : Bool} (h : Barred tree path followLast) :
    ∃ fault, tree.locate path followLast = .error fault ∧ Tree.meansAbsent fault = false := by
  obtain ⟨fault, hlocate, rfl | rfl | rfl⟩ := h
  all_goals exact ⟨_, hlocate, rfl⟩

theorem isFile?_error_iff : (∃ fault, tree.isFile? path = .error fault) ↔ Barred tree path true := by
  unfold Tree.isFile? Tree.holds?
  constructor
  · rintro ⟨fault, h⟩
    split at h
    · cases h
    · next hlocate =>
      split_ifs at h with habsent
      exact (locate_fault hlocate).resolve_left habsent
  · intro h
    obtain ⟨fault, hlocate, habsent⟩ := h.not_absent
    exact ⟨fault, by simp [hlocate, habsent]⟩

theorem isLink?_error_iff : (∃ fault, tree.isLink? path = .error fault) ↔ Barred tree path false := by
  unfold Tree.isLink?
  constructor
  · rintro ⟨fault, h⟩
    split at h
    · cases h
    · cases h
    · next hlocate =>
      split_ifs at h with habsent
      exact (locate_fault hlocate).resolve_left habsent
  · intro h
    obtain ⟨fault, hlocate, habsent⟩ := h.not_absent
    exact ⟨fault, by simp [hlocate, habsent]⟩

/-- Bytes are read from a file, or there are none at a device. -/
theorem locate_of_read {bytes : List UInt8} (h : tree.read path = .ok bytes) :
    ∃ place node, tree.locate path true = .ok (place, node) ∧
      (node = .file bytes ∨ node = .device ∧ bytes = []) := by
  unfold Tree.read at h
  split at h
  · cases h
  · next place node hlocate =>
    refine ⟨place, node, hlocate, ?_⟩
    split at h
    · cases h
    · exact Or.inl (congrArg Node.file (Except.ok.inj h))
    · exact Or.inr ⟨rfl, (Except.ok.inj h).symm⟩
    · cases h

/-- A directory that can be listed can be searched as a root. -/
theorem checkRoot_of_locate {text : String} {place : Place} (htext : Text.isBlankText text = false)
    (hpath : Path.ofText text = path) (hlocate : tree.locate path true = .ok (place, .directory))
    (hread : tree.bar? place .read = none) : checkRoot tree (some text) = .ok path := by
  subst hpath
  simp [checkRoot, htext, Tree.exists?, Tree.holds?, Tree.leadsToDirectory, Tree.isListable, hlocate,
    hread]

/-! ## One file and one directory -/

variable {search : Search} {clock : Clock} {start : Nat} {roots : List (Option String)}

/-- A path that discovery wants to look at and cannot: whether it is a link, if that matters, or whether it
is a file, if it is not a link that is passed over. -/
def Hidden (tree : Tree) (search : Search) (path : Path) : Prop :=
  search.followLinks = false ∧ Barred tree path false ∨
    (search.followLinks = true ∨ tree.isLink? path = .ok false) ∧ Barred tree path true

theorem accept_error_iff {root : Path} {found : Discovery} :
    (∃ halt, found.accept tree search root path = .error halt) ↔
      hasExtension search.extensions path.name = true ∧ Hidden tree search path := by
  have hfile : ∀ fault, tree.isFile? path = .error fault → Barred tree path true :=
    fun fault h => isFile?_error_iff.mp ⟨fault, h⟩
  have hlink : ∀ fault, tree.isLink? path = .error fault → Barred tree path false :=
    fun fault h => isLink?_error_iff.mp ⟨fault, h⟩
  constructor
  · rintro ⟨halt, h⟩
    unfold Discovery.accept at h
    dsimp only at h
    split at h
    · cases h
    · next hextension =>
      refine ⟨by simpa using hextension, ?_⟩
      split at h
      · next fault hlooks =>
        split at hlooks
        · cases hlooks
        · next hfollow => exact Or.inl ⟨by simpa using hfollow, hlink fault hlooks⟩
      · cases h
      · next fault hlooks hfails =>
        refine Or.inr ⟨?_, hfile fault hfails⟩
        split at hlooks
        · next hfollow => exact Or.inl hfollow
        · exact Or.inr hlooks
      · cases h
      · split_ifs at h
  · rintro ⟨hextension, hhidden⟩
    rw [Discovery.accept, if_neg (by simp [hextension])]
    rcases hhidden with ⟨hfollow, hbarred⟩ | ⟨hfollow, hbarred⟩
    · obtain ⟨fault, hfails⟩ := isLink?_error_iff.mpr hbarred
      simp only [hfollow, Bool.false_eq_true, if_false, hfails]
      exact ⟨_, rfl⟩
    · obtain ⟨fault, hfails⟩ := isFile?_error_iff.mpr hbarred
      have hplain : (if search.followLinks then .ok false else tree.isLink? path) = .ok false := by
        rcases hfollow with hfollow | hfollow
        · simp [hfollow]
        · simp [hfollow]
      simp only [hplain, hfails]
      exact ⟨_, rfl⟩

/-- A directory of a walk at which discovery ends: it holds a file that cannot be looked at, or it is too
deep. -/
inductive Obstructs (tree : Tree) (search : Search) : Visit → Prop
  | hidden {directory : Path} {files : List String} {name : String} : name ∈ files →
      hasExtension search.extensions (directory.child name).name = true →
      Hidden tree search (directory.child name) → Obstructs tree search (.listed directory files)
  | buried {directory : Path} : Obstructs tree search (.buried directory)

/-- A walk from one of the roots comes to a directory at which discovery ends. -/
def Obstructed (tree : Tree) (search : Search) (roots : List (Option String)) : Prop :=
  ∃ root ∈ roots, ∃ top, checkRoot tree root = .ok top ∧
    ∃ visit ∈ visits tree search top, Obstructs tree search visit

theorem exists_of_foldlM_eq_error {α β ε : Type} {f : β → α → Except ε β} {xs : List α} {start : β}
    {failure : ε} (h : xs.foldlM f start = .error failure) :
    ∃ before, ∃ x ∈ xs, f before x = .error failure := by
  induction xs generalizing start with
  | nil => cases h
  | cons x xs ih =>
    cases hstep : f start x with
    | error other =>
      rw [List.foldlM_cons, hstep] at h
      exact ⟨start, x, List.mem_cons_self, hstep.trans h⟩
    | ok next =>
      rw [List.foldlM_cons, hstep] at h
      obtain ⟨before, y, hy, hfails⟩ := ih h
      exact ⟨before, y, List.mem_cons_of_mem x hy, hfails⟩

theorem obstructs_of_look_error {root directory : Path} {files : List String} {found : Discovery}
    {halt : DiscoveryHalt} (h : found.look tree search root directory files = .error halt) :
    Obstructs tree search (.listed directory files) := by
  obtain ⟨before, name, hname, haccept⟩ := exists_of_foldlM_eq_error h
  obtain ⟨hextension, hhidden⟩ := accept_error_iff.mp ⟨halt, haccept⟩
  exact .hidden hname hextension hhidden

theorem obstructs_of_enter_error {root : Path} {found : Discovery} {visit : Visit}
    {halt : DiscoveryHalt} (h : found.enter tree search clock start root visit = .error halt) :
    Obstructs tree search visit := by
  unfold Discovery.enter at h
  dsimp only at h
  split at h
  · cases h
  · split at h
    · cases h
    · exact .buried
    · exact obstructs_of_look_error h
    · split at h
      · cases h
      · exact obstructs_of_look_error h

/-! ## Discovery -/

/-- Roots that can be searched have paths. -/
theorem mapM_checkRoot (hroots : ∀ root ∈ roots, ∃ top, checkRoot tree root = .ok top) :
    ∃ tops, roots.mapM (checkRoot tree) = .ok tops ∧
      (∀ top ∈ tops, ∃ root ∈ roots, checkRoot tree root = .ok top) ∧
      ∀ root ∈ roots, ∀ top, checkRoot tree root = .ok top → top ∈ tops := by
  induction roots with
  | nil => exact ⟨[], rfl, by simp, by simp⟩
  | cons root roots ih =>
    obtain ⟨top, htop⟩ := hroots root List.mem_cons_self
    obtain ⟨tops, htops, hsource, htarget⟩ :=
      ih fun other hother => hroots other (List.mem_cons_of_mem _ hother)
    refine ⟨top :: tops, by rw [List.mapM_cons, htop, htops]; rfl, ?_, ?_⟩
    · intro other hother
      rcases List.mem_cons.mp hother with rfl | hother
      · exact ⟨root, List.mem_cons_self, htop⟩
      · obtain ⟨source, hmem, hcheck⟩ := hsource other hother
        exact ⟨source, List.mem_cons_of_mem _ hmem, hcheck⟩
    · intro source hmem other hcheck
      rcases List.mem_cons.mp hmem with rfl | hmem
      · exact Except.ok.inj (htop.symm.trans hcheck) ▸ List.mem_cons_self
      · exact List.mem_cons_of_mem _ (htarget source hmem other hcheck)

/-- Below roots that can be searched, discovery ends early only where a walk is obstructed. -/
theorem obstructed_of_halt (hroots : ∀ root ∈ roots, ∃ top, checkRoot tree root = .ok top)
    {halt : DiscoveryHalt} (h : discover tree search clock start roots = .error halt) :
    Obstructed tree search roots := by
  obtain ⟨tops, htops, hsource, -⟩ := mapM_checkRoot hroots
  rw [discover, htops] at h
  obtain ⟨_, top, htop, hwalk⟩ := exists_of_foldlM_eq_error h
  obtain ⟨_, visit, hvisit, henter⟩ := exists_of_foldlM_eq_error hwalk
  obtain ⟨root, hroot, hcheck⟩ := hsource top htop
  exact ⟨root, hroot, top, hcheck, visit, hvisit, obstructs_of_enter_error henter⟩

/-- A loop gets past a step that fails for every state it can come to only if that step is not taken. -/
theorem foldlM_ok_not_mem {α β ε : Type} {P : β → Prop} {f : β → α → Except ε β} {xs : List α}
    {before after : β} {x : α} (hkeeps : ∀ x before after, f before x = .ok after → P before → P after)
    (hfails : ∀ before, P before → ∃ failure, f before x = .error failure)
    (h : xs.foldlM f before = .ok after) (hbefore : P before) : x ∉ xs := by
  induction xs generalizing before with
  | nil => exact List.not_mem_nil
  | cons y xs ih =>
    rw [List.foldlM_cons] at h
    cases hstep : f before y with
    | error failure =>
      rw [hstep] at h
      cases h
    | ok next =>
      rw [hstep] at h
      rw [List.mem_cons, not_or]
      refine ⟨?_, ih h (hkeeps y before next hstep hbefore)⟩
      rintro rfl
      obtain ⟨failure, hfailure⟩ := hfails before hbefore
      rw [hstep] at hfailure
      cases hfailure

/-- What every step of a loop keeps, the loop keeps. -/
theorem foldlM_keeps {α β ε : Type} {P : β → Prop} {step : β → α → Except ε β} {xs : List α}
    {before after : β} (hstep : ∀ x before after, step before x = .ok after → P before → P after)
    (h : xs.foldlM step before = .ok after) (hbefore : P before) : P after := by
  induction xs generalizing before with
  | nil => exact Except.ok.inj h ▸ hbefore
  | cons x xs ih =>
    rw [List.foldlM_cons] at h
    cases hx : step before x with
    | error failure =>
      rw [hx] at h
      cases h
    | ok middle =>
      rw [hx] at h
      exact ih h (hstep x before middle hx hbefore)

theorem stopped_accept {root : Path} {found next : Discovery}
    (h : found.accept tree search root path = .ok next) : next.stopped = found.stopped := by
  unfold Discovery.accept at h
  dsimp only at h
  split at h
  · rw [← Except.ok.inj h]
  · split at h
    · cases h
    · rw [← Except.ok.inj h]
    · cases h
    · rw [← Except.ok.inj h]
    · split_ifs at h
      all_goals rw [← Except.ok.inj h]

theorem stopped_look {root directory : Path} {files : List String} {found next : Discovery}
    (h : found.look tree search root directory files = .ok next) : next.stopped = found.stopped :=
  foldlM_keeps (P := fun state => state.stopped = found.stopped)
    (fun _ _ _ haccept hsame => (stopped_accept haccept).trans hsame) h rfl

theorem stopped_enter (hlimit : search.limit = none) {root : Path} {visit : Visit}
    {found next : Discovery} (h : found.enter tree search clock start root visit = .ok next) :
    next.stopped = found.stopped := by
  unfold Discovery.enter at h
  dsimp only at h
  split at h
  · rw [← Except.ok.inj h]
  · split at h
    · rw [← Except.ok.inj h]
    · cases h
    · exact stopped_look h
    · next hsome =>
      rw [hlimit] at hsome
      cases hsome

theorem enter_error_of_obstructs (hlimit : search.limit = none) {root : Path} {visit : Visit}
    (h : Obstructs tree search visit) {found : Discovery} (hgoes : found.stopped = false) :
    ∃ halt, found.enter tree search clock start root visit = .error halt := by
  cases h with
  | buried => exact ⟨_, by simp only [Discovery.enter, hgoes, Bool.false_eq_true, if_false]; rfl⟩
  | @hidden directory files name hname hextension hhidden =>
    have henter : found.enter tree search clock start root (.listed directory files) =
        found.look tree search root directory files := by
      simp only [Discovery.enter, hgoes, hlimit, Bool.false_eq_true, if_false]
    cases hlook : found.look tree search root directory files with
    | error halt => exact ⟨halt, henter.trans hlook⟩
    | ok next =>
      have hfails : ∀ before : Discovery, True → ∃ halt, before.accept tree search root
          (directory.child name) = .error halt :=
        fun before _ => accept_error_iff.mpr ⟨hextension, hhidden⟩
      exact absurd hname (foldlM_ok_not_mem (fun _ _ _ _ _ => trivial) hfails hlook trivial)

/-- Without a limit of time, discovery below roots that can be searched returns unless a walk is
obstructed. -/
theorem discover_returns_iff (hlimit : search.limit = none)
    (hroots : ∀ root ∈ roots, ∃ top, checkRoot tree root = .ok top) :
    (∃ found, discover tree search clock start roots = .ok found) ↔ ¬ Obstructed tree search roots := by
  constructor
  · rintro ⟨found, h⟩ ⟨root, hroot, top, hcheck, visit, hvisit, hobstructs⟩
    obtain ⟨tops, htops, -, htarget⟩ := mapM_checkRoot hroots
    rw [discover, htops] at h
    have hstep : ∀ (top : Path) (visit : Visit) (before after : Discovery),
        before.enter tree search clock start top visit = .ok after → before.stopped = false →
          after.stopped = false :=
      fun _ _ _ _ henter hgoes => (stopped_enter hlimit henter).trans hgoes
    have hkeeps : ∀ (top : Path) (before after : Discovery), (visits tree search top).foldlM
        (fun found visit => found.enter tree search clock start top visit) before = .ok after →
          before.stopped = false → after.stopped = false :=
      fun top _ _ hfold hgoes =>
        foldlM_keeps (P := fun state => state.stopped = false) (hstep top) hfold hgoes
    have hwalk : ∀ before : Discovery, before.stopped = false →
        ∃ halt, (visits tree search top).foldlM
          (fun found visit => found.enter tree search clock start top visit) before = .error halt := by
      intro before hgoes
      cases hfold : (visits tree search top).foldlM
          (fun found visit => found.enter tree search clock start top visit) before with
      | error halt => exact ⟨halt, rfl⟩
      | ok after =>
        have hfails : ∀ before : Discovery, before.stopped = false →
            ∃ halt, before.enter tree search clock start top visit = .error halt :=
          fun _ hgoes => enter_error_of_obstructs hlimit hobstructs hgoes
        exact absurd hvisit (foldlM_ok_not_mem (hstep top) hfails hfold hgoes)
    exact foldlM_ok_not_mem hkeeps hwalk h rfl (htarget root hroot top hcheck)
  · intro hclear
    cases hdiscover : discover tree search clock start roots with
    | ok found => exact ⟨found, rfl⟩
    | error halt => exact absurd (obstructed_of_halt hroots hdiscover) hclear

end LogAudit
