import LogAudit.Proofs.Rewriting
import LogAudit.Report.File

/-! # What writing changes

A report is written in two steps: the directories above it are made, and its bytes are put where its path
leads. Making directories touches no entry that is there. Writing a file touches one place, to which the
path leads afterwards, and a device takes the bytes without a trace. If there is too little room, the
beginning of the bytes is left in the file.

* `locateFrom_site`: a path leads to what is put at its site.
* `addsDirectories_makeDirectories`: making directories, whether it comes to its end or not.
* `Delivers`, `Abandons`: what a write leaves behind, whether it comes to its end or not.
* `write_cases`, `write_eq_ok`: writing a report. -/

namespace LogAudit
set_option autoImplicit false

open Files

variable {tree changed made : Tree} {place : Place} {path : Path}

/-! ## New entries -/

theorem node?_nil : tree.node? [] = some .directory := rfl

theorem current_put (tree : Tree) (place : Place) (node : Node) :
    (tree.put place node).current = tree.current := by
  unfold Tree.put
  split <;> rfl

theorem bars_put (tree : Tree) (place : Place) (node : Node) :
    (tree.put place node).bars = tree.bars := by
  unfold Tree.put
  split <;> rfl

theorem node?_put (hplace : place ≠ []) (node : Node) (other : Place) :
    (tree.put place node).node? other = if other = place then some node else tree.node? other := by
  by_cases hnil : other = []
  · rw [hnil, node?_nil, node?_nil, if_neg (Ne.symm hplace)]
  have hlookup : ∀ tree : Tree, tree.node? other = tree.entries.lookup other := by
    intro tree
    simp [Tree.node?, hnil]
  rw [hlookup, hlookup, Tree.put]
  split
  · next hthere =>
    have hsome : (tree.entries.lookup place).isSome = true := by
      obtain ⟨entry, hentry, hkey⟩ := List.any_eq_true.mp hthere
      exact List.lookup_isSome_iff.mpr ⟨entry, hentry, by rwa [BEq.comm]⟩
    rw [lookup_map_replaced]
    split
    · next hother =>
      obtain ⟨old, hold⟩ := Option.isSome_iff_exists.mp hsome
      rw [hother, hold]
      rfl
    · rfl
  · next hfree =>
    have hnone : tree.entries.lookup place = none := by
      rw [List.lookup_eq_none_iff]
      intro entry hentry
      rw [bne_iff_ne]
      rintro rfl
      exact hfree (List.any_eq_true.mpr ⟨entry, hentry, beq_self_eq_true _⟩)
    rw [List.lookup_append, List.lookup_cons]
    by_cases hother : other = place
    · rw [hother, hnone, if_pos rfl, beq_self_eq_true]
      rfl
    · rw [if_neg hother, beq_false_of_ne hother]
      exact Option.or_none

/-- A node is put where nothing was, and all else stays as it was. -/
structure Adds (tree changed : Tree) (place : Place) (node : Node) : Prop where
  current : changed.current = tree.current
  bars : changed.bars = tree.bars
  free : tree.node? place = none
  added : changed.node? place = some node
  elsewhere : ∀ other, other ≠ place → changed.node? other = tree.node? other

theorem adds_put (h : tree.node? place = none) (node : Node) :
    Adds tree (tree.put place node) place node := by
  have hplace : place ≠ [] := by
    rintro rfl
    cases h
  refine ⟨current_put tree place node, bars_put tree place node, h, ?_, fun other hother => ?_⟩
  · rw [node?_put hplace, if_pos rfl]
  · rw [node?_put hplace, if_neg hother]

/-- What is there stays there. -/
theorem Adds.node? {node old : Node} (h : Adds tree changed place node) {other : Place}
    (hother : tree.node? other = some old) : changed.node? other = some old := by
  have hne : other ≠ place := by
    rintro rfl
    rw [h.free] at hother
    cases hother
  rw [h.elsewhere other hne, hother]

theorem Adds.directory {node : Node} (h : Adds tree changed place node) {here : Place}
    (hdir : ¬(tree.node? here != some .directory) = true) :
    ¬(changed.node? here != some .directory) = true := by
  have hhere : tree.node? here = some .directory := by simpa using hdir
  simp [h.node? hhere]

theorem Adds.bar?_eq {node : Node} (h : Adds tree changed place node) (other : Place) (access : Access) :
    changed.bar? other access = tree.bar? other access := by
  rw [Tree.bar?, Tree.bar?, h.bars]

/-- Where a path leads nowhere but has a site, nothing stands at the site, and once something is put
there that is no link, the path leads to it. -/
theorem locateFrom_site {followLast : Bool} {links : Nat} {here : Place} {names : List String}
    (hsite : tree.siteFrom links here names = .ok place)
    (hmiss : tree.locateFrom followLast links here names = .error .notFound) :
    tree.node? place = none ∧ ∀ {changed : Tree} {node : Node}, Adds tree changed place node →
      (∀ target, node ≠ .link target) →
        changed.locateFrom followLast links here names = .ok (place, node) := by
  fun_induction Tree.siteFrom tree links here names with
  | case1 links here =>
    obtain rfl : here = place := Except.ok.inj hsite
    rw [Tree.locateFrom] at hmiss
    cases hnode : tree.node? here with
    | some node => simp [hnode] at hmiss
    | none =>
      refine ⟨rfl, fun hadds _ => ?_⟩
      rw [Tree.locateFrom, hadds.added]
  | case4 links here name rest hdir hopen hup ih =>
    rw [locateFrom_up hdir hopen hup] at hmiss
    obtain ⟨hfree, hleads⟩ := ih hsite hmiss
    refine ⟨hfree, fun hadds hnolink => ?_⟩
    rw [locateFrom_up (hadds.directory hdir) (by rwa [hadds.bar?_eq]) hup]
    exact hleads hadds hnolink
  | case6 links here name rest hdir hopen hup hlong hnode hlast =>
    obtain rfl : here ++ [name] = place := Except.ok.inj hsite
    obtain rfl : rest = [] := List.isEmpty_iff.mp hlast
    refine ⟨hnode, fun hadds hnolink => ?_⟩
    rw [locateFrom_down (hadds.directory hdir) (by rwa [hadds.bar?_eq]) hup hlong hadds.added hnolink,
      Tree.locateFrom, hadds.added]
  | case9 here name rest hdir hopen hup hlong target hnode left ih =>
    have hfollowed : (rest.isEmpty && !followLast) = false := by
      rw [Tree.locateFrom, if_neg hdir, hopen] at hmiss
      cases hstop : rest.isEmpty && !followLast with
      | false => rfl
      | true => simp [hup, hlong, hnode, hstop] at hmiss
    rw [locateFrom_follow hdir hopen hup hlong hnode hfollowed] at hmiss
    obtain ⟨hfree, hleads⟩ := ih hsite hmiss
    refine ⟨hfree, fun hadds hnolink => ?_⟩
    rw [locateFrom_follow (hadds.directory hdir) (by rwa [hadds.bar?_eq]) hup hlong (hadds.node? hnode)
      hfollowed]
    exact hleads hadds hnolink
  | case10 links here name rest hdir hopen hup hlong node hnolink hnode ih =>
    rw [locateFrom_down hdir hopen hup hlong hnode hnolink] at hmiss
    obtain ⟨hfree, hleads⟩ := ih hsite hmiss
    refine ⟨hfree, fun hadds hnolink' => ?_⟩
    rw [locateFrom_down (hadds.directory hdir) (by rwa [hadds.bar?_eq]) hup hlong (hadds.node? hnode)
      hnolink]
    exact hleads hadds hnolink'
  | case2 | case3 | case5 | case7 | case8 => cases hsite

/-- The same for whole paths. -/
theorem locate_site {followLast : Bool} (hsite : tree.site path = .ok place)
    (hmiss : tree.locate path followLast = .error .notFound) :
    tree.node? place = none ∧ ∀ {changed : Tree} {node : Node}, Adds tree changed place node →
      (∀ target, node ≠ .link target) → changed.locate path followLast = .ok (place, node) := by
  have hfits : Fits path := by
    by_contra hlong
    rw [Tree.locate, if_pos (Nat.not_le.mp hlong)] at hmiss
    cases hmiss
  have hfrom : tree.siteFrom Tree.mostLinks (path.start tree.current) path.parts = .ok place := by
    unfold Tree.site at hsite
    split at hsite
    · cases hsite
    · next found hfound =>
      split at hsite
      · cases hsite
      · rw [hfound, Except.ok.inj hsite]
  rw [locate_of_fits hfits] at hmiss
  obtain ⟨hfree, hleads⟩ := locateFrom_site hfrom hmiss
  refine ⟨hfree, fun hadds hnolink => ?_⟩
  rw [locate_of_fits hfits, hadds.current]
  exact hleads hadds hnolink

/-! ## Directories -/

/-- There are further directories where nothing was, and all else stays as it was. -/
def AddsDirectories (tree changed : Tree) : Prop :=
  ∀ place, changed.node? place = tree.node? place ∨
    tree.node? place = none ∧ changed.node? place = some .directory

theorem AddsDirectories.refl (tree : Tree) : AddsDirectories tree tree :=
  fun _ => Or.inl rfl

theorem AddsDirectories.trans (h : AddsDirectories tree made) (h' : AddsDirectories made changed) :
    AddsDirectories tree changed := by
  intro place
  rcases h' place with hsame | ⟨hfree, hadded⟩
  · rw [hsame]
    exact h place
  · rcases h place with hsame | ⟨_, hmade⟩
    · exact Or.inr ⟨hsame ▸ hfree, hadded⟩
    · rw [hmade] at hfree
      cases hfree

theorem Adds.addsDirectories (h : Adds tree changed place .directory) :
    AddsDirectories tree changed := by
  intro other
  by_cases hother : other = place
  · subst hother
    exact Or.inr ⟨h.free, h.added⟩
  · exact Or.inl (h.elsewhere other hother)

theorem addsDirectories_makeDirectory (h : tree.makeDirectory path = .ok made) :
    AddsDirectories tree made := by
  unfold Tree.makeDirectory at h
  split at h
  · cases h
  · next hmiss =>
    cases hsite : tree.site path with
    | error fault =>
      rw [hsite] at h
      cases h
    | ok place =>
      rw [hsite] at h
      obtain rfl : tree.put place .directory = made := Except.ok.inj h
      exact (adds_put (locate_site hsite hmiss).1 .directory).addsDirectories
  · cases h

theorem addsDirectories_makeDirectoriesFrom (steps : Nat) (tree : Tree) (path : Path) :
    AddsDirectories tree (tree.makeDirectoriesFrom steps path).2 := by
  induction steps generalizing path with
  | zero =>
    unfold Tree.makeDirectoriesFrom
    split
    · next made hmade => exact addsDirectories_makeDirectory hmade
    · exact .refl tree
    · split <;> exact .refl tree
  | succ fewer ih =>
    unfold Tree.makeDirectoriesFrom
    split
    · next made hmade => exact addsDirectories_makeDirectory hmade
    · have habove := ih path.parent
      dsimp only
      split
      · next fault above heq =>
        rw [heq] at habove
        exact habove
      · next above heq =>
        rw [heq] at habove
        split
        · next made hmade => exact habove.trans (addsDirectories_makeDirectory hmade)
        · split <;> exact habove
    · split <;> exact .refl tree

theorem addsDirectories_makeDirectories (tree : Tree) (path : Path) :
    AddsDirectories tree (tree.makeDirectories path).2 :=
  addsDirectories_makeDirectoriesFrom _ tree path

/-! ## Files -/

/-- The path leads to a file with given bytes, at a place where a file or nothing was. All else stays as
it was, but for further directories. -/
structure Writes (tree changed : Tree) (path : Path) (bytes : List UInt8) (place : Place) : Prop where
  leads : changed.locate path true = .ok (place, .file bytes)
  before : tree.node? place = none ∨ ∃ old, tree.node? place = some (.file old)
  elsewhere : ∀ other, other ≠ place → changed.node? other = tree.node? other ∨
    tree.node? other = none ∧ changed.node? other = some .directory

/-- Bytes that are put where a path leads, to a file, or to its site if it leads nowhere. -/
theorem writes_put {node : Except Fault (Place × Node)} {bytes : List UInt8}
    (hlocate : tree.locate path true = node)
    (h : (∃ old, node = .ok (place, .file old)) ∨ node = .error .notFound ∧ tree.site path = .ok place) :
    Writes tree (tree.put place (.file bytes)) path bytes place := by
  rcases h with ⟨old, rfl⟩ | ⟨rfl, hsite⟩
  · have hold := node?_of_locate_file hlocate
    have hplace : place ≠ [] := by
      rintro rfl
      cases hold
    have hrewrites := rewrites_put hold bytes
    refine ⟨?_, Or.inr ⟨old, hold⟩, fun other hother => Or.inl (hrewrites.elsewhere other hother)⟩
    have hnew : ∃ new, (tree.put place (.file bytes)).locate path true = .ok (place, .file new) := by
      rcases locate_alike hrewrites path true with hsame | ⟨_, new, _, hnew⟩
      · exact ⟨old, hsame.trans hlocate⟩
      · exact ⟨new, hnew⟩
    obtain ⟨new, hnew⟩ := hnew
    have hbytes := node?_of_locate_file hnew
    rw [node?_put hplace, if_pos rfl] at hbytes
    rw [hnew, Option.some.inj hbytes]
  · obtain ⟨hfree, hleads⟩ := locate_site hsite hlocate
    have hadds := adds_put hfree (.file bytes)
    exact ⟨hleads hadds nofun, Or.inl hfree, fun other hother => Or.inl (hadds.elsewhere other hother)⟩

theorem AddsDirectories.writes {bytes : List UInt8} (h : AddsDirectories tree made)
    (hwrites : Writes made changed path bytes place) : Writes tree changed path bytes place := by
  refine ⟨hwrites.leads, ?_, fun other hother => ?_⟩
  · rcases h place with hsame | ⟨hfree, _⟩
    · rw [← hsame]
      exact hwrites.before
    · exact Or.inl hfree
  · rcases hwrites.elsewhere other hother with hsame | ⟨hfree, hadded⟩
    · rw [hsame]
      exact h other
    · rcases h other with hmade | ⟨hnone, _⟩
      · exact Or.inr ⟨hmade ▸ hfree, hadded⟩
      · exact Or.inr ⟨hnone, hadded⟩

/-- What a write leaves behind that comes to its end: the bytes are in the file at the path, or a device
has taken them. -/
inductive Delivers (tree changed : Tree) (path : Path) (bytes : List UInt8) : Prop
  | file {place : Place} (writes : Writes tree changed path bytes place)
  | device {place : Place} (leads : changed.locate path true = .ok (place, .device))
      (adds : AddsDirectories tree changed)

/-- What a write leaves behind that fails: no more than directories, or there was too little room, and the
file at the path holds a beginning of the bytes. -/
inductive Abandons (tree changed : Tree) (path : Path) (bytes : List UInt8) : Fault → Prop
  | untouched {fault : Fault} (adds : AddsDirectories tree changed) :
      Abandons tree changed path bytes fault
  | cut {place : Place} {front : List UInt8} (beginning : front <+: bytes) (proper : front ≠ bytes)
      (writes : Writes tree changed path front place) : Abandons tree changed path bytes .noSpace

/-- Filling a place leaves all the bytes there, or as many as there is room for. -/
theorem fill_cases {bytes : List UInt8}
    (hwrites : ∀ bytes, Writes tree (tree.put place (.file bytes)) path bytes place) :
    (∃ changed, tree.fill place bytes = (none, changed) ∧ Delivers tree changed path bytes) ∨
      ∃ fault changed, tree.fill place bytes = (some fault, changed) ∧
        Abandons tree changed path bytes fault := by
  unfold Tree.fill
  split
  · exact Or.inl ⟨_, rfl, .file (hwrites bytes)⟩
  · next hroom =>
    refine Or.inr ⟨_, _, rfl, .cut (List.take_prefix _ _) (fun hall => hroom ?_) (hwrites _)⟩
    cases hlimit : tree.room with
    | none => rfl
    | some room =>
      rw [hlimit] at hall
      exact decide_eq_true (List.take_eq_self_iff _ |>.mp hall)

theorem tree_write_cases (tree : Tree) (path : Path) (bytes : List UInt8) :
    (∃ changed, tree.write path bytes = (none, changed) ∧ Delivers tree changed path bytes) ∨
      ∃ fault changed, tree.write path bytes = (some fault, changed) ∧
        Abandons tree changed path bytes fault := by
  have huntouched : ∀ fault, Abandons tree tree path bytes fault := fun fault => .untouched (.refl tree)
  unfold Tree.write
  split
  · next hmiss =>
    split
    · exact Or.inr ⟨_, _, rfl, huntouched _⟩
    · next place hsite => exact fill_cases fun bytes => writes_put hmiss (Or.inr ⟨rfl, hsite⟩)
  · exact Or.inr ⟨_, _, rfl, huntouched _⟩
  · next place node hlocate =>
    split
    · exact Or.inr ⟨_, _, rfl, huntouched _⟩
    · exact Or.inr ⟨_, _, rfl, huntouched _⟩
    · exact Or.inl ⟨tree, rfl, .device hlocate (.refl tree)⟩
    · exact fill_cases fun bytes => writes_put hlocate (Or.inl ⟨_, rfl⟩)
    · exact Or.inr ⟨_, _, rfl, huntouched _⟩

theorem AddsDirectories.delivers {bytes : List UInt8} (h : AddsDirectories tree made)
    (hdelivers : Delivers made changed path bytes) : Delivers tree changed path bytes := by
  cases hdelivers with
  | file hwrites => exact .file (h.writes hwrites)
  | device hleads hadds => exact .device hleads (h.trans hadds)

theorem AddsDirectories.abandons {bytes : List UInt8} {fault : Fault} (h : AddsDirectories tree made)
    (habandons : Abandons made changed path bytes fault) : Abandons tree changed path bytes fault := by
  cases habandons with
  | untouched hadds => exact .untouched (h.trans hadds)
  | cut hbeginning hproper hwrites => exact .cut hbeginning hproper (h.writes hwrites)

/-! ## Reports -/

namespace Report

theorem writeText_cases (tree : Tree) (path : Path) (text : String) :
    (∃ written, writeText tree path text = (none, written) ∧
      Delivers tree written path text.toUTF8.toList) ∨
    ∃ fault place left, writeText tree path text = (some (.file fault place), left) ∧
      Abandons tree left path text.toUTF8.toList fault := by
  have hmade := addsDirectories_makeDirectories tree path.parent
  unfold writeText
  split
  · next fault place left hfails =>
    rw [hfails] at hmade
    exact Or.inr ⟨fault, place, left, rfl, .untouched hmade⟩
  · next made hmakes =>
    rw [hmakes] at hmade
    rcases tree_write_cases made path text.toUTF8.toList with
      ⟨written, hwrite, hdelivers⟩ | ⟨fault, left, hwrite, habandons⟩
    · rw [hwrite]
      exact Or.inl ⟨written, rfl, hmade.delivers hdelivers⟩
    · rw [hwrite]
      exact Or.inr ⟨fault, path, left, rfl, hmade.abandons habandons⟩

variable {limits : Json.Limits} {format : Format} {moment : Moment} {result : ScanResult}
  {output : String}

/-- Integers with too many digits keep a report from being written at all. -/
theorem write_of_not_canShow (h : canShow limits format result = false) (tree : Tree) (moment : Moment)
    (output : String) :
    write limits tree format moment result output = (.error (.digits (limits.digits.getD 0)), tree) := by
  rw [write, h]
  rfl

/-- A report that can be shown is delivered to the path where it belongs, or there is a fault of the file
system. -/
theorem write_cases (h : canShow limits format result = true) (tree : Tree) (moment : Moment)
    (output : String) :
    (∃ written, write limits tree format moment result output =
        (.ok (Path.ofText (destination format moment output)), written) ∧
      Delivers tree written (Path.ofText (destination format moment output))
        (text format moment result).toUTF8.toList) ∨
    ∃ fault place left, write limits tree format moment result output =
        (.error (.file fault place), left) ∧
      Abandons tree left (Path.ofText (destination format moment output))
        (text format moment result).toUTF8.toList fault := by
  rcases writeText_cases tree (Path.ofText (destination format moment output))
    (text format moment result) with ⟨written, heq, hdelivers⟩ | ⟨fault, place, left, heq, habandons⟩
  · refine Or.inl ⟨written, ?_, hdelivers⟩
    simp only [write, h, heq, Bool.not_true, Bool.false_eq_true, if_false]
  · refine Or.inr ⟨fault, place, left, ?_, habandons⟩
    simp only [write, h, heq, Bool.not_true, Bool.false_eq_true, if_false]

theorem destination_of_ne_empty (h : output ≠ "") : destination format moment output = output := by
  rw [destination, if_neg (by simpa using h)]

end Report

end LogAudit
