import LogAudit.Proofs.Resembling

/-! # Other bytes in a file

Two trees that differ only in the bytes of one file have the same paths to the same places, and
discovery finds the same files in both.

* `Rewrites`: the two trees.
* `locate_alike`: what a path leads to in both.
* `discover_rewrites`: discovery in both.
* `rewrites_put`: writing a file that is there makes such a tree. -/

namespace LogAudit
set_option autoImplicit false

open Files

variable {tree changed : Tree} {place : Place}

/-- Two trees that differ only in the bytes of the file at a place. -/
structure Rewrites (tree changed : Tree) (place : Place) : Prop where
  current : changed.current = tree.current
  bars : changed.bars = tree.bars
  names : ∀ other, changed.namesAt other = tree.namesAt other
  elsewhere : ∀ other, other ≠ place → changed.node? other = tree.node? other
  bytes : ∃ old new, tree.node? place = some (.file old) ∧ changed.node? place = some (.file new)

theorem Rewrites.resembles (h : Rewrites tree changed place) : Resembles tree changed := by
  refine ⟨h.current, h.bars, fun other => h.names other ▸ .rfl, fun other => ?_⟩
  by_cases hother : other = place
  · exact Or.inr (hother ▸ h.bytes)
  · exact Or.inl (h.elsewhere other hother)

/-! ## Paths -/

/-- What a path leads to in two trees: the same in both, or the file in which they differ. -/
def Alike (place : Place) (result result' : Except Fault (Place × Node)) : Prop :=
  result' = result ∨ ∃ old new, result = .ok (place, .file old) ∧ result' = .ok (place, .file new)

theorem node?_of_locate_file {path : Path} {followLast : Bool} {bytes : List UInt8}
    (h : tree.locate path followLast = .ok (place, .file bytes)) :
    tree.node? place = some (.file bytes) := by
  unfold Tree.locate at h
  split_ifs at h
  exact node?_of_locateFrom h

theorem locate_alike (h : Rewrites tree changed place) (path : Path) (followLast : Bool) :
    Alike place (tree.locate path followLast) (changed.locate path followLast) := by
  rcases locate_similar h.resembles path followLast with hsame | ⟨other, old, new, hold, hnew⟩
  · exact Or.inl hsame
  · by_cases hother : other = place
    · subst hother
      exact Or.inr ⟨old, new, hold, hnew⟩
    · have hnode := h.elsewhere other hother
      rw [node?_of_locate_file hold, node?_of_locate_file hnew] at hnode
      left
      rw [hold, hnew, Node.file.inj (Option.some.inj hnode)]

/-- A path that leads elsewhere leads to the same entry in both trees. -/
theorem Rewrites.locate_elsewhere (h : Rewrites tree changed place) {path : Path}
    (hpath : tree.placeOf? path ≠ some place) : changed.locate path true = tree.locate path true := by
  rcases locate_alike h path true with hsame | ⟨old, new, hold, _⟩
  · exact hsame
  · exact absurd (by simp [Tree.placeOf?, hold, Except.toOption]) hpath

/-- Discovery finds the same files in both trees. -/
theorem discover_rewrites (h : Rewrites tree changed place) (search : Search) (clock : Clock)
    (start : Nat) (roots : List (Option String)) :
    discover changed search clock start roots = discover tree search clock start roots :=
  discover_resembles h.resembles search clock start roots

/-! ## Writing -/

theorem lookup_map_replaced (entries : List (Place × Node)) (node : Node) (other : Place) :
    (entries.map fun entry => if entry.1 == place then (place, node) else entry).lookup other =
      if other = place then (entries.lookup other).map fun _ => node else entries.lookup other := by
  induction entries with
  | nil => simp
  | cons entry entries ih =>
    obtain ⟨key, value⟩ := entry
    rw [List.map_cons]
    by_cases hother : other = key
    · subst hother
      by_cases hplace : other = place
      · simp [hplace]
      · simp [hplace]
    · have hskip : (other == key) = false := beq_false_of_ne hother
      by_cases hkey : key = place
      · subst hkey
        simp only [beq_self_eq_true, if_true, List.lookup_cons, hskip, ih]
      · simp only [beq_iff_eq, hkey, if_false, List.lookup_cons, hskip]
        simpa only [beq_iff_eq] using ih

/-- Putting bytes into a file that is there changes nothing else. -/
theorem rewrites_put {old : List UInt8} (h : tree.node? place = some (.file old)) (bytes : List UInt8) :
    Rewrites tree (tree.put place (.file bytes)) place := by
  have hplace : place.isEmpty = false := by
    cases place with
    | nil => simp [Tree.node?] at h
    | cons name names => rfl
  have hlookup : tree.entries.lookup place = some (.file old) := by
    simpa [Tree.node?, hplace] using h
  have hput : tree.put place (.file bytes) = { tree with
      entries := tree.entries.map fun entry =>
        if entry.1 == place then (place, .file bytes) else entry } := by
    obtain ⟨entry, hentry, hkey⟩ := List.lookup_isSome_iff.mp (Option.isSome_of_eq_some hlookup)
    rw [Tree.put, if_pos (List.any_eq_true.mpr ⟨entry, hentry, by rwa [BEq.comm]⟩)]
  rw [hput]
  refine ⟨rfl, rfl, fun other => ?_, fun other hother => ?_, old, bytes, h, ?_⟩
  · rw [Tree.namesAt, Tree.namesAt, List.filterMap_map]
    refine List.filterMap_congr fun entry _ => ?_
    by_cases hentry : entry.1 = place <;> simp [hentry]
  · simp only [Tree.node?, lookup_map_replaced, if_neg hother]
  · rw [Tree.node?, hplace, if_neg Bool.false_ne_true, lookup_map_replaced, if_pos rfl, hlookup]
    rfl

/-- A file that is there is written in its place. -/
theorem write_eq_put {path : Path} {old bytes : List UInt8}
    (h : tree.locate path true = .ok (place, .file old)) (hwrites : (tree.write path bytes).1 = none) :
    (tree.write path bytes).2 = tree.put place (.file bytes) := by
  cases hbar : tree.bar? place .write with
  | some bar =>
    simp only [Tree.write, h, hbar] at hwrites
    cases hwrites
  | none =>
    have hfill : tree.write path bytes = tree.fill place bytes := by simp only [Tree.write, h, hbar]
    rw [hfill] at hwrites ⊢
    unfold Tree.fill at hwrites ⊢
    split at hwrites
    · next hroom => rw [if_pos hroom]
    · cases hwrites

end LogAudit
