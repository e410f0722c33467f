import LogAudit.Proofs.MemberNames

/-! # Where cycles are cut

Masking follows the members of a node that are in clear, and the nodes on its way are all different. So
it comes to an end, and a node is cut off where the way comes back to it, while a node that is met again
on another way is written again.

* `Calls`: the values that masking goes on to, and `calls_wellFounded`: it does not go on forever.
* `maskValue_fuel`: fuel beyond the number of nodes that can still be met changes nothing.
* `Json.partAt?`: the part of a document at a place.
* `Leads`: a way through members in clear, with its place in the document and the nodes above its end.
* `partAt?_of_leads`, `leads_of_partAt?`: what stands at a place.
* `maskGraph_cuts_cycles`: all of it together. -/

namespace LogAudit
set_option autoImplicit false

/-! ## Places in a document -/

/-- The values that a value holds: the items of an array, or the values of the members of an object. -/
def Json.parts : Json → List Json
  | .array items => items
  | .object members => members.map (·.2)
  | _ => []

/-- The part of a document that numbers lead to, each of them among the parts of the one before. -/
def Json.partAt? : Json → List Nat → Option Json
  | json, [] => some json
  | json, index :: place => json.parts[index]?.bind (·.partAt? place)

theorem Json.partAt?_append_singleton (json : Json) (place : List Nat) (index : Nat) :
    json.partAt? (place ++ [index]) = (json.partAt? place).bind (·.parts[index]?) := by
  induction place generalizing json with
  | nil => simp [partAt?]
  | cons first place ih =>
    rw [List.cons_append, partAt?, partAt?, Option.bind_assoc]
    exact Option.bind_congr fun part _ => ih part

end LogAudit

namespace LogAudit.Masking
set_option autoImplicit false

variable {graph : Graph} {patterns : List String} {root value : Value} {path seen : Seen}
  {address index : Nat} {node : Node} {json : Json} {place : List Nat}

/-! ## Calls -/

/-- A value that masking goes on to from a node: an item, or a member whose name is not sensitive. -/
inductive Node.Holds (patterns : List String) : Node → Value → Prop
  | entry {entries : List (Key × Value)} {key : Key} {value : Value} :
      (key, value) ∈ entries → ¬ key.ContainsPattern patterns →
      Holds patterns (.mapping entries) value
  | item {node : Node} {value : Value} : value ∈ node.items → Holds patterns node value
  | field {fields : List (String × Value)} {name : String} {value : Value} :
      (name, value) ∈ fields → ¬ ContainsPattern patterns name →
      Holds patterns (.record fields) value

/-- Masking a value below some nodes goes on to a value that it holds, below one node more. -/
inductive Calls (graph : Graph) (patterns : List String) : Value × Seen → Value × Seen → Prop
  | into {address : Nat} {seen : Seen} {node : Node} {value : Value} :
      address ∉ seen → graph[address]? = some node → node.Holds patterns value →
      Calls graph patterns (.node address, seen) (value, address :: seen)

/-- The number of nodes that are not being written. -/
def unwritten (graph : Graph) (seen : Seen) : Nat :=
  (Finset.range graph.length \ seen.toFinset).card

theorem unwritten_nil : unwritten graph [] = graph.length := by
  simp [unwritten]

theorem unwritten_cons (hnew : address ∉ seen) (hnode : graph[address]? = some node) :
    unwritten graph (address :: seen) < unwritten graph seen := by
  obtain ⟨hlt, _⟩ := List.getElem?_eq_some_iff.mp hnode
  refine Finset.card_lt_card ((Finset.ssubset_iff_of_subset ?_).mpr ⟨address, ?_, ?_⟩)
  · exact Finset.sdiff_subset_sdiff (Finset.Subset.refl _) (by simp)
  · simp [hlt, hnew]
  · simp

/-- Calls do not go on forever: each one leaves fewer nodes that can be met. -/
theorem calls_wellFounded (graph : Graph) (patterns : List String) :
    WellFounded fun next call => Calls graph patterns call next := by
  refine Subrelation.wf ?_
    (InvImage.wf (fun call : Value × Seen => unwritten graph call.2) Nat.lt_wfRel.wf)
  rintro next call (⟨hnew, hnode, _⟩)
  exact unwritten_cons hnew hnode

theorem writtenMembers_congr {α : Type} {sensitive : α → Bool} {write write' : Value → Json}
    {members : List (α × Value)}
    (h : ∀ member ∈ members, sensitive member.1 = false → write member.2 = write' member.2) :
    writtenMembers sensitive write members = writtenMembers sensitive write' members := by
  refine List.map_congr_left fun member hmember => ?_
  cases hsensitive : sensitive member.1 with
  | true => rfl
  | false => simp [h member hmember hsensitive]

/-- A node is written by its kind and the values that it holds. -/
theorem writtenNode_congr {write write' : Value → Json}
    (h : ∀ value, node.Holds patterns value → write value = write' value) :
    writtenNode patterns write node = writtenNode patterns write' node := by
  cases node with
  | mapping entries =>
    refine congrArg mappingJson (writtenMembers_congr fun entry hentry hclear => h _ (.entry hentry ?_))
    simp [← Key.isSensitive_iff, hclear]
  | sequence items | collection items =>
    exact congrArg Json.array (List.map_congr_left fun item hitem => h _ (.item hitem))
  | record fields =>
    refine congrArg Json.object (writtenMembers_congr fun field hfield hclear => h _ (.field hfield ?_))
    simp [← isSensitive_iff, hclear]
  | printed text => rfl

theorem maskValue_node (fuel : Nat) (hnew : address ∉ seen) (hnode : graph[address]? = some node) :
    maskValue graph patterns (fuel + 1) (.node address) seen =
      (writtenNode patterns (fun value => (maskValue graph patterns fuel value (address :: seen)).1) node,
        seen) := by
  rw [maskValue, if_neg (by simpa using hnew), hnode]
  dsimp only
  rw [maskNode_eq (maskValue_seen graph patterns fuel)]
  simp

/-- Fuel beyond the number of nodes that are not being written changes nothing. -/
theorem maskValue_fuel (graph : Graph) (patterns : List String) (value : Value) (seen : Seen)
    {fuel : Nat} (hfuel : unwritten graph seen < fuel) :
    maskValue graph patterns fuel value seen =
      maskValue graph patterns (unwritten graph seen + 1) value seen := by
  -- along the calls, of which there are no infinitely many below each other
  suffices h : ∀ call : Value × Seen, ∀ more less, unwritten graph call.2 < more →
      unwritten graph call.2 < less →
        maskValue graph patterns more call.1 call.2 = maskValue graph patterns less call.1 call.2 from
    h (value, seen) _ _ hfuel (Nat.lt_succ_self _)
  intro call
  induction call using (calls_wellFounded graph patterns).induction with
  | _ call ih =>
    obtain ⟨value, seen⟩ := call
    intro more less hmore hless
    dsimp only at hmore hless ⊢
    obtain ⟨more, rfl⟩ := Nat.exists_eq_succ_of_ne_zero (Nat.ne_zero_of_lt hmore)
    obtain ⟨less, rfl⟩ := Nat.exists_eq_succ_of_ne_zero (Nat.ne_zero_of_lt hless)
    cases value with
    | node address =>
      by_cases hmem : address ∈ seen
      · simp [maskValue, hmem]
      · cases hnode : graph[address]? with
        | none => simp [maskValue, hmem, hnode]
        | some node =>
          have hfewer := unwritten_cons hmem hnode
          rw [maskValue_node _ hmem hnode, maskValue_node _ hmem hnode]
          refine Prod.ext (writtenNode_congr fun value hvalue => ?_) rfl
          have hmore' : unwritten graph (address :: seen) < more := by omega
          have hless' : unwritten graph (address :: seen) < less := by omega
          rw [ih (value, address :: seen) (.into hmem hnode hvalue) more less hmore' hless']
    | _ => rfl

/-! ## The parts of a node -/

/-- The places of written entries, in the order in which they are first put. -/
def writtenPlaces {α : Type} (entries : List (Key × α)) : List (Int ⊕ String) :=
  (entries.map (·.1.place)).reverse.dedup.reverse

section Places

variable {α : Type} {entries : List (Key × α)} {new : Key × α}

theorem mem_writtenPlaces_iff {place : Int ⊕ String} :
    place ∈ writtenPlaces entries ↔ place ∈ entries.map (·.1.place) := by
  simp only [writtenPlaces, List.mem_reverse, List.mem_dedup]

theorem writtenPlaces_of_mem (h : new.1.place ∈ writtenPlaces entries) :
    writtenPlaces (entries ++ [new]) = writtenPlaces entries := by
  rw [mem_writtenPlaces_iff, ← List.mem_reverse] at h
  rw [writtenPlaces, List.map_append, List.map_singleton, List.reverse_append, List.reverse_singleton,
    List.singleton_append, List.dedup_cons_of_mem h, writtenPlaces]

theorem writtenPlaces_of_not_mem (h : new.1.place ∉ writtenPlaces entries) :
    writtenPlaces (entries ++ [new]) = writtenPlaces entries ++ [new.1.place] := by
  rw [mem_writtenPlaces_iff, ← List.mem_reverse] at h
  rw [writtenPlaces, List.map_append, List.map_singleton, List.reverse_append, List.reverse_singleton,
    List.singleton_append, List.dedup_cons_of_notMem h, List.reverse_cons, writtenPlaces]

end Places

/-- The value of the last entry of a place. -/
def lastAt {α : Type} (entries : List (Key × α)) (place : Int ⊕ String) : Option α :=
  (entriesAt entries place).getLast?.map (·.2)

theorem lastAt_append_singleton {α : Type} (entries : List (Key × α)) (new : Key × α)
    (place : Int ⊕ String) :
    lastAt (entries ++ [new]) place =
      if new.1.place = place then some new.2 else lastAt entries place := by
  rw [lastAt, entriesAt_append_singleton]
  split
  · rw [List.getLast?_concat]
    rfl
  · rfl

/-- Written entries are those of the places in order, each with the value of its last entry. -/
theorem map_foldl_putWritten (entries : List (Key × Json)) :
    (entries.foldl (fun kept entry => putWritten kept entry.1.written entry.2) []).map
        (fun written => (written.1.place, some written.2)) =
      (writtenPlaces entries).map fun place => (place, lastAt entries place) := by
  induction entries using List.reverseRecOn with
  | nil => rfl
  | append_singleton entries new ih =>
    rw [List.foldl_append, List.foldl_cons, List.foldl_nil]
    set kept := entries.foldl (fun kept entry => putWritten kept entry.1.written entry.2) []
    have hkept : ∀ old ∈ kept, (old.1.same new.1.written = true ↔ old.1.place = new.1.place) := by
      intro ⟨old, json⟩ hold
      obtain ⟨first, -, rfl⟩ :=
        Option.map_eq_some_iff.mp ((mem_foldl_putWritten_iff entries old json).mp hold).1
      rw [← Key.same_written_iff, first.1.written_written]
    have hplaces : kept.map (·.1.place) = writtenPlaces entries := by
      have hfirst := congrArg (List.map (·.1)) ih
      simpa [List.map_map, Function.comp_def] using hfirst
    have hany : (kept.any fun old => old.1.same new.1.written) = true ↔
        new.1.place ∈ writtenPlaces entries := by
      rw [List.any_eq_true, ← hplaces, List.mem_map]
      exact exists_congr fun old => and_congr_right fun hold => hkept old hold
    rw [putWritten]
    by_cases hmem : new.1.place ∈ writtenPlaces entries
    · rw [if_pos (hany.mpr hmem), writtenPlaces_of_mem hmem, List.map_map]
      let replace := fun written : (Int ⊕ String) × Option Json =>
        if new.1.place = written.1 then (written.1, some new.2) else written
      have hsame := congrArg (List.map replace) ih
      rw [List.map_map, List.map_map] at hsame
      refine Eq.trans (List.map_congr_left fun old hold => ?_) (hsame.trans (List.map_congr_left ?_))
      · by_cases hplace : old.1.place = new.1.place
        · simp [replace, hplace, (hkept old hold).mpr hplace]
        · have hdiffer : ¬ old.1.same new.1.written = true := mt (hkept old hold).mp hplace
          simp [replace, Ne.symm hplace, hdiffer]
      · intro place _
        by_cases hplace : new.1.place = place
        · simp [replace, lastAt_append_singleton, hplace]
        · simp [replace, lastAt_append_singleton, hplace]
    · rw [if_neg (mt hany.mp hmem), writtenPlaces_of_not_mem hmem, List.map_append, List.map_append, ih]
      refine congrArg₂ (· ++ ·) (List.map_congr_left fun place hplace => ?_) ?_
      · rw [lastAt_append_singleton, if_neg (ne_of_mem_of_not_mem hplace hmem).symm]
      · simp [lastAt_append_singleton, Key.place_written]

theorem map_snd_foldl_putWritten (entries : List (Key × Json)) :
    (entries.foldl (fun kept entry => putWritten kept entry.1.written entry.2) []).map (·.2) =
      (writtenPlaces entries).filterMap (lastAt entries) := by
  have hvalues := congrArg (List.filterMap (·.2)) (map_foldl_putWritten entries)
  simpa [List.filterMap_map, Function.comp_def, List.filterMap_eq_map'] using hvalues

/-- The parts of a node in the order in which they are written: the values in clear, and nothing for
those that are masked. Of the entries of a place the last one is written. -/
def Node.parts (patterns : List String) : Node → List (Option Value)
  | .mapping entries => (writtenPlaces entries).filterMap fun place =>
    (entriesAt entries place).getLast?.map fun entry =>
      if entry.1.isSensitive patterns then none else some entry.2
  | .sequence items | .collection items => items.map some
  | .record fields => fields.map fun field =>
    if isSensitive patterns field.1 then none else some field.2
  | .printed _ => []

theorem writtenPlaces_writtenMembers (sensitive : Key → Bool) (write : Value → Json)
    (entries : List (Key × Value)) :
    writtenPlaces (writtenMembers sensitive write entries) = writtenPlaces entries := by
  simp [writtenPlaces, writtenMembers, Function.comp_def]

theorem parts_writtenNode (patterns : List String) (write : Value → Json) (node : Node) :
    (writtenNode patterns write node).parts =
      (node.parts patterns).map fun part => part.elim mask write := by
  have helim : ∀ (hidden : Bool) (value : Value),
      (if hidden then none else some value).elim mask write = if hidden then mask else write value := by
    intro hidden value
    cases hidden <;> rfl
  cases node with
  | mapping entries =>
    rw [writtenNode, mappingJson, Json.parts, List.map_map]
    refine Eq.trans (map_snd_foldl_putWritten _) ?_
    rw [writtenPlaces_writtenMembers, Node.parts, List.map_filterMap]
    refine List.filterMap_congr fun place _ => ?_
    rw [lastAt, entriesAt_writtenMembers, writtenMembers, List.getLast?_map, Option.map_map,
      Option.map_map]
    simp only [Function.comp_def, helim]
  | sequence items | collection items => simp [writtenNode, Json.parts, Node.parts]
  | record fields => simp [writtenNode, Json.parts, Node.parts, writtenMembers, helim, Function.comp_def]
  | printed text => rfl

/-! ## Ways -/

/-- A way from the root through values in clear. It has a place in the document, and it goes on from a
node only if it has not been there before. The nodes above its end are given with it, the innermost
first. -/
inductive Leads (graph : Graph) (patterns : List String) (root : Value) :
    List Nat → Value → Seen → Prop
  | root : Leads graph patterns root [] root []
  | into {place : List Nat} {address index : Nat} {path : Seen} {node : Node} {value : Value} :
      Leads graph patterns root place (.node address) path → address ∉ path →
      graph[address]? = some node → (node.parts patterns)[index]? = some (some value) →
      Leads graph patterns root (place ++ [index]) value (address :: path)

theorem Leads.isPath (h : Leads graph patterns root place value path) : IsPath graph path := by
  induction h with
  | root => exact .nil
  | into _ hnew hnode _ ih => exact ih.cons hnew hnode

/-- What stands at the end of a way is its value as it is written below the nodes of the way. -/
theorem partAt?_of_leads (h : Leads graph patterns root place value path) :
    (maskGraph graph patterns root).partAt? place = some (writtenAt graph patterns path value) := by
  induction h with
  | root => rfl
  | into hleads hnew hnode hpart ih =>
    rw [Json.partAt?_append_singleton, ih, Option.bind_some, writtenAt_node hleads.isPath hnew hnode,
      parts_writtenNode, List.getElem?_map, hpart]
    rfl

theorem parts_writtenAt (hpath : IsPath graph path)
    (h : (writtenAt graph patterns path value).parts[index]? = some json) :
    ∃ address node, value = .node address ∧ address ∉ path ∧ graph[address]? = some node := by
  cases value with
  | node address =>
    by_cases hmem : address ∈ path
    · simp [writtenAt_circular hmem, circular, Json.parts] at h
    · cases hnode : graph[address]? with
      | none => simp [writtenAt_missing hpath hmem hnode, Json.parts] at h
      | some node => exact ⟨address, node, rfl, hmem, hnode⟩
  | _ => simp [writtenAt, maskValue, Json.parts] at h

/-- Every place of the document is the end of a way, or a mask stands there. -/
theorem leads_of_partAt? (h : (maskGraph graph patterns root).partAt? place = some json) :
    (∃ value path, Leads graph patterns root place value path ∧
      json = writtenAt graph patterns path value) ∨ json = mask := by
  induction place using List.reverseRecOn generalizing json with
  | nil => exact Or.inl ⟨root, [], .root, (Option.some.inj h).symm⟩
  | append_singleton place index ih =>
    rw [Json.partAt?_append_singleton] at h
    obtain ⟨above, habove, hpart⟩ := Option.bind_eq_some_iff.mp h
    rcases ih habove with ⟨value, path, hleads, rfl⟩ | rfl
    · obtain ⟨address, node, rfl, hnew, hnode⟩ := parts_writtenAt hleads.isPath hpart
      rw [writtenAt_node hleads.isPath hnew hnode, parts_writtenNode, List.getElem?_map,
        Option.map_eq_some_iff] at hpart
      obtain ⟨part, hpart, rfl⟩ := hpart
      cases part with
      | none => exact Or.inr rfl
      | some value => exact Or.inl ⟨value, _, .into hleads hnew hnode hpart, rfl⟩
    · simp [mask, Json.parts] at hpart

/-! ## Cycles -/

/-- A value that is written as a text: the text itself, or a node that is known by its text only. -/
def Value.Spells (graph : Graph) (text : String) (value : Value) : Prop :=
  value = .text text ∨ ∃ address, value = .node address ∧ graph[address]? = some (.printed text)

theorem writtenAt_eq_circular_iff (hpath : IsPath graph path) :
    writtenAt graph patterns path value = circular ↔
      (∃ address ∈ path, value = .node address) ∨ value.Spells graph "[Circular Reference]" := by
  cases value with
  | node address =>
    by_cases hmem : address ∈ path
    · simp [writtenAt_circular hmem, hmem]
    · cases hnode : graph[address]? with
      | none => simp [writtenAt_missing hpath hmem hnode, circular, hmem, Value.Spells, hnode]
      | some node =>
        have hkind : writtenNode patterns (writtenAt graph patterns (address :: path)) node = circular ↔
            node = .printed "[Circular Reference]" := by
          cases node <;> simp [writtenNode, mappingJson, circular]
        simp [writtenAt_node hpath hmem hnode, hkind, hmem, Value.Spells, hnode]
  | _ => simp [writtenAt, maskValue, circular, Value.Spells]

/-- The mark of a cycle stands where a way comes back to one of its nodes, and nowhere else unless a
value spells it. -/
theorem partAt?_eq_circular_iff :
    (maskGraph graph patterns root).partAt? place = some circular ↔
      (∃ address path, Leads graph patterns root place (.node address) path ∧ address ∈ path) ∨
        ∃ value path, Leads graph patterns root place value path ∧
          value.Spells graph "[Circular Reference]" := by
  constructor
  · intro h
    rcases leads_of_partAt? h with ⟨value, path, hleads, hmark⟩ | hmask
    · rcases (writtenAt_eq_circular_iff hleads.isPath).mp hmark.symm with ⟨address, hmem, rfl⟩ | hspells
      · exact Or.inl ⟨address, path, hleads, hmem⟩
      · exact Or.inr ⟨value, path, hleads, hspells⟩
    · simp [circular, mask] at hmask
  · rintro (⟨address, path, hleads, hmem⟩ | ⟨value, path, hleads, hspells⟩)
    · rw [partAt?_of_leads hleads, writtenAt_circular hmem]
    · rw [partAt?_of_leads hleads, (writtenAt_eq_circular_iff hleads.isPath).mpr (Or.inr hspells)]

/-- Masking comes to an end on every graph, and every step gives back the addresses that it was given.
The mark of a cycle stands exactly where a way through values in clear comes back to a node above it, and
where a value spells it; at every other place of a node, the node is written. -/
theorem maskGraph_cuts_cycles (graph : Graph) (patterns : List String) (root : Value) :
    (WellFounded fun next call => Calls graph patterns call next) ∧
    (∀ fuel, graph.length < fuel →
      maskValue graph patterns fuel root [] = (maskGraph graph patterns root, [])) ∧
    (∀ fuel value seen, (maskValue graph patterns fuel value seen).2 = seen) ∧
    (∀ place, (maskGraph graph patterns root).partAt? place = some circular ↔
      (∃ address path, Leads graph patterns root place (.node address) path ∧ address ∈ path) ∨
        ∃ value path, Leads graph patterns root place value path ∧
          value.Spells graph "[Circular Reference]") ∧
    ∀ place address path node, Leads graph patterns root place (.node address) path →
      address ∉ path → graph[address]? = some node →
        (maskGraph graph patterns root).partAt? place =
          some (writtenNode patterns (writtenAt graph patterns (address :: path)) node) := by
  refine ⟨calls_wellFounded graph patterns, fun fuel hfuel => ?_, maskValue_seen graph patterns,
    fun place => partAt?_eq_circular_iff, fun place address path node hleads hnew hnode => ?_⟩
  · have henough : unwritten graph [] < fuel := by rwa [unwritten_nil]
    rw [maskValue_fuel graph patterns root [] henough, unwritten_nil]
    exact Prod.ext rfl (maskValue_seen graph patterns _ root [])
  · rw [partAt?_of_leads hleads, writtenAt_node hleads.isPath hnew hnode]

/-- A record that refers to itself, twice to a list that refers back to it, and once under a sensitive
name. -/
def tangled : Graph :=
  [.record [("me", .node 0), ("one", .node 1), ("two", .node 1), ("pin", .node 0)],
    .sequence [.node 0, .int 7]]

theorem parts_tangled :
    (Node.record [("me", .node 0), ("one", .node 1), ("two", .node 1), ("pin", .node 0)]).parts ["pin"] =
      [some (.node 0), some (.node 1), some (.node 1), none] := by
  have hclear : ["me", "one", "two"].map (isSensitive ["pin"]) = [false, false, false] := by
    decide +kernel
  have hpin : isSensitive ["pin"] "pin" = true := by decide +kernel
  simp only [List.map_cons, List.map_nil, List.cons.injEq] at hclear
  simp [Node.parts, hclear, hpin]

/-- The record is cut off below itself, and the list is written in both places. -/
theorem maskGraph_cuts_cycles_tangled :
    (maskGraph tangled ["pin"] (.node 0)).partAt? [0] = some circular ∧
      (maskGraph tangled ["pin"] (.node 0)).partAt? [1] = some (.array [circular, .int 7]) ∧
      (maskGraph tangled ["pin"] (.node 0)).partAt? [2] = some (.array [circular, .int 7]) := by
  obtain ⟨-, -, -, hcircular, hwritten⟩ := maskGraph_cuts_cycles tangled ["pin"] (.node 0)
  have hroot : Leads tangled ["pin"] (.node 0) [] (.node 0) [] := .root
  have hstep : ∀ {index value}, [some (.node 0), some (.node 1), some (.node 1), none][index]? =
      some (some value) → Leads tangled ["pin"] (.node 0) [index] value [0] :=
    fun hpart => hroot.into (by simp) rfl (by rw [parts_tangled]; exact hpart)
  have hlist : Json.array [circular, .int 7] =
      writtenNode ["pin"] (writtenAt tangled ["pin"] [1, 0]) (.sequence [.node 0, .int 7]) := rfl
  refine ⟨(hcircular [0]).mpr (Or.inl ⟨0, [0], hstep rfl, by simp⟩), ?_, ?_⟩
  · rw [hlist]
    exact hwritten [1] 1 [0] _ (hstep rfl) (by simp) rfl
  · rw [hlist]
    exact hwritten [2] 1 [0] _ (hstep rfl) (by simp) rfl

end LogAudit.Masking
