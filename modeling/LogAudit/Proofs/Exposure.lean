import LogAudit.Proofs.Documents
import LogAudit.Proofs.MemberNames

/-! # Values in clear under sensitive names

A key is tested before it turns into text, and only text is tested. So a key that is no text is written
with its value even where its name contains a pattern.

* `Visible`: the values that are written.
* `Met`: a visible value with the nodes above it, none of them twice.
* `names_of_hasMember`, `hasMember_of_met`: where the members of the text come from.
* `clear_member_iff`: the members of the text that are in clear.
* `serialize_clear_members`: those of them that have a sensitive name. -/

namespace LogAudit.Masking
set_option autoImplicit false

variable {graph : Graph} {patterns : List String} {root value : Value} {path : Seen} {address : Nat}
  {node : Node} {name : String} {json : Json}

/-! ## The members of a node -/

/-- A member of a node whose value is written, and its name. -/
inductive Node.Names (patterns : List String) : Node → String → Value → Prop
  | entry {entries : List (Key × Value)} {name : String} {entry : Key × Value} :
      WrittenAs entries name entry → ¬ entry.1.ContainsPattern patterns →
      Names patterns (.mapping entries) name entry.2
  | field {fields : List (String × Value)} {name : String} {value : Value} :
      (name, value) ∈ fields → ¬ ContainsPattern patterns name →
      Names patterns (.record fields) name value

/-- A value that is written as a part of a node. -/
inductive Node.Shows (patterns : List String) : Node → Value → Prop
  | member {node : Node} {name : String} {value : Value} :
      node.Names patterns name value → Shows patterns node value
  | item {node : Node} {value : Value} : value ∈ node.items → Shows patterns node value

theorem mem_writtenMembers_iff {sensitive : String → Bool} {write : Value → Json}
    {fields : List (String × Value)} :
    (name, json) ∈ writtenMembers sensitive write fields ↔
      ∃ value, (name, value) ∈ fields ∧ json = if sensitive name then mask else write value := by
  simp only [writtenMembers, List.mem_map, Prod.mk.injEq, Prod.exists]
  constructor
  · rintro ⟨_, value, hmem, rfl, rfl⟩
    exact ⟨value, hmem, rfl⟩
  · rintro ⟨value, hmem, rfl⟩
    exact ⟨name, value, hmem, rfl, rfl⟩

theorem mem_members_of_names {write : Value → Json} (h : node.Names patterns name value) :
    (name, write value) ∈ (writtenNode patterns write node).members := by
  cases h with
  | entry hwritten hclear =>
    rw [writtenNode, mem_mappingJson_iff]
    exact ⟨_, hwritten, (if_neg (mt Key.isSensitive_iff.mp hclear)).symm⟩
  | field hfield hclear =>
    rw [writtenNode, Json.members, mem_writtenMembers_iff]
    exact ⟨_, hfield, (if_neg (mt isSensitive_iff.mp hclear)).symm⟩

theorem names_of_mem_members {write : Value → Json}
    (h : (name, json) ∈ (writtenNode patterns write node).members) (hjson : json ≠ mask) :
    ∃ value, node.Names patterns name value ∧ json = write value := by
  cases node with
  | mapping entries =>
    obtain ⟨entry, hwritten, rfl⟩ := mem_mappingJson_iff.mp h
    split at hjson
    · exact absurd rfl hjson
    next hclear =>
      rw [if_neg hclear]
      exact ⟨entry.2, .entry hwritten (mt Key.isSensitive_iff.mpr hclear), rfl⟩
  | record fields =>
    obtain ⟨value, hfield, rfl⟩ := mem_writtenMembers_iff.mp h
    split at hjson
    · exact absurd rfl hjson
    next hclear =>
      rw [if_neg hclear]
      exact ⟨value, .field hfield (mt isSensitive_iff.mpr hclear), rfl⟩
  | sequence items | collection items => simp [writtenNode, Json.members] at h
  | printed text => simp [writtenNode, Json.members] at h

theorem writtenNode_of_mem_items {write : Value → Json} (h : value ∈ node.items) :
    writtenNode patterns write node = .array (node.items.map write) := by
  cases node with
  | sequence items | collection items => rfl
  | _ => cases h

theorem hasMember_of_shows {write : Value → Json} (h : node.Shows patterns value)
    (hmember : (write value).HasMember name json) :
    (writtenNode patterns write node).HasMember name json := by
  cases h with
  | member hnames => exact Json.hasMember_of_inner (mem_members_of_names hnames) hmember
  | item hitem =>
    rw [writtenNode_of_mem_items hitem]
    exact .item (List.mem_map_of_mem hitem) hmember

theorem not_hasMember_string {text : String} : ¬ (Json.string text).HasMember name json :=
  Json.not_hasMember (by simp [Json.shape]) (by simp [Json.shape])

theorem hasMember_writtenNode {write : Value → Json}
    (h : (writtenNode patterns write node).HasMember name json) (hjson : json ≠ mask) :
    (∃ value, node.Names patterns name value ∧ json = write value) ∨
      ∃ value, node.Shows patterns value ∧ (write value).HasMember name json := by
  generalize hwritten : writtenNode patterns write node = written at h
  cases h with
  | here hmem =>
    exact .inl (names_of_mem_members (by rw [hwritten]; exact hmem) hjson)
  | @member _ inner _ _ hmem hinner =>
    have hclear : inner.2 ≠ mask := fun heq => not_hasMember_string (heq ▸ hinner)
    obtain ⟨value, hnames, heq⟩ := names_of_mem_members (by rw [hwritten]; exact hmem) hclear
    exact .inr ⟨value, .member hnames, heq ▸ hinner⟩
  | item hmem hinner =>
    cases node with
    | sequence items | collection items =>
      cases hwritten
      obtain ⟨value, hvalue, rfl⟩ := List.mem_map.mp hmem
      exact .inr ⟨value, .item hvalue, hinner⟩
    | mapping entries => simp [writtenNode, mappingJson] at hwritten
    | record fields => simp [writtenNode] at hwritten
    | printed text => simp [writtenNode] at hwritten

/-! ## Values that are met -/

/-- A value that is written somewhere in the text. -/
inductive Visible (graph : Graph) (patterns : List String) (root : Value) : Value → Prop
  | root : Visible graph patterns root root
  | shown {address : Nat} {node : Node} {value : Value} :
      Visible graph patterns root (.node address) → graph[address]? = some node →
      node.Shows patterns value → Visible graph patterns root value

/-- A value that is written below a path of nodes, none of which is met twice. -/
inductive Met (graph : Graph) (patterns : List String) (root : Value) : Value → Seen → Prop
  | root : Met graph patterns root root []
  | inside {path : Seen} {address : Nat} {node : Node} {value : Value} :
      Met graph patterns root (.node address) path → address ∉ path →
      graph[address]? = some node → node.Shows patterns value →
      Met graph patterns root value (address :: path)

theorem Met.isPath (h : Met graph patterns root value path) : IsPath graph path := by
  induction h with
  | root => exact .nil
  | inside _ hnew hnode _ ih => exact ih.cons hnew hnode

theorem Met.visible (h : Met graph patterns root value path) : Visible graph patterns root value := by
  induction h with
  | root => exact .root
  | inside _ _ hnode hshows ih => exact .shown ih hnode hshows

theorem Met.shows_of_mem (h : Met graph patterns root value path) (hmem : address ∈ path) :
    ∃ node shown, graph[address]? = some node ∧ node.Shows patterns shown := by
  induction h with
  | root => simp at hmem
  | inside _ _ hnode hshows ih =>
    rcases List.mem_cons.mp hmem with rfl | hmem
    · exact ⟨_, _, hnode, hshows⟩
    · exact ih hmem

theorem Met.exists_of_mem (h : Met graph patterns root value path) (hmem : address ∈ path) :
    ∃ above, Met graph patterns root (.node address) above ∧ address ∉ above := by
  induction h with
  | root => simp at hmem
  | inside hmet hnew _ _ ih =>
    rcases List.mem_cons.mp hmem with rfl | hmem
    · exact ⟨_, hmet, hnew⟩
    · exact ih hmem

/-- A way that comes back to a node is cut short at the first time it meets the node. -/
theorem Met.exists_fresh (h : Met graph patterns root (.node address) path) :
    ∃ above, Met graph patterns root (.node address) above ∧ address ∉ above := by
  by_cases hmem : address ∈ path
  · exact h.exists_of_mem hmem
  · exact ⟨path, h, hmem⟩

theorem Visible.met (h : Visible graph patterns root value) :
    ∃ path, Met graph patterns root value path := by
  induction h with
  | root => exact ⟨[], .root⟩
  | shown _ hnode hshows ih =>
    obtain ⟨path, hmet⟩ := ih
    obtain ⟨above, habove, hnew⟩ := hmet.exists_fresh
    exact ⟨_, .inside habove hnew hnode hshows⟩

/-! ## The members of the text -/

theorem node_of_hasMember (hpath : IsPath graph path)
    (h : (writtenAt graph patterns path value).HasMember name json) :
    ∃ address node, value = .node address ∧ address ∉ path ∧ graph[address]? = some node := by
  cases value with
  | node address =>
    by_cases hmem : address ∈ path
    · rw [writtenAt_circular hmem] at h
      exact absurd h not_hasMember_string
    · cases hnode : graph[address]? with
      | none =>
        rw [writtenAt_missing hpath hmem hnode] at h
        exact absurd h (Json.not_hasMember (by simp [Json.shape]) (by simp [Json.shape]))
      | some node => exact ⟨address, node, rfl, hmem, hnode⟩
  | _ =>
    rw [writtenAt, maskValue] at h
    exact absurd h (Json.not_hasMember (by simp [Json.shape]) (by simp [Json.shape]))

theorem names_of_hasMember {value : Value} {path : Seen} (hmet : Met graph patterns root value path)
    (h : (writtenAt graph patterns path value).HasMember name json) (hjson : json ≠ mask) :
    ∃ address node above value, Met graph patterns root (.node address) above ∧ address ∉ above ∧
      graph[address]? = some node ∧ node.Names patterns name value ∧
      json = writtenAt graph patterns (address :: above) value := by
  obtain ⟨address, node, rfl, hnew, hnode⟩ := node_of_hasMember hmet.isPath h
  rw [writtenAt_node hmet.isPath hnew hnode] at h
  rcases hasMember_writtenNode h hjson with ⟨value, hnames, rfl⟩ | ⟨value, hshows, hinner⟩
  · exact ⟨address, node, path, value, hmet, hnew, hnode, hnames, rfl⟩
  · -- the path grows by a node, and has no more nodes than the graph
    have hlength : path.length + 1 ≤ graph.length := (hmet.isPath.cons hnew hnode).length_le
    exact names_of_hasMember (.inside hmet hnew hnode hshows) hinner hjson
termination_by graph.length - path.length

theorem hasMember_of_met (hmet : Met graph patterns root value path)
    (h : (writtenAt graph patterns path value).HasMember name json) :
    (maskGraph graph patterns root).HasMember name json := by
  induction hmet with
  | root => exact h
  | inside hmet hnew hnode hshows ih =>
    refine ih ?_
    rw [writtenAt_node hmet.isPath hnew hnode]
    exact hasMember_of_shows hshows h

/-- A value whose own written form is the mask. -/
def Value.IsMask (graph : Graph) (value : Value) : Prop :=
  value = .text "***" ∨ ∃ address, value = .node address ∧ graph[address]? = some (.printed "***")

theorem writtenNode_eq_mask_iff {write : Value → Json} :
    writtenNode patterns write node = mask ↔ node = .printed "***" := by
  cases node <;> simp [writtenNode, mappingJson, mask]

theorem writtenAt_eq_mask_iff (hmet : Met graph patterns root value path) :
    writtenAt graph patterns path value = mask ↔ value.IsMask graph := by
  cases value with
  | node address =>
    by_cases hmem : address ∈ path
    · obtain ⟨node, shown, hnode, hshows⟩ := hmet.shows_of_mem hmem
      rw [writtenAt_circular hmem]
      refine ⟨fun h => by simp [circular, mask] at h, ?_⟩
      rintro (h | ⟨_, h, hprinted⟩)
      · cases h
      · cases h
        cases hnode.symm.trans hprinted
        cases hshows with
        | member hnames => cases hnames
        | item hitem => cases hitem
    · cases hnode : graph[address]? with
      | none => simp [writtenAt_missing hmet.isPath hmem hnode, Value.IsMask, mask, hnode]
      | some node =>
        rw [writtenAt_node hmet.isPath hmem hnode, writtenNode_eq_mask_iff]
        simp [Value.IsMask, hnode]
  | _ => simp [writtenAt, maskValue, Value.IsMask, mask]

theorem clear_member_iff :
    (∃ json, (maskGraph graph patterns root).HasMember name json ∧ json ≠ mask) ↔
      ∃ address node value, Visible graph patterns root (.node address) ∧
        graph[address]? = some node ∧ node.Names patterns name value ∧ ¬ value.IsMask graph := by
  constructor
  · rintro ⟨json, hmember, hjson⟩
    obtain ⟨address, node, above, value, hmet, hnew, hnode, hnames, rfl⟩ :=
      names_of_hasMember .root hmember hjson
    have hinside := Met.inside hmet hnew hnode (.member hnames)
    exact ⟨address, node, value, hmet.visible, hnode, hnames,
      mt (writtenAt_eq_mask_iff hinside).mpr hjson⟩
  · rintro ⟨address, node, value, hvisible, hnode, hnames, hclear⟩
    obtain ⟨_, hmet⟩ := hvisible.met
    obtain ⟨path, hmet, hnew⟩ := hmet.exists_fresh
    have hinside := Met.inside hmet hnew hnode (.member hnames)
    refine ⟨writtenAt graph patterns (address :: path) value, hasMember_of_met hmet ?_,
      mt (writtenAt_eq_mask_iff hinside).mp hclear⟩
    rw [writtenAt_node hmet.isPath hnew hnode]
    exact Json.hasMember_of_mem_members (mem_members_of_names hnames)

/-! ## Sensitive names -/

def Key.IsText (key : Key) : Prop := ∃ text, key = .text text

theorem name_of_place_text {entries : List (Key × Value)} {entry : Key × Value} {text : String}
    (h : WrittenAs entries name entry) (hplace : entry.1.place = .inr text) : name = text := by
  obtain ⟨first, hfirst, rfl⟩ := Option.map_eq_some_iff.mp h.first
  have hmeets := place_of_mem_entriesAt (List.mem_of_head? hfirst)
  exact Key.memberName_of_place (hmeets.trans hplace)

theorem names_sensitive_iff (hname : ContainsPattern patterns name) :
    node.Names patterns name value ↔
      ∃ entries entry, node = .mapping entries ∧ WrittenAs entries name entry ∧
        ¬ entry.1.IsText ∧ entry.2 = value := by
  constructor
  · intro h
    cases h with
    | @entry entries _ entry hwritten hclear =>
      refine ⟨entries, entry, rfl, hwritten, ?_, rfl⟩
      rintro ⟨text, htext⟩
      have hsame : name = text := name_of_place_text hwritten (by rw [htext]; rfl)
      exact hclear ⟨text, htext, hsame ▸ hname⟩
    | field _ hclear => exact absurd hname hclear
  · rintro ⟨entries, entry, rfl, hwritten, htext, rfl⟩
    refine .entry hwritten ?_
    rintro ⟨text, heq, -⟩
    exact htext ⟨text, heq⟩

/-- Either the entry that gives the value of a member has its name, or the first entry of their place
is a number too. -/
theorem exists_key_of_writtenAs {entries : List (Key × Value)} {entry : Key × Value}
    (h : WrittenAs entries name entry) (htext : ¬ entry.1.IsText) :
    ∃ other ∈ entries, ¬ other.1.IsText ∧ other.1.memberName = name := by
  have hentry : entry ∈ entries := List.mem_of_mem_filter (List.mem_of_getLast? h.last)
  cases hplace : entry.1.place with
  | inr text =>
    exact ⟨entry, hentry, htext, by
      rw [name_of_place_text h hplace, Key.memberName_of_place hplace]⟩
  | inl number =>
    obtain ⟨first, hfirst, hname⟩ := Option.map_eq_some_iff.mp h.first
    have hmem := List.mem_of_head? hfirst
    refine ⟨first, List.mem_of_mem_filter hmem, ?_, hname⟩
    rintro ⟨text, heq⟩
    have hmeets := (place_of_mem_entriesAt hmem).trans hplace
    rw [heq] at hmeets
    cases hmeets

theorem clear_sensitive_iff (hname : ContainsPattern patterns name) :
    (∃ json, (maskGraph graph patterns root).HasMember name json ∧ json ≠ mask) ↔
      ∃ address entries entry, Visible graph patterns root (.node address) ∧
        graph[address]? = some (.mapping entries) ∧ WrittenAs entries name entry ∧
        ¬ entry.1.IsText ∧ ¬ entry.2.IsMask graph := by
  rw [clear_member_iff]
  constructor
  · rintro ⟨address, node, value, hvisible, hnode, hnames, hclear⟩
    obtain ⟨entries, entry, rfl, hwritten, htext, rfl⟩ := (names_sensitive_iff hname).mp hnames
    exact ⟨address, entries, entry, hvisible, hnode, hwritten, htext, hclear⟩
  · rintro ⟨address, entries, entry, hvisible, hnode, hwritten, htext, hclear⟩
    have hnames := (names_sensitive_iff hname).mpr ⟨entries, entry, rfl, hwritten, htext, rfl⟩
    exact ⟨address, .mapping entries, entry.2, hvisible, hnode, hnames, hclear⟩

theorem clear_of_sameMembers {document other : Json} (h : document.SameMembers other)
    (hclear : ∃ json, document.HasMember name json ∧ json ≠ mask) :
    ∃ json, other.HasMember name json ∧ json ≠ mask := by
  obtain ⟨json, hmember, hjson⟩ := hclear
  obtain ⟨json', hmember', hstring⟩ := h.member hmember
  exact ⟨json', hmember', mt (hstring "***").mpr hjson⟩

/-- A document in which every member with a sensitive name is masked. -/
def MembersMasked (patterns : List String) (document : Json) : Prop :=
  ∀ name json, document.HasMember name json → ContainsPattern patterns name → json = mask

/-- A text has a member in clear under a sensitive name exactly where a key that is no text is
written under that name. -/
theorem serialize_clear_members (graph : Graph) (patterns : List String) (root : Value)
    (document : Json) (h : document.text ⟨true, true⟩ = serialize graph patterns root) :
    (∀ name, ContainsPattern patterns name →
      ((∃ json, document.HasMember name json ∧ json ≠ mask) ↔
        ∃ address entries entry, Visible graph patterns root (.node address) ∧
          graph[address]? = some (.mapping entries) ∧ WrittenAs entries name entry ∧
          ¬ entry.1.IsText ∧ ¬ entry.2.IsMask graph)) ∧
    ((∀ entries, .mapping entries ∈ graph → ∀ entry ∈ entries, ¬ entry.1.IsText →
        ¬ ContainsPattern patterns entry.1.memberName) →
      MembersMasked patterns document) := by
  have hclear : ∀ name, (∃ json, document.HasMember name json ∧ json ≠ mask) ↔
      ∃ json, (maskGraph graph patterns root).HasMember name json ∧ json ≠ mask := fun _ =>
    ⟨clear_of_sameMembers (Json.sameMembers_of_text_eq h),
      clear_of_sameMembers (Json.sameMembers_of_text_eq h.symm)⟩
  refine ⟨fun name hname => (hclear name).trans (clear_sensitive_iff hname), ?_⟩
  intro hkeys name json hmember hname
  by_contra hjson
  obtain ⟨address, entries, entry, -, hnode, hwritten, htext, -⟩ :=
    (clear_sensitive_iff hname).mp ((hclear name).mp ⟨json, hmember, hjson⟩)
  obtain ⟨other, hother, hotherText, rfl⟩ := exists_key_of_writtenAs hwritten htext
  exact hkeys entries (List.mem_of_getElem? hnode) other hother hotherText hname

/-- A masked entry is overwritten by one whose key is shown as the same text, and a mapping with an
integer among its keys is masked. -/
theorem serialize_clear_members_overwritten :
    (∃ json, (maskGraph
          [.mapping [(.text "b'pin'", .text "1234"), (.bytes [112, 105, 110], .int 5678)]]
          ["pin"] (.node 0)).HasMember "b'pin'" json ∧ json ≠ mask) ∧
      MembersMasked ["pin"] (maskGraph
        [.mapping [(.text "PIN", .text "1234"), (.int 1, .node 0)]] ["pin"] (.node 0)) := by
  constructor
  · have hname : ContainsPattern ["pin"] "b'pin'" := isSensitive_iff.mp (by decide +kernel)
    have hplace : (Key.bytes [112, 105, 110]).place = .inr "b'pin'" := by decide +kernel
    refine ((serialize_clear_members _ _ _ _ rfl).1 _ hname).mpr
      ⟨0, _, (.bytes [112, 105, 110], .int 5678), .root, rfl, ⟨?_, ?_⟩, ?_, ?_⟩
    · rw [hplace]
      decide +kernel
    · simp [entriesAt, hplace]
    · rintro ⟨_, h⟩
      cases h
    · simp [Value.IsMask]
  · refine (serialize_clear_members _ _ _ _ rfl).2 ?_
    intro entries hentries entry hentry htext
    obtain rfl : entries = _ := by simpa using hentries
    rcases List.mem_cons.mp hentry with rfl | hentry
    · exact absurd ⟨_, rfl⟩ htext
    · obtain rfl : entry = _ := by simpa using hentry
      exact mt isSensitive_iff.mpr (by decide +kernel)

/-- The value of a key of bytes that spell a sensitive name is in the text. -/
theorem bytes_key_in_clear :
    ∃ document : Json, document.text ⟨true, true⟩ =
        serialize [.mapping [(.bytes [112, 97, 115, 115, 119, 111, 114, 100], .text "hunter2")]]
          defaultPatterns (.node 0) ∧
      ¬ MembersMasked defaultPatterns document := by
  refine ⟨.object [("b'password'", .string "hunter2")], by decide +kernel, fun h => ?_⟩
  have hname : ContainsPattern defaultPatterns "b'password'" := isSensitive_iff.mp (by decide +kernel)
  have hmasked := h "b'password'" (.string "hunter2") (.here List.mem_cons_self) hname
  simp [mask] at hmasked

end LogAudit.Masking
