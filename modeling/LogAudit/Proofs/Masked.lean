import LogAudit.Masking.Mask
import LogAudit.Proofs.Scanning

/-! # What masking writes

Masking threads the addresses of the nodes that are being written and runs on fuel. Neither shows in
the result: every step gives the addresses back as it got them, and the fuel is never used up, as the
nodes that are being written are different nodes of the graph.

* `ContainsPattern`: the names that are sensitive.
* `maskValue_seen`: the addresses come back unchanged.
* `writtenAt_node`: a node below a path is written by writing its members below the longer path. -/

namespace LogAudit.Masking
set_option autoImplicit false

variable {graph : Graph} {patterns : List String} {path : Seen} {address : Nat} {node : Node}

/-! ## Names -/

/-- A name that contains one of the patterns, small and capital letters alike. -/
def ContainsPattern (patterns : List String) (name : String) : Prop :=
  ∃ pattern ∈ patterns, (Text.lower pattern).toList <:+: (Text.lower name).toList

theorem isSensitive_iff {name : String} :
    isSensitive patterns name = true ↔ ContainsPattern patterns name := by
  simp [isSensitive, ContainsPattern, Text.occursIn_iff]

/-- A key that is masked: a text that contains one of the patterns. -/
def Key.ContainsPattern (patterns : List String) (key : Key) : Prop :=
  ∃ name, key = .text name ∧ Masking.ContainsPattern patterns name

theorem Key.isSensitive_iff {key : Key} :
    key.isSensitive patterns = true ↔ key.ContainsPattern patterns := by
  cases key with
  | text name => simp [Key.isSensitive, Key.ContainsPattern, Masking.isSensitive_iff]
  | _ => simp [Key.isSensitive, Key.ContainsPattern]

/-! ## Steps that give the addresses back -/

theorem maskItems_eq {step : Step} (hstep : ∀ value seen, (step value seen).2 = seen)
    (items : List Value) (seen : Seen) :
    maskItems step items seen = (items.map fun item => (step item seen).1, seen) := by
  induction items with
  | nil => rfl
  | cons item items ih => simp only [maskItems, hstep, ih, List.map_cons]

/-- The members of a node as they are written. -/
def writtenMembers {α : Type} (sensitive : α → Bool) (write : Value → Json)
    (members : List (α × Value)) : List (α × Json) :=
  members.map fun member => (member.1, if sensitive member.1 then mask else write member.2)

theorem maskMembers_eq {α : Type} {step : Step} (hstep : ∀ value seen, (step value seen).2 = seen)
    (sensitive : α → Bool) (members : List (α × Value)) (seen : Seen) :
    maskMembers sensitive step members seen =
      (writtenMembers sensitive (fun value => (step value seen).1) members, seen) := by
  induction members with
  | nil => rfl
  | cons member members ih =>
    obtain ⟨name, value⟩ := member
    by_cases hname : sensitive name = true
    · simp [maskMembers, writtenMembers, ih, hname]
    · simp [maskMembers, writtenMembers, ih, hname, hstep]

/-- The items of a sequence or a set. -/
def Node.items : Node → List Value
  | .sequence items | .collection items => items
  | _ => []

/-- A node as it is written, given how the values of its members are. -/
def writtenNode (patterns : List String) (write : Value → Json) : Node → Json
  | .mapping entries => mappingJson (writtenMembers (Key.isSensitive patterns) write entries)
  | .sequence items | .collection items => .array (items.map write)
  | .record fields => .object (writtenMembers (isSensitive patterns) write fields)
  | .printed text => .string text

theorem maskNode_eq {step : Step} (hstep : ∀ value seen, (step value seen).2 = seen)
    (patterns : List String) (node : Node) (seen : Seen) :
    maskNode patterns step node seen =
      (writtenNode patterns (fun value => (step value seen).1) node, seen) := by
  cases node with
  | mapping entries => simp only [maskNode, maskMembers_eq hstep, writtenNode]
  | sequence items | collection items => simp only [maskNode, maskItems_eq hstep, writtenNode]
  | record fields => simp only [maskNode, maskMembers_eq hstep, writtenNode]
  | printed text => rfl

theorem maskValue_seen (graph : Graph) (patterns : List String) (fuel : Nat) (value : Value)
    (seen : Seen) : (maskValue graph patterns fuel value seen).2 = seen := by
  induction fuel generalizing value seen with
  | zero => cases value <;> rfl
  | succ fuel ih =>
    cases value with
    | node address =>
      rw [maskValue]
      split
      · rfl
      · split
        · rfl
        · rw [maskNode_eq ih]
          simp
    | _ => rfl

/-! ## Paths -/

/-- The nodes that are being written, the innermost first: different nodes of the graph. -/
structure IsPath (graph : Graph) (path : Seen) : Prop where
  nodup : path.Nodup
  inside : ∀ address ∈ path, address < graph.length

theorem IsPath.nil : IsPath graph [] := ⟨List.nodup_nil, by simp⟩

theorem IsPath.cons (h : IsPath graph path) (hnew : address ∉ path)
    (hnode : graph[address]? = some node) : IsPath graph (address :: path) := by
  obtain ⟨hlt, _⟩ := List.getElem?_eq_some_iff.mp hnode
  refine ⟨List.nodup_cons.mpr ⟨hnew, h.nodup⟩, ?_⟩
  intro other hother
  rcases List.mem_cons.mp hother with rfl | hother
  · exact hlt
  · exact h.inside other hother

theorem IsPath.length_le (h : IsPath graph path) : path.length ≤ graph.length := by
  have hsubset : path ⊆ List.range graph.length := fun address hmem =>
    List.mem_range.mpr (h.inside address hmem)
  simpa using (h.nodup.subperm hsubset).length_le

/-! ## Values below a path -/

/-- A value as it is written below a path, with the fuel that is left there. -/
def writtenAt (graph : Graph) (patterns : List String) (path : Seen) (value : Value) : Json :=
  (maskValue graph patterns (graph.length + 1 - path.length) value path).1

/-- A value that is no node. -/
def Value.IsScalar (value : Value) : Prop := ∀ address, value ≠ .node address

theorem writtenAt_scalar {value : Value} (h : value.IsScalar) (other : Graph) (path path' : Seen) :
    writtenAt graph patterns path value = writtenAt other patterns path' value := by
  cases value with
  | node address => exact absurd rfl (h address)
  | _ => rw [writtenAt, writtenAt, maskValue, maskValue]

theorem writtenAt_circular (h : address ∈ path) :
    writtenAt graph patterns path (.node address) = circular := by
  rw [writtenAt]
  cases graph.length + 1 - path.length with
  | zero => rfl
  | succ fuel => rw [maskValue, if_pos (by simpa using h)]

theorem writtenAt_missing (hpath : IsPath graph path) (hnew : address ∉ path)
    (hnode : graph[address]? = none) :
    writtenAt graph patterns path (.node address) = .null := by
  have hlength := hpath.length_le
  have hfuel : graph.length + 1 - path.length = graph.length - path.length + 1 := by omega
  rw [writtenAt, hfuel, maskValue, if_neg (by simpa using hnew), hnode]

theorem writtenAt_node (hpath : IsPath graph path) (hnew : address ∉ path)
    (hnode : graph[address]? = some node) :
    writtenAt graph patterns path (.node address) =
      writtenNode patterns (writtenAt graph patterns (address :: path)) node := by
  have hlength : path.length + 1 ≤ graph.length := (hpath.cons hnew hnode).length_le
  have hfuel : graph.length + 1 - path.length = graph.length + 1 - (address :: path).length + 1 := by
    rw [List.length_cons]
    omega
  rw [writtenAt, hfuel, maskValue, if_neg (by simpa using hnew), hnode]
  dsimp only
  rw [maskNode_eq (maskValue_seen graph patterns _)]
  rfl

end LogAudit.Masking
