import LogAudit.Proofs.Documents
import LogAudit.Proofs.MemberNames

/-! # What the values under some names can influence

Two object graphs are compared that differ only in what the members under some names hold. The nodes that
can be seen from outside of those members stand in a one-to-one relation, whatever their addresses are and
whatever else the graphs hold. An object gives a text of itself, and a set lists its items in an order
that the items decide, so that the values under a name can show there as well.

* `Leeway`: what two graphs may differ in, and `AgreeUpTo`: graphs that differ in nothing else.
* `Leeway.Harmless`: the differences that the patterns hide.
* `writtenAt_agree`: values that agree up to harmless differences are written alike.
* `serialize_noninterference`: exactly the harmless differences never show in the text. -/

namespace LogAudit.Masking
set_option autoImplicit false

/-! ## Graphs that agree -/

/-- What two graphs may differ in. -/
structure Leeway where
  /-- names whose members may hold different values -/
  hidden : String → Prop
  /-- texts that an object may have on the two sides -/
  spelled : String → String → Prop
  /-- whether sets may list their items in different orders -/
  shuffled : Prop

namespace Leeway

def Spells (leeway : Leeway) (text other : String) : Prop :=
  text = other ∨ leeway.spelled text other

def Arranges {α : Type} (leeway : Leeway) (items others : List α) : Prop :=
  items = others ∨ leeway.shuffled ∧ items.Perm others

def HidesKey (leeway : Leeway) (key : Key) : Prop :=
  ∃ name, key = .text name ∧ leeway.hidden name

/-- Nothing that may differ is written: the names are masked, objects have their texts and sets have
their order. -/
structure Harmless (patterns : List String) (leeway : Leeway) : Prop where
  masked : ∀ name, leeway.hidden name → ContainsPattern patterns name
  spelled : ∀ text other, leeway.spelled text other → text = other
  listed : ¬ leeway.shuffled

end Leeway

/-- A key without parts. -/
def Key.IsAtom : Key → Prop
  | .tuple _ | .set _ | .object .. => False
  | _ => True

mutual

/-- Keys of the same form, with objects in relation to each other. -/
inductive KeysAgree (leeway : Leeway) (pair : Nat → Nat → Prop) : Key → Key → Prop
  | atom {key : Key} : key.IsAtom → KeysAgree leeway pair key key
  | tuple {items others : List Key} :
      KeyListsAgree leeway pair items others → KeysAgree leeway pair (.tuple items) (.tuple others)
  | set {items listed others : List Key} :
      KeyListsAgree leeway pair items listed → leeway.Arranges listed others →
      KeysAgree leeway pair (.set items) (.set others)
  | object {address other : Nat} {inside inside' alone alone' : String} :
      pair address other → leeway.Spells inside inside' → leeway.Spells alone alone' →
      KeysAgree leeway pair (.object address inside alone) (.object other inside' alone')

inductive KeyListsAgree (leeway : Leeway) (pair : Nat → Nat → Prop) : List Key → List Key → Prop
  | nil : KeyListsAgree leeway pair [] []
  | cons {key other : Key} {keys others : List Key} :
      KeysAgree leeway pair key other → KeyListsAgree leeway pair keys others →
      KeyListsAgree leeway pair (key :: keys) (other :: others)

end

/-- Values that are the same scalar, or nodes in relation to each other. -/
inductive ValuesAgree (pair : Nat → Nat → Prop) : Value → Value → Prop
  | scalar (value : Value) : value.IsScalar → ValuesAgree pair value value
  | node (address other : Nat) : pair address other → ValuesAgree pair (.node address) (.node other)

/-- Members of the same names in the same order, with values that agree where the name is not hidden. -/
def MembersAgree {α : Type} (alike : α → α → Prop) (hidden : α → Prop) (pair : Nat → Nat → Prop) :
    List (α × Value) → List (α × Value) → Prop :=
  List.Forall₂ fun one other =>
    alike one.1 other.1 ∧ (¬ hidden one.1 → ValuesAgree pair one.2 other.2)

/-- Nodes of the same kind that agree outside of their hidden members. -/
inductive NodesAgree (leeway : Leeway) (pair : Nat → Nat → Prop) : Node → Node → Prop
  | mapping {entries others : List (Key × Value)} :
      MembersAgree (KeysAgree leeway pair) leeway.HidesKey pair entries others →
      NodesAgree leeway pair (.mapping entries) (.mapping others)
  | sequence {items others : List Value} : List.Forall₂ (ValuesAgree pair) items others →
      NodesAgree leeway pair (.sequence items) (.sequence others)
  | collection {items listed others : List Value} :
      List.Forall₂ (ValuesAgree pair) items listed → leeway.Arranges listed others →
      NodesAgree leeway pair (.collection items) (.collection others)
  | record {fields others : List (String × Value)} :
      MembersAgree Eq leeway.hidden pair fields others →
      NodesAgree leeway pair (.record fields) (.record others)
  | printed {text other : String} : leeway.Spells text other →
      NodesAgree leeway pair (.printed text) (.printed other)

/-- Two graphs with roots that differ in nothing but what may differ: some one-to-one relation between
addresses holds of the roots, and what it relates agrees. Sharing and cycles among the nodes related are
the same on both sides; nothing is said of the values of hidden members. -/
def AgreeUpTo (leeway : Leeway) (graph : Graph) (root : Value) (other : Graph) (otherRoot : Value) :
    Prop :=
  ∃ pair : Nat → Nat → Prop, Relator.BiUnique pair ∧ ValuesAgree pair root otherRoot ∧
    ∀ one two, pair one two → Option.Rel (NodesAgree leeway pair) graph[one]? other[two]?

theorem agreeUpTo_of_forall₂ {leeway : Leeway} {graph other : Graph}
    (h : List.Forall₂ (NodesAgree leeway Eq) graph other) (address : Nat) :
    AgreeUpTo leeway graph (.node address) other (.node address) := by
  refine ⟨Eq, ⟨fun _ _ _ h h' => h.trans h'.symm, fun _ _ _ h h' => h.symm.trans h'⟩,
    .node _ _ rfl, ?_⟩
  rintro one _ rfl
  induction h generalizing one with
  | nil => exact .none
  | cons hnode _ ih =>
    cases one with
    | zero => exact .some hnode
    | succ one => exact ih one

variable {patterns : List String} {leeway : Leeway} {pair : Nat → Nat → Prop} {graph other : Graph}

/-! ## Keys -/

namespace Leeway.Harmless

theorem eq_of_spells (hharmless : leeway.Harmless patterns) {text other : String}
    (h : leeway.Spells text other) : text = other :=
  h.elim id (hharmless.spelled text other)

theorem eq_of_arranges {α : Type} (hharmless : leeway.Harmless patterns) {items others : List α}
    (h : leeway.Arranges items others) : items = others :=
  h.elim id fun hshuffled => absurd hshuffled.1 hharmless.listed

theorem isSensitive_of_hidesKey (hharmless : leeway.Harmless patterns) {key : Key}
    (h : leeway.HidesKey key) : key.isSensitive patterns = true := by
  obtain ⟨name, rfl, hname⟩ := h
  exact isSensitive_iff.mpr (hharmless.masked name hname)

end Leeway.Harmless

theorem KeyListsAgree.length_eq {keys others : List Key} (h : KeyListsAgree leeway pair keys others) :
    keys.length = others.length := by
  induction keys generalizing others with
  | nil => cases h; rfl
  | cons key keys ih =>
    cases h with
    | cons _ hrest => simp [ih hrest]

theorem KeyListsAgree.isEmpty_eq {keys others : List Key} (h : KeyListsAgree leeway pair keys others) :
    keys.isEmpty = others.isEmpty := by
  cases h <;> rfl

theorem Key.shown_tuple (items : List Key) :
    (Key.tuple items).shown = "(" ++ String.intercalate ", " (Key.shownItems items) ++
      if items.length = 1 then ",)" else ")" := rfl

theorem Key.shown_set (items : List Key) :
    (Key.set items).shown = if items.isEmpty then "frozenset()"
      else "frozenset(\x7b" ++ String.intercalate ", " (Key.shownItems items) ++ "\x7d)" := rfl

mutual

theorem KeysAgree.shown_eq (hharmless : leeway.Harmless patterns) {key other : Key}
    (h : KeysAgree leeway pair key other) : key.shown = other.shown := by
  cases h with
  | atom => rfl
  | tuple hitems =>
    rw [Key.shown_tuple, Key.shown_tuple, hitems.length_eq, hitems.shownItems_eq hharmless]
  | set hitems hlisted =>
    cases hharmless.eq_of_arranges hlisted
    rw [Key.shown_set, Key.shown_set, hitems.isEmpty_eq, hitems.shownItems_eq hharmless]
  | object _ hinside _ => exact hharmless.eq_of_spells hinside

theorem KeyListsAgree.shownItems_eq (hharmless : leeway.Harmless patterns) {keys others : List Key}
    (h : KeyListsAgree leeway pair keys others) : Key.shownItems keys = Key.shownItems others := by
  cases h with
  | nil => rfl
  | cons hkey hrest =>
    exact congrArg₂ List.cons (hkey.shown_eq hharmless) (hrest.shownItems_eq hharmless)

end

theorem KeysAgree.written_eq (hharmless : leeway.Harmless patterns) {key other : Key}
    (h : KeysAgree leeway pair key other) : key.written = other.written := by
  have hshown := h.shown_eq hharmless
  cases h with
  | atom => rfl
  | tuple | set => exact congrArg Key.text hshown
  | object _ _ halone => exact congrArg Key.text (hharmless.eq_of_spells halone)

theorem KeysAgree.isSensitive_eq {key other : Key} (h : KeysAgree leeway pair key other) :
    key.isSensitive patterns = other.isSensitive patterns := by
  cases h <;> rfl

/-! ## One node -/

section Members

variable {α β : Type} {alike : α → α → Prop} {hidden : α → Prop} {sensitive : α → Bool}
  {write writeOther : Value → Json} {members others : List (α × Value)}

theorem writtenMembers_agree (h : MembersAgree alike hidden pair members others) {name : α → β}
    (halike : ∀ one two, alike one two → name one = name two ∧ sensitive one = sensitive two)
    (hhidden : ∀ one, hidden one → sensitive one = true)
    (hwrite : ∀ value value', ValuesAgree pair value value' → write value = writeOther value') :
    (writtenMembers sensitive write members).map (Prod.map name id) =
      (writtenMembers sensitive writeOther others).map (Prod.map name id) := by
  induction h with
  | nil => rfl
  | @cons one two members others hone _ ih =>
    obtain ⟨hnames, hvalues⟩ := hone
    obtain ⟨hname, hsensitive⟩ := halike _ _ hnames
    have hvalue : (if sensitive one.1 then mask else write one.2) =
        if sensitive two.1 then mask else writeOther two.2 := by
      rw [← hsensitive]
      split
      · rfl
      · next hclear => exact hwrite _ _ (hvalues (mt (hhidden _) hclear))
    unfold writtenMembers at ih ⊢
    rw [List.map_cons, List.map_cons, List.map_cons, List.map_cons, ih, hvalue, Prod.map, Prod.map, hname]

end Members

theorem mappingJson_eq (entries : List (Key × Json)) :
    mappingJson entries =
      .object (((entries.map (Prod.map Key.written id)).foldl
        (fun kept entry => putWritten kept entry.1 entry.2) []).map
          fun entry => (entry.1.memberName, entry.2)) := by
  rw [mappingJson, List.foldl_map]
  rfl

theorem map_agree {write writeOther : Value → Json} {items others : List Value}
    (h : List.Forall₂ (ValuesAgree pair) items others)
    (hwrite : ∀ value value', ValuesAgree pair value value' → write value = writeOther value') :
    items.map write = others.map writeOther := by
  induction h with
  | nil => rfl
  | cons hone _ ih => rw [List.map_cons, List.map_cons, hwrite _ _ hone, ih]

theorem writtenNode_agree (hharmless : leeway.Harmless patterns) {write writeOther : Value → Json}
    {node node' : Node} (h : NodesAgree leeway pair node node')
    (hwrite : ∀ value value', ValuesAgree pair value value' → write value = writeOther value') :
    writtenNode patterns write node = writtenNode patterns writeOther node' := by
  cases h with
  | mapping h =>
    rw [writtenNode, writtenNode, mappingJson_eq, mappingJson_eq,
      writtenMembers_agree h (fun _ _ hkeys => ⟨hkeys.written_eq hharmless, hkeys.isSensitive_eq⟩)
        (fun _ => hharmless.isSensitive_of_hidesKey) hwrite]
  | sequence h => exact congrArg Json.array (map_agree h hwrite)
  | collection h hlisted =>
    cases hharmless.eq_of_arranges hlisted
    exact congrArg Json.array (map_agree h hwrite)
  | record h =>
    have hmembers := writtenMembers_agree h
      (fun one two heq => ⟨congrArg id heq, congrArg (isSensitive patterns) heq⟩)
      (fun name hname => isSensitive_iff.mpr (hharmless.masked name hname)) hwrite
    rw [Prod.map_id, List.map_id, List.map_id] at hmembers
    exact congrArg Json.object hmembers
  | printed h => exact congrArg Json.string (hharmless.eq_of_spells h)

/-! ## All nodes -/

theorem mem_path_iff (hunique : Relator.BiUnique pair) {path path' : Seen} {address address' : Nat}
    (hpaths : List.Forall₂ pair path path') (h : pair address address') :
    address ∈ path ↔ address' ∈ path' := by
  induction hpaths with
  | nil => simp
  | @cons one two _ _ hone _ ih =>
    have hhead : address = one ↔ address' = two := by
      constructor
      · rintro rfl
        exact hunique.2 h hone
      · rintro rfl
        exact hunique.1 h hone
    rw [List.mem_cons, List.mem_cons, hhead, ih]

theorem writtenAt_agree (hharmless : leeway.Harmless patterns) (hunique : Relator.BiUnique pair)
    (hnodes : ∀ one two, pair one two → Option.Rel (NodesAgree leeway pair) graph[one]? other[two]?)
    {path path' : Seen} (hpath : IsPath graph path) (hpath' : IsPath other path')
    (hpaths : List.Forall₂ pair path path') {value value' : Value}
    (h : ValuesAgree pair value value') :
    writtenAt graph patterns path value = writtenAt other patterns path' value' := by
  -- on the number of nodes that are not being written yet
  induction hleft : graph.length - path.length using Nat.strong_induction_on
    generalizing path path' value value' with
  | _ left ih =>
    cases h with
    | scalar value hscalar => exact writtenAt_scalar hscalar other path path'
    | node address address' haddress =>
      have hmet := mem_path_iff hunique hpaths haddress
      by_cases hmem : address ∈ path
      · rw [writtenAt_circular hmem, writtenAt_circular (hmet.mp hmem)]
      · have hmem' : address' ∉ path' := mt hmet.mpr hmem
        have hnode := hnodes address address' haddress
        revert hnode
        cases hone : graph[address]? with
        | none =>
          cases htwo : other[address']? with
          | none =>
            intro _
            rw [writtenAt_missing hpath hmem hone, writtenAt_missing hpath' hmem' htwo]
          | some node' => intro hnode; cases hnode
        | some node =>
          cases htwo : other[address']? with
          | none => intro hnode; cases hnode
          | some node' =>
            rintro (hagree | _)
            have hnext := hpath.cons hmem hone
            have hlength := hnext.length_le
            rw [List.length_cons] at hlength
            rw [writtenAt_node hpath hmem hone, writtenAt_node hpath' hmem' htwo]
            refine writtenNode_agree hharmless hagree fun value value' hvalues => ?_
            refine ih _ ?_ hnext (hpath'.cons hmem' htwo) (.cons haddress hpaths) hvalues rfl
            rw [List.length_cons]
            omega

theorem serialize_agree (hharmless : leeway.Harmless patterns) {root otherRoot : Value}
    (h : AgreeUpTo leeway graph root other otherRoot) :
    serialize graph patterns root = serialize other patterns otherRoot := by
  obtain ⟨pair, hunique, hroots, hnodes⟩ := h
  have hwritten : maskGraph graph patterns root = maskGraph other patterns otherRoot :=
    writtenAt_agree hharmless hunique hnodes IsPath.nil IsPath.nil .nil hroots
  rw [serialize, serialize, hwritten]

/-! ## Differences that show -/

/-- A text of one member tells its name and its value. -/
theorem member_eq_of_text_eq {name name' text text' : String}
    (h : (Json.object [(name, .string text)]).text ⟨true, true⟩ =
      (Json.object [(name', .string text')]).text ⟨true, true⟩) : name = name' ∧ text = text' := by
  obtain ⟨json, hmember, hstring⟩ :=
    (Json.sameMembers_of_text_eq h).member (.here List.mem_cons_self)
  rw [(hstring text).mp rfl] at hmember
  cases hmember with
  | here hmem => simpa using hmem
  | member hmem hinner =>
    rw [List.mem_singleton.mp hmem] at hinner
    exact absurd hinner (Json.not_hasMember (by simp [Json.shape]) (by simp [Json.shape]))

theorem containsPattern_of_masked {name : String}
    (h : serialize [.record [(name, .text "a")]] patterns (.node 0) =
      serialize [.record [(name, .text "b")]] patterns (.node 0)) : ContainsPattern patterns name := by
  by_contra hclear
  have hshown : ∀ text, maskGraph [.record [(name, .text text)]] patterns (.node 0) =
      .object [(name, .string text)] := by
    intro text
    have hname : isSensitive patterns name = false := by simpa [← isSensitive_iff] using hclear
    simp [maskGraph, maskValue, maskNode, maskMembers, hname]
  rw [serialize, serialize, hshown, hshown] at h
  exact absurd (member_eq_of_text_eq h).2 (by decide)

theorem eq_of_objectKey {text text' : String}
    (h : serialize [.mapping [(.object 1 text text, .text "")], .record []] patterns (.node 0) =
      serialize [.mapping [(.object 1 text' text', .text "")], .record []] patterns (.node 0)) :
    text = text' := by
  have hshown : ∀ text, maskGraph [.mapping [(.object 1 text text, .text "")], .record []] patterns
      (.node 0) = .object [(text, .string "")] := by
    intro text
    simp [maskGraph, maskValue, maskNode, maskMembers, Key.isSensitive, mappingJson, putWritten,
      Key.written, Key.keepsKind, Key.display, Key.memberName]
  rw [serialize, serialize, hshown, hshown] at h
  exact (member_eq_of_text_eq h).1

theorem serialize_collection_ne :
    serialize [.collection [.text "a", .text "b"]] patterns (.node 0) ≠
      serialize [.collection [.text "b", .text "a"]] patterns (.node 0) := by
  have hshown : ∀ one two, maskGraph [.collection [.text one, .text two]] patterns (.node 0) =
      .array [.string one, .string two] := by
    intro one two
    simp [maskGraph, maskValue, maskNode, maskItems]
  rw [serialize, serialize, hshown, hshown]
  decide +kernel

/-- Exactly the harmless differences never show in the written text: values under names that contain a
pattern in small letters, as long as objects have the same texts and sets list their items in the same
order. Graphs that differ in nothing else have the same text, and any other difference shows somewhere. -/
theorem serialize_noninterference (patterns : List String) (leeway : Leeway) :
    (∀ graph root other otherRoot, AgreeUpTo leeway graph root other otherRoot →
      serialize graph patterns root = serialize other patterns otherRoot) ↔
    leeway.Harmless patterns := by
  constructor
  · intro h
    refine ⟨fun name hname => ?_, fun text text' htexts => ?_, fun hshuffled => ?_⟩
    · refine containsPattern_of_masked (h _ _ _ _ (agreeUpTo_of_forall₂ (.cons (.record ?_) .nil) 0))
      exact .cons ⟨rfl, fun hclear => absurd hname hclear⟩ .nil
    · refine eq_of_objectKey (h _ _ _ _
        (agreeUpTo_of_forall₂ (.cons (.mapping ?_) (.cons (.record .nil) .nil)) 0))
      exact .cons ⟨.object rfl (.inr htexts) (.inr htexts),
        fun _ => .scalar _ (by simp [Value.IsScalar])⟩ .nil
    · refine serialize_collection_ne (h _ _ _ _
        (agreeUpTo_of_forall₂ (.cons (.collection ?_ (.inr ⟨hshuffled, .swap ..⟩)) .nil) 0))
      exact .cons (.scalar _ (by simp [Value.IsScalar]))
        (.cons (.scalar _ (by simp [Value.IsScalar])) .nil)
  · intro hharmless graph root other otherRoot hagree
    exact serialize_agree hharmless hagree

/-- A session and its user, who refer to each other. The user is also the key of an entry. -/
def signedIn : Graph :=
  [.mapping [(.text "user", .node 1), (.text "password", .text "hunter2"),
      (.tuple [.object 1 "alice" "alice", .int 1], .null)],
    .record [("name", .text "alice"), ("authToken", .node 0), ("session", .node 0)]]

/-- The same session with the nodes in other places and other values under sensitive names. -/
def signedInElsewhere : Graph :=
  [.record [("name", .text "alice"), ("authToken", .int 7), ("session", .node 1)],
    .mapping [(.text "user", .node 0), (.text "password", .node 2),
      (.tuple [.object 0 "alice" "alice", .int 1], .null)],
    .sequence [.text "*", .node 1]]

theorem serialize_noninterference_cycle :
    AgreeUpTo ⟨ContainsPattern ["password", "TOKEN"], fun _ _ => False, False⟩
        signedIn (.node 0) signedInElsewhere (.node 1) ∧
      serialize signedIn ["password", "TOKEN"] (.node 0) =
        serialize signedInElsewhere ["password", "TOKEN"] (.node 1) := by
  have hpassword : ContainsPattern ["password", "TOKEN"] "password" :=
    isSensitive_iff.mp (by decide +kernel)
  have htoken : ContainsPattern ["password", "TOKEN"] "authToken" :=
    isSensitive_iff.mp (by decide +kernel)
  have hagree : AgreeUpTo ⟨ContainsPattern ["password", "TOKEN"], fun _ _ => False, False⟩
      signedIn (.node 0) signedInElsewhere (.node 1) := by
    refine ⟨fun one two => one + two = 1, ⟨fun _ _ _ _ _ => by omega, fun _ _ _ _ _ => by omega⟩,
      .node 0 1 rfl, fun one two hpair => ?_⟩
    obtain ⟨rfl, rfl⟩ | ⟨rfl, rfl⟩ : one = 0 ∧ two = 1 ∨ one = 1 ∧ two = 0 := by omega
    · refine .some (.mapping (.cons ⟨.atom trivial, fun _ => .node 1 0 rfl⟩
        (.cons ⟨.atom trivial, fun hclear => absurd ⟨_, rfl, hpassword⟩ hclear⟩
          (.cons ⟨.tuple ?_, fun _ => .scalar _ (by simp [Value.IsScalar])⟩ .nil))))
      exact .cons (.object rfl (.inl rfl) (.inl rfl)) (.cons (.atom trivial) .nil)
    · exact .some (.record (.cons ⟨rfl, fun _ => .scalar _ (by simp [Value.IsScalar])⟩
        (.cons ⟨rfl, fun hclear => absurd htoken hclear⟩ (.cons ⟨rfl, fun _ => .node 0 1 rfl⟩ .nil))))
  refine ⟨hagree, (serialize_noninterference _ _).mpr ⟨?_, ?_, ?_⟩ _ _ _ _ hagree⟩
  · exact fun _ hname => hname
  · exact fun _ _ hspelled => hspelled.elim
  · exact fun hshuffled => hshuffled

/-- Values under the names that contain a pattern as it stands may differ, and with them what objects
show of themselves and how sets are ordered. -/
def Leeway.ofPatterns (patterns : List String) : Leeway where
  hidden name := ∃ pattern ∈ patterns, pattern.toList <:+: name.toList
  spelled _ _ := True
  shuffled := True

/-- A sigma that ends a pattern but not the name, an object that shows its fields where it is a key, and a
set in an order that comes from the fields of its items. -/
theorem hidden_values_shown :
    (AgreeUpTo (.ofPatterns ["ΚΩΔΙΚΟΣ"])
        [.mapping [(.text "ΚΩΔΙΚΟΣΧΡΗΣΤΗ", .text "hunter2")]] (.node 0)
        [.mapping [(.text "ΚΩΔΙΚΟΣΧΡΗΣΤΗ", .text "letmein")]] (.node 0) ∧
      serialize [.mapping [(.text "ΚΩΔΙΚΟΣΧΡΗΣΤΗ", .text "hunter2")]] ["ΚΩΔΙΚΟΣ"] (.node 0) ≠
        serialize [.mapping [(.text "ΚΩΔΙΚΟΣΧΡΗΣΤΗ", .text "letmein")]] ["ΚΩΔΙΚΟΣ"] (.node 0)) ∧
    (AgreeUpTo (.ofPatterns defaultPatterns)
        [.mapping [(.object 1 "K(password='s3cret')" "K(password='s3cret')", .int 1)],
          .record [("password", .text "s3cret")]] (.node 0)
        [.mapping [(.object 1 "K(password='hunter2')" "K(password='hunter2')", .int 1)],
          .record [("password", .text "hunter2")]] (.node 0) ∧
      serialize [.mapping [(.object 1 "K(password='s3cret')" "K(password='s3cret')", .int 1)],
          .record [("password", .text "s3cret")]] defaultPatterns (.node 0) ≠
        serialize [.mapping [(.object 1 "K(password='hunter2')" "K(password='hunter2')", .int 1)],
          .record [("password", .text "hunter2")]] defaultPatterns (.node 0)) ∧
    AgreeUpTo (.ofPatterns defaultPatterns)
        [.collection [.node 1, .node 2], .record [("of", .text "a"), ("pin", .int 1)],
          .record [("of", .text "b"), ("pin", .int 2)]] (.node 0)
        [.collection [.node 2, .node 1], .record [("of", .text "a"), ("pin", .int 3)],
          .record [("of", .text "b"), ("pin", .int 2)]] (.node 0) ∧
      serialize [.collection [.node 1, .node 2], .record [("of", .text "a"), ("pin", .int 1)],
          .record [("of", .text "b"), ("pin", .int 2)]] defaultPatterns (.node 0) ≠
        serialize [.collection [.node 2, .node 1], .record [("of", .text "a"), ("pin", .int 3)],
          .record [("of", .text "b"), ("pin", .int 2)]] defaultPatterns (.node 0) := by
  have hhidden : ∀ name ∈ defaultPatterns, (Leeway.ofPatterns defaultPatterns).hidden name :=
    fun name hname => ⟨name, hname, List.infix_rfl⟩
  have hpassword := hhidden "password" (by simp [defaultPatterns])
  have hpin := hhidden "pin" (by simp [defaultPatterns])
  have hcode : (Leeway.ofPatterns ["ΚΩΔΙΚΟΣ"]).hidden "ΚΩΔΙΚΟΣΧΡΗΣΤΗ" :=
    ⟨"ΚΩΔΙΚΟΣ", List.mem_singleton_self _, [], "ΧΡΗΣΤΗ".toList, by decide⟩
  refine ⟨⟨?_, by decide +kernel⟩, ⟨?_, by decide +kernel⟩, ?_, by decide +kernel⟩
  · refine agreeUpTo_of_forall₂ (.cons (.mapping ?_) .nil) 0
    exact .cons ⟨.atom trivial, fun hclear => absurd ⟨_, rfl, hcode⟩ hclear⟩ .nil
  · refine agreeUpTo_of_forall₂ (.cons (.mapping ?_) (.cons (.record ?_) .nil)) 0
    · exact .cons ⟨.object rfl (.inr trivial) (.inr trivial),
        fun _ => .scalar _ (by simp [Value.IsScalar])⟩ .nil
    · exact .cons ⟨rfl, fun hclear => absurd hpassword hclear⟩ .nil
  · have hrecord : ∀ (text : String) (one two : Int), NodesAgree (.ofPatterns defaultPatterns) Eq
        (.record [("of", .text text), ("pin", .int one)])
        (.record [("of", .text text), ("pin", .int two)]) := fun _ _ _ =>
      .record (.cons ⟨rfl, fun _ => .scalar _ (by simp [Value.IsScalar])⟩
        (.cons ⟨rfl, fun hclear => absurd hpin hclear⟩ .nil))
    refine agreeUpTo_of_forall₂
      (.cons (.collection ?_ (.inr ⟨trivial, .swap ..⟩)) (.cons (hrecord ..) (.cons (hrecord ..) .nil))) 0
    exact .cons (.node _ _ rfl) (.cons (.node _ _ rfl) .nil)

end LogAudit.Masking
