import Mathlib
import LogAudit.RuleFile
import LogAudit.Proofs.Parsing
import LogAudit.Proofs.Spelling
import LogAudit.Proofs.Walking

/-! # Rules that are written down

A document lists entries: elements of a given name, at any depth inside of elements with other names,
each with a text and with no element inside. What is written down as four such documents is loaded
again.

* `Lists`: content that lists entries.
* `named_written`: the elements of a document that lists entries.
* `WritesRule`, `WritesDirectory`: entries that are rules and entries that are directories.
* `loadRules_written`: what is loaded from four documents. -/

namespace LogAudit
set_option autoImplicit false

open Files Text Xml Encoding

/-! ## Entries -/

section Entries

variable {α : Type} {name : String} {Entry : Tag → List Char → α → Prop}

/-- Content that lists entries in order. An entry is an element of the given name without elements
inside; elements of other names list the entries inside of them. -/
inductive Lists (name : String) (Entry : Tag → List Char → α → Prop) : Markup → List α → Prop
  | done : Lists name Entry .done []
  | letter {char : Letter} {rest : Markup} {entries : List α} :
    Lists name Entry rest entries → Lists name Entry (.letter char rest) entries
  | aside {mark : Aside} {rest : Markup} {entries : List α} :
    Lists name Entry rest entries → Lists name Entry (.aside mark rest) entries
  | entry {tag : Tag} {inner rest : Markup} {entry : α} {entries : List α} :
    tag.name.text = name → inner.children = [] → Entry tag inner.leading entry →
      Lists name Entry rest entries → Lists name Entry (.element tag inner rest) (entry :: entries)
  | nest {tag : Tag} {inner rest : Markup} {inside entries : List α} :
    tag.name.text ≠ name → Lists name Entry inner inside → Lists name Entry rest entries →
      Lists name Entry (.element tag inner rest) (inside ++ entries)

/-- An element that is an entry. -/
def IsEntry (Entry : Tag → List Char → α → Prop) (element : Element) (entry : α) : Prop :=
  ∃ tag text, element = tag.element text [] ∧ Entry tag text entry

theorem withDescendants_element (tag : Tag) (text : List Char) (children : List Element) :
    (tag.element text children).withDescendants =
      tag.element text children :: Element.allWithDescendants children := by
  rw [Tag.element, Element.withDescendants]

/-- The elements of the given name are the entries, in order. -/
theorem Lists.forall₂ {markup : Markup} {entries : List α} (h : Lists name Entry markup entries) :
    List.Forall₂ (IsEntry Entry)
      ((Element.allWithDescendants markup.children).filter (·.name == name)) entries := by
  induction h with
  | done => exact .nil
  | letter _ ih => exact ih
  | aside _ ih => exact ih
  | @entry tag inner rest entry entries hname hflat hentry _ ih =>
    have hchildren : (Markup.element tag inner rest).children =
        tag.element inner.leading [] :: rest.children := by
      rw [Markup.children, hflat]
    have hsame : ((tag.element inner.leading []).name == name) = true := beq_iff_eq.mpr hname
    rw [hchildren, Element.allWithDescendants, withDescendants_element, Element.allWithDescendants,
      List.singleton_append, List.filter_cons_of_pos (by exact hsame)]
    exact .cons ⟨tag, inner.leading, rfl, hentry⟩ ih
  | @nest tag inner rest inside entries hname _ _ ihInner ihRest =>
    have hother : ¬ ((tag.element inner.leading inner.children).name == name) = true :=
      fun heq => hname (beq_iff_eq.mp heq)
    rw [Markup.children, Element.allWithDescendants, withDescendants_element, List.cons_append,
      List.filter_cons_of_neg (by exact hother), List.filter_append]
    exact List.rel_append ihInner ihRest

/-- A document that lists entries. -/
def ListedIn (name : String) (Entry : Tag → List Char → α → Prop) (document : WrittenDocument)
    (entries : List α) : Prop :=
  Lists name Entry (.element document.tag document.inner .done) entries

theorem named_written {document : WrittenDocument} {entries : List α}
    (h : ListedIn name Entry document entries) :
    List.Forall₂ (IsEntry Entry) (document.root.named name) entries := by
  have hchildren := Lists.forall₂ h
  rw [Markup.children, Markup.children, Element.allWithDescendants, Element.allWithDescendants,
    List.append_nil] at hchildren
  exact hchildren

end Entries

/-! ## Rules and directories -/

/-- A text that an entry can have: some characters of XML that neither begin nor end with a blank. -/
structure EntryText (text : String) : Prop where
  some_text : text ≠ ""
  unpadded : Unpadded text.toList
  chars : ∀ c ∈ text.toList, isXmlChar c = true

/-- A rule that can be written down: its text is that of an entry and, if it is a pattern, it is the
one that its text is compiled to. -/
structure ValidRule (engine : Pattern.Engine) (rule : Rule) : Prop where
  entryText : EntryText rule.text
  compiled : ∀ pattern, rule.pattern? = some pattern → Pattern.compile engine rule.text = .ok pattern

/-- The attribute that tells the kind of a rule. -/
structure TellsKind (attr : Attribute) (rule : Rule) : Prop where
  named : attr.name.text = "type"
  some_value : ¬ AllBlank (attr.value.map Letter.valueChar)
  pattern : SpellsPattern (attr.value.map Letter.valueChar) ↔ rule.isPattern = true

/-- An element that is a rule. -/
def WritesRule (tag : Tag) (text : List Char) (rule : Rule) : Prop :=
  Pads text rule.text.toList ∧ ∃ attr ∈ tag.attributes, TellsKind attr rule

/-- An element that is a directory. -/
def WritesDirectory (_ : Tag) (text : List Char) (directory : String) : Prop :=
  Pads text directory.toList

theorem trim_of_pads {padded : List Char} {text : String} (h : Pads padded text.toList)
    (htext : Unpadded text.toList) : trim (String.ofList padded) = text := by
  rw [trim, String.toList_ofList, trimmed_padded h htext, String.ofList_toList]

theorem lookup_pairs {attributes : List Attribute} (hdistinct : (attributes.map (·.name.text)).Nodup)
    {attr : Attribute} (hmem : attr ∈ attributes) :
    (attributes.map Attribute.pair).lookup attr.name.text =
      some (String.ofList (attr.value.map Letter.valueChar)) := by
  induction attributes with
  | nil => cases hmem
  | cons first attributes ih =>
    obtain ⟨hfirst, hrest⟩ := List.nodup_cons.mp hdistinct
    rw [List.map_cons, Attribute.pair, List.lookup_cons]
    rcases List.mem_cons.mp hmem with rfl | hmore
    · rw [beq_self_eq_true]
    · have hother : (attr.name.text == first.name.text) = false := by
        rw [beq_eq_false_iff_ne]
        intro heq
        exact hfirst (List.mem_map.mpr ⟨attr, hmore, heq⟩)
      rw [hother]
      exact ih hrest hmore

theorem trim_ne_empty {text : List Char} (h : ¬ AllBlank text) : trim (String.ofList text) ≠ "" := by
  intro hempty
  have htrimmed : trimmed text = [] := by
    rwa [trim, String.toList_ofList, ← String.toList_inj, String.toList_ofList] at hempty
  obtain ⟨front, back, hfront, hback, htext⟩ := trimmed_shape text
  rw [htrimmed, List.nil_append] at htext
  refine h fun c hc => ?_
  rw [htext] at hc
  rcases List.mem_append.mp hc with hmem | hmem
  · exact hfront c hmem
  · exact hback c hmem

theorem EntryText.not_blank {text : String} (h : EntryText text) : isBlankText text = false := by
  cases hchars : text.toList with
  | nil => exact absurd (String.toList_eq_nil_iff.mp hchars) h.some_text
  | cons c chars =>
    have hc := h.unpadded.front c (by rw [hchars]; rfl)
    rw [isBlankText, hchars, List.all_cons, hc, Bool.false_and]

theorem make_of_validRule {engine : Pattern.Engine} {rule : Rule} (h : ValidRule engine rule) {kind : RuleKind}
    (hkind : kind = .pattern ↔ rule.isPattern = true) : Rule.make engine kind rule.text = .ok rule := by
  obtain ⟨text, pattern?⟩ := rule
  have hblank : isBlankText text = false := h.entryText.not_blank
  simp only [Rule.make, hblank, Bool.false_eq_true, if_false]
  cases pattern? with
  | none =>
    have hliteral : kind = .literal := by
      cases kind
      · rfl
      · exact absurd (hkind.mp rfl) Bool.false_ne_true
    rw [hliteral]
    rfl
  | some pattern =>
    rw [hkind.mpr rfl]
    simp only [h.compiled pattern rfl]

/-- An element that is a valid rule is read as that rule. -/
theorem ruleOf_written {engine : Pattern.Engine} {file : Path} {name : String} {position : Nat}
    {element : Element} {rule : Rule}
    (hvalid : ValidRule engine rule) (h : IsEntry WritesRule element rule) :
    ruleOf engine file name position element = .ok rule := by
  obtain ⟨tag, text, rfl, hpads, attr, hattr, hkind⟩ := h
  have htext : trim (tag.element text []).text = rule.text :=
    trim_of_pads hpads hvalid.entryText.unpadded
  have hattribute : (tag.element text []).attribute? "type" =
      some (String.ofList (attr.value.map Letter.valueChar)) := by
    rw [← hkind.named]
    exact lookup_pairs tag.distinct hattr
  have hpattern : RuleKind.ofAttribute (trim (String.ofList (attr.value.map Letter.valueChar))) =
      .pattern ↔ rule.isPattern = true := by
    rw [ofAttribute_trim, ofAttribute_eq_pattern_iff, String.toList_ofList, hkind.pattern]
  simp only [ruleOf, htext, hattribute, Option.getD_some]
  rw [if_neg hvalid.entryText.some_text, if_neg (trim_ne_empty hkind.some_value),
    make_of_validRule hvalid hpattern]
  rfl

theorem rulesFrom_written {engine : Pattern.Engine} {file : Path} {name : String} {position : Nat}
    {elements : List Element} {rules : List Rule} (hvalid : ∀ rule ∈ rules, ValidRule engine rule)
    (h : List.Forall₂ (IsEntry WritesRule) elements rules) :
    rulesFrom engine file name position elements = .ok rules := by
  induction h generalizing position with
  | nil => rfl
  | cons hentry _ ih =>
    obtain ⟨hrule, hmore⟩ := List.forall_mem_cons.mp hvalid
    rw [rulesFrom, ruleOf_written hrule hentry, ih hmore]
    rfl

theorem directoriesFrom_written {file : Path} {position : Nat} {elements : List Element}
    {directories : List String} (hvalid : ∀ directory ∈ directories, EntryText directory)
    (h : List.Forall₂ (IsEntry WritesDirectory) elements directories) :
    directoriesFrom file position elements = .ok directories := by
  induction h generalizing position with
  | nil => rfl
  | @cons element directory _ _ hentry _ ih =>
    obtain ⟨hdirectory, hmore⟩ := List.forall_mem_cons.mp hvalid
    obtain ⟨tag, text, rfl, hpads⟩ := hentry
    have htext : trim (tag.element text []).text = directory := trim_of_pads hpads hdirectory.unpadded
    simp only [directoriesFrom, htext, hdirectory.some_text, if_false, ih hmore]
    rfl

/-! ## Every rule can be written down -/

theorem exists_name {text : String} {first : Char} {more : List Char}
    (htext : text.toList = first :: more) (hfirst : Xml.isNameStart first = true)
    (hmore : more.all isNamePart = true) : ∃ name : Name, name.text = text :=
  ⟨⟨first, more, hfirst, List.all_eq_true.mp hmore⟩, by
    rw [Name.text, Name.chars, ← htext, String.ofList_toList]⟩

/-- A character that cannot stand for itself has an entity or is a carriage return. -/
theorem exists_letter {c : Char} (h : isXmlChar c = true) : ∃ letter : Letter, letter.char = c := by
  by_cases hplain : isPlain c = true
  · exact ⟨.plain c hplain, rfl⟩
  · have hspecial : c = '<' ∨ c = '&' ∨ c = '>' ∨ c = '\r' := by
      by_contra hnot
      simp only [not_or] at hnot
      exact hplain (isPlain_iff.mpr ⟨h, hnot⟩)
    obtain rfl | rfl | rfl | rfl := hspecial
    · obtain ⟨name, hname⟩ : ∃ name : Name, name.text = "lt" := exists_name rfl (by decide) (by decide)
      exact ⟨.entity name '<' (by rw [hname]; rfl), rfl⟩
    · obtain ⟨name, hname⟩ : ∃ name : Name, name.text = "amp" := exists_name rfl (by decide) (by decide)
      exact ⟨.entity name '&' (by rw [hname]; rfl), rfl⟩
    · obtain ⟨name, hname⟩ : ∃ name : Name, name.text = "gt" := exists_name rfl (by decide) (by decide)
      exact ⟨.entity name '>' (by rw [hname]; rfl), rfl⟩
    · exact ⟨.numbered '\r' { hex := false, digits := ['1', '3'] } (by decide), rfl⟩

theorem exists_content {text : List Char} (h : ∀ c ∈ text, isXmlChar c = true) :
    ∃ inner : Markup, inner.children = [] ∧ inner.leading = text := by
  induction text with
  | nil => exact ⟨.done, rfl, rfl⟩
  | cons c text ih =>
    obtain ⟨hc, hmore⟩ := List.forall_mem_cons.mp h
    obtain ⟨letter, rfl⟩ := exists_letter hc
    obtain ⟨inner, hchildren, rfl⟩ := ih hmore
    exact ⟨.letter letter inner, hchildren, rfl⟩

theorem pads_of_eq {padded text : List Char} (h : padded = text) : Pads padded text :=
  ⟨[], [], nofun, nofun, by rw [List.nil_append, List.append_nil, h]⟩

/-- Entries that can be written one by one can be listed in a document. -/
theorem exists_listed {α : Type} {name : Name} (hroot : name.text ≠ "rules")
    {Entry : Tag → List Char → α → Prop} {entries : List α}
    (h : ∀ entry ∈ entries, ∃ tag : Tag, tag.name = name ∧ ∃ inner : Markup,
      inner.children = [] ∧ Entry tag inner.leading entry) :
    ∃ document, ListedIn name.text Entry document entries := by
  have hlisted : ∃ inner, Lists name.text Entry inner entries := by
    induction entries with
    | nil => exact ⟨.done, .done⟩
    | cons entry entries ih =>
      obtain ⟨hentry, hmore⟩ := List.forall_mem_cons.mp h
      obtain ⟨rest, hrest⟩ := ih hmore
      obtain ⟨tag, hname, inner, hchildren, hwritten⟩ := hentry
      exact ⟨.element tag inner rest, .entry (congrArg Name.text hname) hchildren hwritten hrest⟩
  obtain ⟨inner, hinner⟩ := hlisted
  obtain ⟨root, hname⟩ : ∃ root : Name, root.text = "rules" := exists_name rfl (by decide) (by decide)
  let tag : Tag := ⟨root, [], List.nodup_nil⟩
  have hother : tag.name.text ≠ name.text := by
    rw [hname]
    exact hroot.symm
  have hnested := Lists.nest hother hinner .done
  rw [List.append_nil] at hnested
  exact ⟨⟨.absent, [], tag, inner, []⟩, hnested⟩

/-- A value of characters that stand for themselves. -/
theorem exists_value {text : List Char}
    (h : (text.all fun c => isPlain c && !isSpace c && c != '"') = true) :
    ∃ letters : List Letter, letters.map Letter.valueChar = text ∧
      ∀ letter ∈ letters, letter.written ≠ ['"'] := by
  induction text with
  | nil => exact ⟨[], rfl, nofun⟩
  | cons c text ih =>
    simp only [List.all_cons, Bool.and_eq_true, Bool.not_eq_true', bne_iff_ne] at h
    obtain ⟨letters, hvalue, hquotes⟩ := ih (by simpa using h.2)
    refine ⟨.plain c h.1.1.1 :: letters, ?_, List.forall_mem_cons.mpr ⟨?_, hquotes⟩⟩
    · rw [List.map_cons, hvalue, Letter.valueChar, h.1.1.2, if_neg Bool.false_ne_true]
    · simpa [Letter.written] using h.1.2

/-- The kind of a rule. -/
def kindOf (rule : Rule) : RuleKind := if rule.isPattern then .pattern else .literal

theorem tellsKind_of_value {attr : Attribute} {rule : Rule} {value : String}
    (hname : attr.name.text = "type") (hvalue : attr.value.map Letter.valueChar = value.toList)
    (hsome : isBlankText value = false) (hkind : RuleKind.ofAttribute value = kindOf rule) :
    TellsKind attr rule where
  named := hname
  some_value := by
    rw [hvalue]
    intro hblank
    rw [isBlankText, List.all_eq_true.mpr hblank] at hsome
    cases hsome
  pattern := by
    rw [hvalue, ← ofAttribute_eq_pattern_iff, hkind, kindOf]
    cases rule.isPattern <;> decide

theorem exists_kind (rule : Rule) : ∃ attr : Attribute, TellsKind attr rule := by
  obtain ⟨name, hname⟩ : ∃ name : Name, name.text = "type" := exists_name rfl (by decide) (by decide)
  have hunbound : name.text ≠ "xmlns" := by rw [hname]; decide
  obtain ⟨value, hplain, hsome, hkind⟩ : ∃ value : String,
      (value.toList.all fun c => isPlain c && !isSpace c && c != '"') = true ∧
        isBlankText value = false ∧ RuleKind.ofAttribute value = kindOf rule := by
    rw [kindOf]
    cases rule.isPattern
    · exact ⟨"text", by decide, by decide, by decide +kernel⟩
    · exact ⟨"regex", by decide, by decide, by decide +kernel⟩
  obtain ⟨letters, hvalue, hquotes⟩ := exists_value hplain
  exact ⟨⟨name, letters, '"', hunbound, Or.inl rfl, hquotes⟩,
    tellsKind_of_value hname hvalue hsome hkind⟩

theorem exists_rule {engine : Pattern.Engine} (name : Name) {rule : Rule} (h : ValidRule engine rule) :
    ∃ tag : Tag, tag.name = name ∧ ∃ inner : Markup,
      inner.children = [] ∧ WritesRule tag inner.leading rule := by
  obtain ⟨attr, hattr⟩ := exists_kind rule
  obtain ⟨inner, hchildren, hleading⟩ := exists_content h.entryText.chars
  refine ⟨⟨name, [attr], by simp⟩, rfl, inner, hchildren, ?_, attr, List.mem_singleton_self attr, hattr⟩
  exact pads_of_eq hleading

theorem exists_directory (name : Name) {directory : String} (h : EntryText directory) :
    ∃ tag : Tag, tag.name = name ∧ ∃ inner : Markup,
      inner.children = [] ∧ WritesDirectory tag inner.leading directory := by
  obtain ⟨inner, hchildren, hleading⟩ := exists_content h.chars
  refine ⟨⟨name, [], by simp⟩, rfl, inner, hchildren, ?_⟩
  exact pads_of_eq hleading

/-! ## Directories of rules -/

/-- Rules that can be written down. -/
structure ValidRules (engine : Pattern.Engine) (rules : RuleSet) : Prop where
  keywords : ∀ rule ∈ rules.keywords, ValidRule engine rule
  objectTypes : ∀ rule ∈ rules.objectTypes, ValidRule engine rule
  exclusions : ∀ rule ∈ rules.exclusions, ValidRule engine rule
  scanDirectories : ∀ directory ∈ rules.scanDirectories, EntryText directory

/-- Four documents that list the rules of a set. -/
structure RuleDocuments (rules : RuleSet) where
  keywords : WrittenDocument
  objectTypes : WrittenDocument
  exclusions : WrittenDocument
  scanDirectories : WrittenDocument
  keywords_listed : ListedIn "keyword" WritesRule keywords rules.keywords
  objectTypes_listed : ListedIn "object-type" WritesRule objectTypes rules.objectTypes
  exclusions_listed : ListedIn "exclusion" WritesRule exclusions rules.exclusions
  scanDirectories_listed : ListedIn "directory" WritesDirectory scanDirectories rules.scanDirectories

/-- A directory that holds documents of rules under their names. -/
structure RuleDocuments.HeldIn {rules : RuleSet} (documents : RuleDocuments rules) (tree : Tree)
    (directory : Path) : Prop where
  isDirectory : tree.leadsToDirectory directory = true
  isListable : tree.isListable directory = true
  keywords : tree.read (directory.child "keywords.xml") = .ok documents.keywords.bytes
  objectTypes : tree.read (directory.child "object-types.xml") = .ok documents.objectTypes.bytes
  exclusions : tree.read (directory.child "exclusions.xml") = .ok documents.exclusions.bytes
  scanDirectories :
    tree.read (directory.child "scan-directories.xml") = .ok documents.scanDirectories.bytes

theorem nonempty_ruleDocuments {engine : Pattern.Engine} {rules : RuleSet} (h : ValidRules engine rules) :
    Nonempty (RuleDocuments rules) := by
  obtain ⟨keyword, hkeyword⟩ : ∃ name : Name, name.text = "keyword" :=
    exists_name rfl (by decide) (by decide)
  obtain ⟨objectType, hobjectType⟩ : ∃ name : Name, name.text = "object-type" :=
    exists_name rfl (by decide) (by decide)
  obtain ⟨exclusion, hexclusion⟩ : ∃ name : Name, name.text = "exclusion" :=
    exists_name rfl (by decide) (by decide)
  obtain ⟨directory, hdirectory⟩ : ∃ name : Name, name.text = "directory" :=
    exists_name rfl (by decide) (by decide)
  obtain ⟨keywords, hkeywords⟩ := exists_listed (by rw [hkeyword]; decide) fun rule hrule =>
    exists_rule keyword (h.keywords rule hrule)
  obtain ⟨objectTypes, hobjectTypes⟩ := exists_listed (by rw [hobjectType]; decide) fun rule hrule =>
    exists_rule objectType (h.objectTypes rule hrule)
  obtain ⟨exclusions, hexclusions⟩ := exists_listed (by rw [hexclusion]; decide) fun rule hrule =>
    exists_rule exclusion (h.exclusions rule hrule)
  obtain ⟨scanDirectories, hscanDirectories⟩ := exists_listed (by rw [hdirectory]; decide)
    fun other hother => exists_directory directory (h.scanDirectories other hother)
  exact ⟨⟨keywords, objectTypes, exclusions, scanDirectories, hkeyword ▸ hkeywords,
    hobjectType ▸ hobjectTypes, hexclusion ▸ hexclusions, hdirectory ▸ hscanDirectories⟩⟩

theorem exists?_of_read {tree : Tree} {path : Path} {bytes : List UInt8}
    (h : tree.read path = .ok bytes) : tree.exists? path = .ok true := by
  obtain ⟨place, node, hlocate, _⟩ := locate_of_read h
  simp only [Tree.exists?, Tree.holds?, hlocate]

theorem exists?_of_leadsToDirectory {tree : Tree} {path : Path}
    (h : tree.leadsToDirectory path = true) : tree.exists? path = .ok true := by
  unfold Tree.leadsToDirectory at h
  unfold Tree.exists? Tree.holds?
  split at h
  · next hlocate => rw [hlocate]
  · cases h

theorem readIfPresent_written {α : Type} {codecs : Codecs} {tree : Tree} {directory : Path}
    {name : String} {document : WrittenDocument}
    (h : tree.read (directory.child name) = .ok document.bytes)
    (read : Path → Element → Except RuleFileFailure (List α)) :
    readIfPresent codecs tree directory name read = read (directory.child name) document.root := by
  simp only [readIfPresent, exists?_of_read h, readDocument, h, parseDocument_written]
  rfl

/-- Rules that can be written down are listed by some documents, and they are loaded from every
directory that holds documents that list them. -/
theorem loadRules_written {engine : Pattern.Engine} {rules : RuleSet} (hvalid : ValidRules engine rules) :
    Nonempty (RuleDocuments rules) ∧
      ∀ (documents : RuleDocuments rules) (codecs : Codecs) (tree : Tree) (text : String),
        isBlankText text = false → documents.HeldIn tree (Path.ofText text) →
          loadRules codecs engine tree (some text) =
            .ok { rules with source := some (Path.ofText text).text } := by
  refine ⟨nonempty_ruleDocuments hvalid, fun documents codecs tree text htext hheld => ?_⟩
  have hexists := exists?_of_leadsToDirectory hheld.isDirectory
  have hscanDirectories : readIfPresent codecs tree (Path.ofText text) "scan-directories.xml"
      directoriesIn = .ok rules.scanDirectories :=
    (readIfPresent_written hheld.scanDirectories _).trans
      (directoriesFrom_written hvalid.scanDirectories (named_written documents.scanDirectories_listed))
  have hkeywords : readIfPresent codecs tree (Path.ofText text) "keywords.xml"
      (rulesIn engine "keyword") = .ok rules.keywords :=
    (readIfPresent_written hheld.keywords _).trans
      (rulesFrom_written hvalid.keywords (named_written documents.keywords_listed))
  have hobjectTypes : readIfPresent codecs tree (Path.ofText text) "object-types.xml"
      (rulesIn engine "object-type") = .ok rules.objectTypes :=
    (readIfPresent_written hheld.objectTypes _).trans
      (rulesFrom_written hvalid.objectTypes (named_written documents.objectTypes_listed))
  have hexclusions : readIfPresent codecs tree (Path.ofText text) "exclusions.xml"
      (rulesIn engine "exclusion") = .ok rules.exclusions :=
    (readIfPresent_written hheld.exclusions _).trans
      (rulesFrom_written hvalid.exclusions (named_written documents.exclusions_listed))
  simp only [loadRules, htext, hexists, hheld.isDirectory, hheld.isListable, loadRulesFrom,
    hscanDirectories, hkeywords, hobjectTypes, hexclusions, Bool.false_eq_true, if_false, Bool.not_true]
  rfl

/-! ## A directory of rules -/

/-- Characters that stand for themselves. -/
def plainLetters (text : List Char) (h : text.all isPlain = true := by decide) : List Letter :=
  match text with
  | [] => []
  | c :: more =>
    have hall := Bool.and_eq_true_iff.mp (List.all_cons.symm.trans h)
    .plain c hall.1 :: plainLetters more hall.2

/-- Content that begins with given characters. -/
def contentOf (letters : List Letter) (rest : Markup) : Markup := letters.foldr .letter rest

/-- The name of the attribute for kinds. -/
def kindName : Name := { first := 't', more := "ype".toList }

/-- The name of keywords. -/
def keywordName : Name := { first := 'k', more := "eyword".toList }

/-- The text of a pattern with a comment inside and a character by its number. -/
def patternContent : Markup :=
  contentOf (plainLetters "pass".toList) (.aside (.comment " or any word ".toList)
    (.letter (.numbered 'w' { hex := true, digits := ['7', '7'] } (by decide))
      (contentOf (plainLetters "or*d".toList) .done)))

/-- The text of a literal with an entity and a carriage return. -/
def literalContent : Markup :=
  contentOf (plainLetters "a".toList)
    (.letter (.entity { first := 'l', more := ['t'] } '<' (by decide))
      (.letter (.numbered '\r' { hex := false, digits := ['1', '3'] } (by decide))
        (contentOf (plainLetters "b".toList) .done)))

/-- The tag of a keyword that is a pattern. -/
def patternTag : Tag where
  name := keywordName
  attributes := [{ name := kindName, value := plainLetters " ReGeX\t".toList }]

/-- The tag of a keyword that is taken as it is. -/
def literalTag : Tag where
  name := keywordName
  attributes := [{ name := kindName, value := plainLetters "text".toList }]

/-- The tag of a keyword that is a pattern, in its plain spelling. -/
def regexTag : Tag where
  name := keywordName
  attributes := [{ name := kindName, value := plainLetters "regex".toList }]

/-- A document with two keywords, one of them two levels down. -/
def keywordsDocument : WrittenDocument where
  heading := .encoding
  before := [.blank '\n' (by decide), .aside (.comment " what to look for ".toList)]
  tag := { name := { first := 'r', more := "ules".toList } }
  inner :=
    contentOf (plainLetters "\n  ".toList)
      (.element { name := { first := 'g', more := "roup".toList } }
        (.element patternTag patternContent .done) (.element literalTag literalContent .done))
  behind := [.aside (.instruction { first := 'e', more := "nd".toList } [])]

/-- A document with one pattern. -/
def patternDocument (text : List Char) (h : text.all isPlain = true) : WrittenDocument where
  heading := .absent
  before := []
  tag := { name := { first := 'k', more := [] } }
  inner := .element regexTag (contentOf (plainLetters text h) .done) .done
  behind := []

/-- A document whose root is its only entry. -/
def objectTypesDocument : WrittenDocument where
  heading := .absent
  before := []
  tag :=
    { name := { first := 'o', more := "bject-type".toList }
      attributes := [{ name := kindName, value := plainLetters "class".toList }] }
  inner := contentOf (plainLetters "Request".toList) .done
  behind := []

/-- A document without entries. -/
def exclusionsDocument : WrittenDocument where
  heading := .version
  before := []
  tag := { name := { first := 'e', more := "xclusions".toList } }
  inner := .aside (.comment " none ".toList) .done
  behind := []

/-- A document with blanks around its entry. -/
def directoriesDocument : WrittenDocument where
  heading := .absent
  before := []
  tag := { name := { first := 'd', more := "irectories".toList } }
  inner :=
    .element { name := { first := 'd', more := "irectory".toList } }
      (contentOf (plainLetters "\n  src/main ".toList) .done) .done
  behind := []

/-- The rules that these documents list. -/
def listedRules (pattern : Pattern) : RuleSet where
  keywords := [⟨"passwor*d", some pattern⟩, Rule.literal "a<\rb"]
  objectTypes := [Rule.literal "Request"]
  scanDirectories := ["src/main"]

/-- A directory with four files. -/
def directoryOf (keywords objectTypes exclusions scanDirectories : List UInt8) : Tree where
  entries :=
    [(["config"], .directory), (["config", "keywords.xml"], .file keywords),
      (["config", "object-types.xml"], .file objectTypes),
      (["config", "exclusions.xml"], .file exclusions),
      (["config", "scan-directories.xml"], .file scanDirectories)]

theorem ofText_config : Path.ofText "config" = ⟨"", ["config"]⟩ := by
  cbv

theorem startsAt_config {tree : Tree} (hcurrent : tree.current = []) (hbars : tree.bars = [])
    (h : tree.node? ["config"] = some .directory) :
    StartsAt tree (Path.ofText "config") ["config"] := by
  have hfits : Fits ⟨"", ["config"]⟩ := by
    rw [Fits]
    decide +kernel
  have hstart : Path.start ⟨"", ["config"]⟩ tree.current = [] := hcurrent
  have hopen : tree.bar? [] .search = none := by rw [Tree.bar?, hbars]; rfl
  constructor
  rw [ofText_config, locate_of_fits hfits, hstart,
    locateFrom_entry (by decide +kernel) rfl hopen h nofun, List.nil_append, Tree.locateFrom, h]

theorem isListable_config {tree : Tree} (hcurrent : tree.current = []) (hbars : tree.bars = [])
    (h : tree.node? ["config"] = some .directory) :
    tree.leadsToDirectory (Path.ofText "config") = true ∧
      tree.isListable (Path.ofText "config") = true := by
  have hlocate := (startsAt_config hcurrent hbars h).locate
  have hopen : tree.bar? ["config"] .read = none := by rw [Tree.bar?, hbars]; rfl
  exact ⟨by simp only [Tree.leadsToDirectory, hlocate],
    by simp only [Tree.isListable, hlocate, hopen]; rfl⟩

theorem read_config {tree : Tree} (hcurrent : tree.current = []) (hbars : tree.bars = [])
    {name : String} {bytes : List UInt8} (hnames : WellNamed tree)
    (h : tree.node? ["config"] = some .directory)
    (hfile : tree.node? ["config", name] = some (.file bytes)) (hfits : Fits ⟨"", ["config", name]⟩) :
    tree.read ((Path.ofText "config").child name) = .ok bytes := by
  have hstart := startsAt_config hcurrent hbars h
  have hopen : ∀ place access, tree.bar? place access = none := by
    intro place access
    rw [Tree.bar?, hbars]
    rfl
  have hlocate : tree.locate ((Path.ofText "config").child name) true =
      .ok (["config", name], .file bytes) := by
    have hpath : (Path.ofText "config").child name = descend (Path.ofText "config") ([] ++ [name]) := rfl
    have hname : IsEntryName name := @isEntryName_of_node? tree ["config"] name hnames _ hfile
    rw [hpath]
    refine hstart.locate_entry hnames hstart.descends (hopen _ _) hname ?_ true hfile nofun
    rwa [← hpath, ofText_config]
  simp only [Tree.read, hlocate, hopen]

theorem lists_keywords (pattern : Pattern) :
    Lists "keyword" WritesRule keywordsDocument.inner (listedRules pattern).keywords := by
  have hpattern : Lists "keyword" WritesRule (.element patternTag patternContent .done)
      [⟨"passwor*d", some pattern⟩] := by
    have hleading : patternContent.leading = "passwor*d".toList := by decide
    have hkind : RuleKind.ofAttribute " ReGeX " = .pattern := by decide +kernel
    exact .entry rfl rfl ⟨pads_of_eq hleading, _, List.mem_singleton_self _,
      tellsKind_of_value rfl rfl (by decide) hkind⟩ .done
  have hliteral : Lists "keyword" WritesRule (.element literalTag literalContent .done)
      [Rule.literal "a<\rb"] := by
    have hleading : literalContent.leading = "a<\rb".toList := by decide
    have hkind : RuleKind.ofAttribute "text" = .literal := by decide +kernel
    exact .entry rfl rfl ⟨pads_of_eq hleading, _, List.mem_singleton_self _,
      tellsKind_of_value rfl rfl (by decide) hkind⟩ .done
  exact .letter (.letter (.letter (.nest (by decide) hpattern hliteral)))

/-- The documents above. -/
def listedDocuments (pattern : Pattern) : RuleDocuments (listedRules pattern) where
  keywords := keywordsDocument
  objectTypes := objectTypesDocument
  exclusions := exclusionsDocument
  scanDirectories := directoriesDocument
  keywords_listed := .nest (by decide) (lists_keywords pattern) .done
  objectTypes_listed := .entry rfl rfl ⟨pads_of_eq (by decide), _, List.mem_singleton_self _,
    tellsKind_of_value rfl rfl (by decide)
      (by decide +kernel : RuleKind.ofAttribute "class" = .literal)⟩ .done
  exclusions_listed := .nest (by decide) (.aside .done) .done
  scanDirectories_listed := by
    have hentry : Lists "directory" WritesDirectory directoriesDocument.inner ["src/main"] :=
      .entry rfl rfl ⟨['\n', ' ', ' '], [' '], List.all_eq_true.mp (by decide),
        List.all_eq_true.mp (by decide), rfl⟩ .done
    exact .nest (by decide) hentry .done

theorem heldIn_config (pattern : Pattern) :
    (listedDocuments pattern).HeldIn (directoryOf keywordsDocument.bytes objectTypesDocument.bytes
      exclusionsDocument.bytes directoriesDocument.bytes) (Path.ofText "config") where
  isDirectory := (isListable_config rfl rfl rfl).1
  isListable := (isListable_config rfl rfl rfl).2
  keywords := read_config rfl rfl (by decide +kernel) rfl rfl (by rw [Fits]; decide +kernel)
  objectTypes := read_config rfl rfl (by decide +kernel) rfl rfl (by rw [Fits]; decide +kernel)
  exclusions := read_config rfl rfl (by decide +kernel) rfl rfl (by rw [Fits]; decide +kernel)
  scanDirectories := read_config rfl rfl (by decide +kernel) rfl rfl (by rw [Fits]; decide +kernel)

theorem entryText_of_ends {text : String} (hsome : text ≠ "")
    (hfront : text.toList.head?.any isBlank = false) (hback : text.toList.getLast?.any isBlank = false)
    (hchars : text.toList.all isXmlChar = true) : EntryText text where
  some_text := hsome
  unpadded := by
    constructor
    · intro c hc
      rwa [Option.mem_def.mp hc] at hfront
    · intro c hc
      rwa [Option.mem_def.mp hc] at hback
  chars := List.all_eq_true.mp hchars

theorem validRule_literal {engine : Pattern.Engine} {text : String} (h : EntryText text) :
    ValidRule engine (Rule.literal text) :=
  ⟨h, nofun⟩

theorem validRule_pattern {engine : Pattern.Engine} {text : String} {pattern : Pattern} (h : EntryText text)
    (hcompile : Pattern.compile engine text = .ok pattern) : ValidRule engine ⟨text, some pattern⟩ :=
  ⟨h, fun other hother => by rw [hcompile, Option.some.inj hother]⟩

theorem validRules_listed {engine : Pattern.Engine} {pattern : Pattern}
    (h : Pattern.compile engine "passwor*d" = .ok pattern) :
    ValidRules engine (listedRules pattern) where
  keywords := by
    rw [listedRules, List.forall_mem_cons, List.forall_mem_singleton]
    exact ⟨validRule_pattern (entryText_of_ends (by decide) (by decide) (by decide) (by decide)) h,
      validRule_literal (entryText_of_ends (by decide) (by decide) (by decide) (by decide))⟩
  objectTypes := by
    rw [listedRules, List.forall_mem_singleton]
    exact validRule_literal (entryText_of_ends (by decide) (by decide) (by decide) (by decide))
  exclusions := nofun
  scanDirectories := by
    rw [listedRules, List.forall_mem_singleton]
    exact entryText_of_ends (by decide) (by decide) (by decide) (by decide)

/-- An engine that knows no names of characters and takes one group in another. -/
def smallEngine : Pattern.Engine where
  charNamed? := fun _ => none
  deepest := 2

/-- Nested elements, comments, references and blanks do not change what is loaded. -/
theorem loadRules_written_nested :
    ∃ pattern, Pattern.compile smallEngine "passwor*d" = .ok pattern ∧
      loadRules asciiCodecs smallEngine (directoryOf keywordsDocument.bytes objectTypesDocument.bytes
        exclusionsDocument.bytes directoriesDocument.bytes) (some "config") =
          .ok { listedRules pattern with source := some "config" } := by
  have hcompiles : (Pattern.compile smallEngine "passwor*d").toOption.isSome = true := by decide +kernel
  obtain ⟨pattern, hsome⟩ := Option.isSome_iff_exists.mp hcompiles
  have hpattern := eq_ok_of_toOption hsome
  exact ⟨pattern, hpattern, (loadRules_written (validRules_listed hpattern)).2
    (listedDocuments pattern) asciiCodecs _ "config" (by decide) (heldIn_config pattern)⟩

end LogAudit
