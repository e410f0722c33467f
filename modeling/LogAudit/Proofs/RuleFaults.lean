import Mathlib
import LogAudit.CommandLine.Run
import LogAudit.Proofs.Halting
import LogAudit.Proofs.RuleDocuments

/-! # Failures that are not reported

A directory of rules that cannot be loaded is reported as an error of the configuration, but for a few
reasons: the system bars a path, a document declares an encoding that cannot be used, or a pattern repeats
something too often, nests its groups too deeply or asks for two alphabets at once. The first thing wrong
decides.

* `Xml.Unusable`: the encodings that cannot be used.
* `FirstIs`: what is wrong comes behind things that are not.
* `Unhandled`: the directories whose failure is not reported.
* `rules_reported_iff`: all other failures are reported, and the program shows them. -/

namespace LogAudit.Xml
set_option autoImplicit false

open Encoding

/-! ## Declared encodings -/

/-- The encodings that every document can declare. -/
def ownEncodings : List String :=
  ["UTF-8", "ISO-8859-1", "US-ASCII", "UTF-16", "UTF-16LE", "UTF-16BE"]

/-- The form in which names of further sets are compared. -/
def furtherForm (name : String) : String :=
  String.ofList ((normalized name).toList.map fun c => if c = '.' then '_' else c)

/-- Whether a set has no decoder that reads one byte at a time. -/
def IsUndecodable (name : String) : Option Charset → Prop
  | none => True
  | some .transform => True
  | some .refusing => True
  | some .utf16 => True
  | some .utf16Little => True
  | some .utf16Big => True
  | some .utf32 => True
  | some .utf32Little => True
  | some .utf32Big => True
  | some .wide => True
  | some .other => furtherForm name = "idna" ∨ furtherForm name = "punycode"
  | some _ => False

/-- An encoding that cannot be used by a document that declares it. -/
def Unusable (name : String) : Prop :=
  String.ofList (name.toList.map Char.toUpper) ∉ ownEncodings ∧ IsUndecodable name (Charset.named? name)

/-- The encoding that a document declares. -/
def declaredEncoding? (bytes : List UInt8) : Option String :=
  match readTextDeclaration (dropMark ((widthOf bytes).decoder bytes).text) with
  | .ok (some (declared, _)) => declared.encoding?.map (·.1)
  | _ => none

/-- Whether a failure is at a place in the text. -/
def Failure.isMalformed : Failure → Bool
  | .malformed _ _ _ => true
  | _ => false

/-- A declared name that leads to a failure. -/
def Declared.Fails (declared : Declared) : Prop :=
  ∃ failure, declared = .failed failure ∧ failure.isMalformed = false

theorem furtherSet_fails_iff {codecs : Codecs} {name : String} :
    (furtherSet codecs name).Fails ↔ furtherForm name = "idna" ∨ furtherForm name = "punycode" := by
  unfold furtherSet
  simp only [beq_iff_eq]
  change (if furtherForm name = "idna" then _ else if furtherForm name = "punycode" then _ else
    if discordantNames.contains (furtherForm name) = true then _ else _ : Declared).Fails ↔ _
  split_ifs with hidna hpunycode hdiscordant
  · exact iff_of_true ⟨_, rfl, rfl⟩ (Or.inl hidna)
  · exact iff_of_true ⟨_, rfl, rfl⟩ (Or.inr hpunycode)
  · exact iff_of_false nofun (not_or.mpr ⟨hidna, hpunycode⟩)
  · exact iff_of_false nofun (not_or.mpr ⟨hidna, hpunycode⟩)

theorem namedDecoder_fails_iff {codecs : Codecs} {name : String} :
    (namedDecoder codecs name).Fails ↔ IsUndecodable name (Charset.named? name) := by
  unfold namedDecoder
  cases Charset.named? name with
  | none => exact iff_of_true ⟨_, rfl, rfl⟩ trivial
  | some charset =>
    cases charset with
    | other => exact furtherSet_fails_iff
    | utf8 | utf8Marked | ascii | latin1 | windows1252 => exact iff_of_false nofun id
    | _ => exact iff_of_true ⟨_, rfl, rfl⟩ trivial

theorem declaredDecoder_own {codecs : Codecs} {width : Width} {name : String}
    (h : String.ofList (name.toList.map Char.toUpper) ∈ ownEncodings) :
    ¬ (declaredDecoder codecs width name).Fails := by
  have hwidth : ∀ (fits : Bool) (decoder : Decoder),
      ¬ (if fits = true then Declared.decoder decoder else .faulty .wrongEncoding).Fails := by
    intro fits decoder
    cases fits <;> exact nofun
  simp only [ownEncodings, List.mem_cons, List.not_mem_nil, or_false] at h
  unfold declaredDecoder
  obtain h | h | h | h | h | h := h <;> simp only [h] <;> exact hwidth _ _

theorem declaredDecoder_further {codecs : Codecs} {width : Width} {name : String}
    (h : String.ofList (name.toList.map Char.toUpper) ∉ ownEncodings) :
    declaredDecoder codecs width name = namedDecoder codecs name := by
  simp only [ownEncodings, List.mem_cons, List.not_mem_nil, or_false, not_or] at h
  simp only [declaredDecoder, beq_iff_eq, h, if_false]

theorem declaredDecoder_fails_iff (codecs : Codecs) (width : Width) (name : String) :
    (declaredDecoder codecs width name).Fails ↔ Unusable name := by
  by_cases hown : String.ofList (name.toList.map Char.toUpper) ∈ ownEncodings
  · exact iff_of_false (declaredDecoder_own hown) fun h => h.1 hown
  · rw [declaredDecoder_further hown, namedDecoder_fails_iff, Unusable]
    exact (and_iff_right hown).symm

/-- A parse that fails, but not at a place in the text. -/
def Fails (result : Except Failure Element) : Prop :=
  ∃ failure, result = .error failure ∧ failure.isMalformed = false

theorem not_fails_inText (text : List Char) (result : Except Halt Element) :
    ¬ Fails (result.mapError (Halt.inText text)) := by
  rintro ⟨failure, heq, hmalformed⟩
  cases result with
  | ok element => cases heq
  | error halt =>
    obtain rfl := Except.error.inj heq
    cases hmalformed

/-- A document fails otherwise than at a place in its text exactly if it declares an encoding that
cannot be used. -/
theorem parseDocument_fails_iff {codecs : Codecs} {bytes : List UInt8} :
    Fails (parseDocument codecs bytes) ↔
      ∃ name, declaredEncoding? bytes = some name ∧ Unusable name := by
  unfold parseDocument declaredEncoding?
  dsimp only
  cases hdeclaration : readTextDeclaration (dropMark ((widthOf bytes).decoder bytes).text) with
  | error halt =>
    refine iff_of_false ?_ (by simp)
    exact not_fails_inText _ (.error halt)
  | ok found =>
    cases found with
    | none => exact iff_of_false (not_fails_inText _ _) (by simp)
    | some pair =>
      obtain ⟨declared, after⟩ := pair
      cases hencoding : declared.encoding? with
      | none =>
        simp only [hencoding]
        exact iff_of_false (not_fails_inText _ _) (by simp)
      | some encoding =>
        obtain ⟨name, place⟩ := encoding
        simp only [hencoding, Option.map_some, Option.some.injEq, exists_eq_left']
        rw [← declaredDecoder_fails_iff codecs (widthOf bytes)]
        cases hdecoder : declaredDecoder codecs (widthOf bytes) name with
        | faulty fault => exact iff_of_false (not_fails_inText _ (.error _)) nofun
        | failed failure =>
          constructor
          · rintro ⟨other, heq, hmalformed⟩
            obtain rfl : failure = other := Except.error.inj heq
            exact ⟨failure, rfl, hmalformed⟩
          · rintro ⟨other, heq, hmalformed⟩
            obtain rfl := Declared.failed.inj heq
            exact ⟨failure, rfl, hmalformed⟩
        | decoder decoder => exact iff_of_false (not_fails_inText _ _) nofun

end LogAudit.Xml

namespace LogAudit

open Files Text Encoding

/-! ## The first thing wrong -/

section First

variable {α : Type} {good bad : α → Prop}

/-- The first of several things that is not good is bad. -/
def FirstIs (good bad : α → Prop) (xs : List α) : Prop :=
  ∃ before x after, xs = before ++ x :: after ∧ (∀ y ∈ before, good y) ∧ bad x

theorem not_firstIs_nil : ¬ FirstIs good bad [] := by
  rintro ⟨before, x, after, heq, _⟩
  simp at heq

theorem firstIs_cons {x : α} {xs : List α} :
    FirstIs good bad (x :: xs) ↔ bad x ∨ good x ∧ FirstIs good bad xs := by
  constructor
  · rintro ⟨before, y, after, heq, hbefore, hbad⟩
    cases before with
    | nil =>
      obtain ⟨rfl, rfl⟩ := List.cons.inj heq
      exact Or.inl hbad
    | cons z before =>
      obtain ⟨rfl, rfl⟩ := List.cons.inj heq
      obtain ⟨hgood, hmore⟩ := List.forall_mem_cons.mp hbefore
      exact Or.inr ⟨hgood, before, y, after, rfl, hmore, hbad⟩
  · rintro (hbad | ⟨hgood, before, y, after, rfl, hbefore, hbad⟩)
    · exact ⟨[], x, xs, rfl, nofun, hbad⟩
    · exact ⟨x :: before, y, after, rfl, List.forall_mem_cons.mpr ⟨hgood, hbefore⟩, hbad⟩

end First

/-! ## Outcomes -/

section Outcomes

variable {α β : Type}

/-- Whether a failure is reported as an error of the configuration, with one of its two codes. -/
def RuleFileFailure.IsReported (failure : RuleFileFailure) : Prop :=
  failure.code? = some "CONFIGURATION_ERROR" ∨ failure.code? = some "INVALID_RULE"

theorem isReported_iff {failure : RuleFileFailure} : failure.IsReported ↔ failure.code? ≠ none := by
  unfold RuleFileFailure.IsReported RuleFileFailure.code?
  split <;> simp

/-- Something is loaded. -/
def Loaded (result : Except RuleFileFailure α) : Prop := ∃ value, result = .ok value

/-- Something fails with a failure that is not reported. -/
def Unreported (result : Except RuleFileFailure α) : Prop :=
  ∃ failure, result = .error failure ∧ failure.code? = none

theorem loaded_ok {value : α} : Loaded (.ok value : Except RuleFileFailure α) :=
  ⟨value, rfl⟩

theorem not_loaded_error {failure : RuleFileFailure} :
    ¬ Loaded (.error failure : Except RuleFileFailure α) := by
  rintro ⟨value, heq⟩
  cases heq

theorem not_unreported_ok {value : α} : ¬ Unreported (.ok value : Except RuleFileFailure α) := by
  rintro ⟨failure, heq, _⟩
  cases heq

theorem unreported_error_iff {failure : RuleFileFailure} :
    Unreported (.error failure : Except RuleFileFailure α) ↔ failure.code? = none := by
  constructor
  · rintro ⟨other, heq, hcode⟩
    rw [Except.error.inj heq]
    exact hcode
  · exact fun hcode => ⟨failure, rfl, hcode⟩

theorem unreported_bind_iff {result : Except RuleFileFailure α}
    {next : α → Except RuleFileFailure β} {later : Prop}
    (hlater : ∀ value, Unreported (next value) ↔ later) :
    Unreported (result >>= next) ↔ Unreported result ∨ Loaded result ∧ later := by
  cases result with
  | error failure =>
    change Unreported (.error failure) ↔ _
    simp only [unreported_error_iff, not_loaded_error, false_and, or_false]
  | ok value =>
    change Unreported (next value) ↔ _
    simp only [hlater, not_unreported_ok, loaded_ok, false_or, true_and]

theorem loaded_bind_iff {result : Except RuleFileFailure α}
    {next : α → Except RuleFileFailure β} {later : Prop}
    (hlater : ∀ value, Loaded (next value) ↔ later) :
    Loaded (result >>= next) ↔ Loaded result ∧ later := by
  cases result with
  | error failure => exact iff_of_false not_loaded_error fun h => not_loaded_error h.1
  | ok value =>
    change Loaded (next value) ↔ _
    simp only [hlater, loaded_ok, true_and]

theorem loaded_bind_pure_iff {result : Except RuleFileFailure α} {f : α → β} :
    Loaded (result >>= fun value => pure (f value)) ↔ Loaded result :=
  (loaded_bind_iff fun _ => iff_true_intro ⟨_, rfl⟩).trans (and_iff_left trivial)

theorem unreported_bind_pure_iff {result : Except RuleFileFailure α} {f : α → β} :
    Unreported (result >>= fun value => pure (f value)) ↔ Unreported result :=
  (unreported_bind_iff fun _ => iff_false_intro not_unreported_ok).trans (by rw [and_false, or_false])

end Outcomes

/-! ## Entries -/

/-- The value of the attribute for kinds. -/
def kindText (element : Xml.Element) : String := (element.attribute? "type").getD ""

/-- An element that is a rule: it has a text and a kind, and as a pattern it compiles. -/
structure GoodRule (engine : Pattern.Engine) (element : Xml.Element) : Prop where
  text : trim element.text ≠ ""
  kind : trim (kindText element) ≠ ""
  compiles : SpellsPattern (kindText element).toList →
    ∃ pattern, Pattern.compile engine (trim element.text) = .ok pattern

/-- An element that is a pattern which repeats something too often, asks for two alphabets or has too
many groups inside of each other. -/
structure OddPattern (engine : Pattern.Engine) (element : Xml.Element) : Prop where
  text : trim element.text ≠ ""
  kind : SpellsPattern (kindText element).toList
  fails : Pattern.compile engine (trim element.text) = .error .countTooLarge ∨
    Pattern.compile engine (trim element.text) = .error .conflictingAlphabets ∨
    Pattern.compile engine (trim element.text) = .error .tooDeep

theorem isBlankText_trim {text : String} (h : trim text ≠ "") : isBlankText (trim text) = false := by
  have hunpadded := unpadded_trimmed text.toList
  cases hchars : trimmed text.toList with
  | nil => exact absurd (by rw [trim, hchars]) h
  | cons c chars =>
    rw [hchars] at hunpadded
    rw [isBlankText, trim, String.toList_ofList, hchars, List.all_cons, hunpadded.front c rfl,
      Bool.false_and]

theorem trim_ne_empty_of_spellsPattern {value : String} (h : SpellsPattern value.toList) :
    trim value ≠ "" := by
  intro hempty
  rw [← ofAttribute_eq_pattern_iff, ← ofAttribute_trim, hempty] at h
  exact absurd h (by decide +kernel)

section RuleOf

variable {element : Xml.Element} (engine : Pattern.Engine) (file : Path) (tag : String) (position : Nat)

theorem ruleOf_of_blank (htext : trim element.text = "") :
    ruleOf engine file tag position element = .error (.emptyEntry file tag position) := by
  simp only [ruleOf, htext, if_true]

theorem ruleOf_of_unkind (htext : trim element.text ≠ "") (hkind : trim (kindText element) = "") :
    ruleOf engine file tag position element = .error (.missingKind file tag (trim element.text)) := by
  rw [kindText] at hkind
  simp only [ruleOf, htext, hkind, if_true, if_false]

/-- Where the text and the kind are there, the pattern decides. -/
theorem ruleOf_of_kind (htext : trim element.text ≠ "") (hkind : trim (kindText element) ≠ "") :
    ruleOf engine file tag position element =
      (Rule.make engine (RuleKind.ofAttribute (kindText element)) (trim element.text)).mapError
        (.invalidRule file tag (trim element.text)) := by
  rw [← ofAttribute_trim]
  rw [kindText] at hkind ⊢
  simp only [ruleOf, htext, hkind, if_false]

end RuleOf

/-- What becomes of an element that should be a rule. -/
theorem ruleOf_outcome (engine : Pattern.Engine) (file : Path) (tag : String) (position : Nat)
    (element : Xml.Element) :
    (Loaded (ruleOf engine file tag position element) ↔ GoodRule engine element) ∧
      (Unreported (ruleOf engine file tag position element) ↔ OddPattern engine element) := by
  by_cases htext : trim element.text = ""
  · rw [ruleOf_of_blank engine file tag position htext, unreported_error_iff]
    exact ⟨iff_of_false not_loaded_error fun h => h.text htext,
      iff_of_false (by simp [RuleFileFailure.code?]) fun h => h.text htext⟩
  by_cases hkind : trim (kindText element) = ""
  · rw [ruleOf_of_unkind engine file tag position htext hkind, unreported_error_iff]
    exact ⟨iff_of_false not_loaded_error fun h => h.kind hkind,
      iff_of_false (by simp [RuleFileFailure.code?]) fun h => trim_ne_empty_of_spellsPattern h.kind hkind⟩
  rw [ruleOf_of_kind engine file tag position htext hkind]
  simp only [Rule.make, isBlankText_trim htext, Bool.false_eq_true, if_false]
  cases hpattern : RuleKind.ofAttribute (kindText element) with
  | literal =>
    have hspells : ¬ SpellsPattern (kindText element).toList := by
      rw [← ofAttribute_eq_pattern_iff, hpattern]
      decide
    exact ⟨iff_of_true loaded_ok ⟨htext, hkind, fun h => absurd h hspells⟩,
      iff_of_false not_unreported_ok fun h => hspells h.kind⟩
  | pattern =>
    have hspells := (ofAttribute_eq_pattern_iff _).mp hpattern
    have hgood : GoodRule engine element ↔
        ∃ pattern, Pattern.compile engine (trim element.text) = .ok pattern :=
      ⟨fun h => h.compiles hspells, fun h => ⟨htext, hkind, fun _ => h⟩⟩
    have hodd : OddPattern engine element ↔
        Pattern.compile engine (trim element.text) = .error .countTooLarge ∨
        Pattern.compile engine (trim element.text) = .error .conflictingAlphabets ∨
        Pattern.compile engine (trim element.text) = .error .tooDeep :=
      ⟨fun h => h.fails, fun h => ⟨htext, hspells, h⟩⟩
    rw [hgood, hodd]
    cases Pattern.compile engine (trim element.text) with
    | ok pattern => exact ⟨iff_of_true loaded_ok ⟨pattern, rfl⟩, iff_of_false not_unreported_ok (by simp)⟩
    | error fault =>
      refine ⟨iff_of_false ?_ (by simp), ?_⟩
      · cases fault <;> exact not_loaded_error
      · cases fault with
        | malformed fault place =>
          refine iff_of_false (fun h => ?_) (by simp)
          cases unreported_error_iff.mp h
        | countTooLarge => exact iff_of_true (unreported_error_iff.mpr rfl) (Or.inl rfl)
        | conflictingAlphabets => exact iff_of_true (unreported_error_iff.mpr rfl) (Or.inr (Or.inl rfl))
        | tooDeep => exact iff_of_true (unreported_error_iff.mpr rfl) (Or.inr (Or.inr rfl))

/-- What becomes of the elements that should be rules. -/
theorem rulesFrom_outcome (engine : Pattern.Engine) (file : Path) (tag : String) (position : Nat)
    (elements : List Xml.Element) :
    (Loaded (rulesFrom engine file tag position elements) ↔ ∀ element ∈ elements, GoodRule engine element) ∧
      (Unreported (rulesFrom engine file tag position elements) ↔
        FirstIs (GoodRule engine) (OddPattern engine) elements) := by
  induction elements generalizing position with
  | nil => exact ⟨iff_of_true loaded_ok nofun, iff_of_false not_unreported_ok not_firstIs_nil⟩
  | cons element elements ih =>
    obtain ⟨hloaded, hunreported⟩ := ruleOf_outcome engine file tag position element
    obtain ⟨hall, hfirst⟩ := ih (position + 1)
    rw [rulesFrom, List.forall_mem_cons, firstIs_cons, ← hloaded, ← hunreported, ← hall, ← hfirst]
    constructor
    · exact loaded_bind_iff fun rule => loaded_bind_pure_iff
    · exact unreported_bind_iff fun rule => unreported_bind_pure_iff

/-- What becomes of the elements that should be directories. -/
theorem directoriesFrom_outcome (file : Path) (position : Nat) (elements : List Xml.Element) :
    (Loaded (directoriesFrom file position elements) ↔ ∀ element ∈ elements, trim element.text ≠ "") ∧
      (Unreported (directoriesFrom file position elements) ↔
        FirstIs (fun element => trim element.text ≠ "") (fun _ => False) elements) := by
  induction elements generalizing position with
  | nil => exact ⟨iff_of_true loaded_ok nofun, iff_of_false not_unreported_ok not_firstIs_nil⟩
  | cons element elements ih =>
    obtain ⟨hall, hfirst⟩ := ih (position + 1)
    rw [List.forall_mem_cons, firstIs_cons, false_or, ← hall, ← hfirst, directoriesFrom]
    by_cases htext : trim element.text = ""
    · simp only [htext, if_true, ne_eq, not_true_eq_false, false_and]
      refine ⟨iff_false_intro not_loaded_error, iff_false_intro fun h => ?_⟩
      cases unreported_error_iff.mp h
    · simp only [htext, if_false, ne_eq, not_false_eq_true, true_and]
      cases directoriesFrom file (position + 1) elements with
      | ok directories =>
        exact ⟨iff_of_true loaded_ok loaded_ok, iff_of_false not_unreported_ok not_unreported_ok⟩
      | error failure => exact ⟨iff_of_false not_loaded_error not_loaded_error, Iff.rfl⟩

/-! ## Files -/

theorem exists?_cases (tree : Tree) (path : Path) :
    (Barred tree path true ∧ ∃ fault, tree.exists? path = .error fault) ∨
      ¬ Barred tree path true ∧ ∃ found, tree.exists? path = .ok found := by
  unfold Tree.exists? Tree.holds?
  cases hlocate : tree.locate path true with
  | ok entry =>
    refine Or.inr ⟨?_, true, rfl⟩
    rintro ⟨fault, hfault, _⟩
    rw [hlocate] at hfault
    cases hfault
  | error fault =>
    by_cases habsent : Tree.meansAbsent fault = true
    · refine Or.inr ⟨?_, false, if_pos habsent⟩
      intro hbarred
      obtain ⟨other, hother, hpresent⟩ := hbarred.not_absent
      obtain rfl := Except.error.inj (hlocate.symm.trans hother)
      rw [habsent] at hpresent
      cases hpresent
    · exact Or.inl ⟨(locate_fault hlocate).resolve_left habsent, fault, if_neg habsent⟩

/-- A file of rules: its name, the name of its entries, and which of them are good and odd. -/
structure RuleFile where
  name : String
  tag : String
  Good : Xml.Element → Prop
  Odd : Xml.Element → Prop

namespace RuleFile

/-- The file of directories. -/
def directories : RuleFile where
  name := "scan-directories.xml"
  tag := "directory"
  Good := fun element => trim element.text ≠ ""
  Odd := fun _ => False

/-- A file of rules. -/
def rules (engine : Pattern.Engine) (name tag : String) : RuleFile where
  name := name
  tag := tag
  Good := GoodRule engine
  Odd := OddPattern engine

/-- The files of a directory, in the order in which they are read. -/
def all (engine : Pattern.Engine) : List RuleFile :=
  [directories, rules engine "keywords.xml" "keyword", rules engine "object-types.xml" "object-type",
    rules engine "exclusions.xml" "exclusion"]

/-- A file that can be loaded: it is not there, or it is a document and all its entries are good. -/
inductive Loads (codecs : Codecs) (tree : Tree) (directory : Path) (file : RuleFile) : Prop
  | absent (h : tree.exists? (directory.child file.name) = .ok false)
  | document {bytes : List UInt8} {root : Xml.Element}
      (hread : tree.read (directory.child file.name) = .ok bytes)
      (hparse : Xml.parseDocument codecs bytes = .ok root)
      (hentries : ∀ element ∈ root.named file.tag, file.Good element)

/-- A file whose failure is not reported: its path is barred, it declares an encoding that cannot be
used, or the first of its entries that is not good is odd. -/
inductive Escapes (codecs : Codecs) (tree : Tree) (directory : Path) (file : RuleFile) : Prop
  | path (h : Barred tree (directory.child file.name) true)
  | encoding {bytes : List UInt8} {name : String}
      (hread : tree.read (directory.child file.name) = .ok bytes)
      (hdeclared : Xml.declaredEncoding? bytes = some name) (hunusable : Xml.Unusable name)
  | entry {bytes : List UInt8} {root : Xml.Element}
      (hread : tree.read (directory.child file.name) = .ok bytes)
      (hparse : Xml.parseDocument codecs bytes = .ok root)
      (hfirst : FirstIs file.Good file.Odd (root.named file.tag))

end RuleFile

namespace RuleFile

variable (codecs : Codecs) {tree : Tree} {directory : Path} {file : RuleFile}

/-- A file that cannot be read is only loaded if it is not there, and only its path can be odd. -/
theorem unread_outcome (h : ∀ bytes, tree.read (directory.child file.name) ≠ .ok bytes) :
    (file.Loads codecs tree directory ↔ tree.exists? (directory.child file.name) = .ok false) ∧
      (file.Escapes codecs tree directory ↔ Barred tree (directory.child file.name) true) := by
  constructor
  · constructor
    · rintro (habsent | ⟨hread, _, _⟩)
      · exact habsent
      · exact absurd hread (h _)
    · exact .absent
  · constructor
    · rintro (hbarred | ⟨hread, _, _⟩ | ⟨hread, _, _⟩)
      · exact hbarred
      · exact absurd hread (h _)
      · exact absurd hread (h _)
    · exact .path

/-- A file that can be read is loaded if it is a document with good entries only. -/
theorem read_outcome {bytes : List UInt8}
    (h : tree.read (directory.child file.name) = .ok bytes) :
    (file.Loads codecs tree directory ↔ ∃ root, Xml.parseDocument codecs bytes = .ok root ∧
        ∀ element ∈ root.named file.tag, file.Good element) ∧
      (file.Escapes codecs tree directory ↔ Xml.Fails (Xml.parseDocument codecs bytes) ∨
        ∃ root, Xml.parseDocument codecs bytes = .ok root ∧
          FirstIs file.Good file.Odd (root.named file.tag)) := by
  have hexists := exists?_of_read h
  have hpasses : ¬ Barred tree (directory.child file.name) true := by
    rcases exists?_cases tree (directory.child file.name) with ⟨_, fault, hfault⟩ | ⟨hpasses, _⟩
    · rw [hexists] at hfault
      cases hfault
    · exact hpasses
  have hsame : ∀ {other}, tree.read (directory.child file.name) = .ok other → other = bytes :=
    fun hother => (Except.ok.inj (h.symm.trans hother)).symm
  rw [Xml.parseDocument_fails_iff]
  constructor
  · constructor
    · rintro (habsent | ⟨hread, hparse, hentries⟩)
      · rw [hexists] at habsent
        cases habsent
      · exact ⟨_, hsame hread ▸ hparse, hentries⟩
    · rintro ⟨root, hparse, hentries⟩
      exact .document h hparse hentries
  · constructor
    · rintro (hbarred | ⟨hread, hdeclared, hunusable⟩ | ⟨hread, hparse, hfirst⟩)
      · exact absurd hbarred hpasses
      · exact Or.inl ⟨_, hsame hread ▸ hdeclared, hunusable⟩
      · exact Or.inr ⟨_, hsame hread ▸ hparse, hfirst⟩
    · rintro (⟨name, hdeclared, hunusable⟩ | ⟨root, hparse, hfirst⟩)
      · exact .encoding h hdeclared hunusable
      · exact .entry h hparse hfirst

end RuleFile

theorem code?_unparsable {file : Path} {failure : Xml.Failure} :
    (RuleFileFailure.unparsable file failure).code? = none ↔ failure.isMalformed = false := by
  cases failure <;> simp [RuleFileFailure.code?, Xml.Failure.isMalformed]

/-- What becomes of a file. -/
theorem readIfPresent_outcome {α : Type} {codecs : Codecs} {tree : Tree} {directory : Path}
    {file : RuleFile} {read : Path → Xml.Element → Except RuleFileFailure (List α)}
    (hread : ∀ path root,
      (Loaded (read path root) ↔ ∀ element ∈ root.named file.tag, file.Good element) ∧
      (Unreported (read path root) ↔ FirstIs file.Good file.Odd (root.named file.tag))) :
    (Loaded (readIfPresent codecs tree directory file.name read) ↔ file.Loads codecs tree directory) ∧
      (Unreported (readIfPresent codecs tree directory file.name read) ↔
        file.Escapes codecs tree directory) := by
  cases hbytes : tree.read (directory.child file.name) with
  | error fault =>
    have hunread : ∀ bytes, tree.read (directory.child file.name) ≠ .ok bytes := by simp [hbytes]
    obtain ⟨hloads, hescapes⟩ := RuleFile.unread_outcome codecs hunread
    rw [hloads, hescapes]
    rcases exists?_cases tree (directory.child file.name) with
      ⟨hbarred, fault, hexists⟩ | ⟨hpasses, found, hexists⟩
    · simp only [readIfPresent, hexists, unreported_error_iff]
      exact ⟨iff_of_false not_loaded_error (by simp), iff_of_true rfl hbarred⟩
    · cases found with
      | false =>
        simp only [readIfPresent, hexists]
        exact ⟨iff_of_true loaded_ok trivial, iff_of_false not_unreported_ok hpasses⟩
      | true =>
        simp only [readIfPresent, hexists, readDocument, hbytes, unreported_error_iff]
        exact ⟨iff_of_false not_loaded_error (by simp),
          iff_of_false (by simp [RuleFileFailure.code?]) hpasses⟩
  | ok bytes =>
    obtain ⟨hloads, hescapes⟩ := RuleFile.read_outcome codecs hbytes
    rw [hloads, hescapes]
    simp only [readIfPresent, exists?_of_read hbytes, readDocument, hbytes]
    cases hparse : Xml.parseDocument codecs bytes with
    | error failure =>
      refine ⟨iff_of_false not_loaded_error (by simp), ?_⟩
      simp only [Except.mapError, unreported_error_iff, code?_unparsable, Xml.Fails]
      simp
    | ok root =>
      obtain ⟨hloaded, hunreported⟩ := hread (directory.child file.name) root
      simp only [Except.mapError, hloaded, hunreported, Xml.Fails]
      simp

/-! ## Directories -/

theorem directories_outcome (codecs : Codecs) (tree : Tree) (directory : Path) :
    (Loaded (readIfPresent codecs tree directory "scan-directories.xml" directoriesIn) ↔
        RuleFile.directories.Loads codecs tree directory) ∧
      (Unreported (readIfPresent codecs tree directory "scan-directories.xml" directoriesIn) ↔
        RuleFile.directories.Escapes codecs tree directory) :=
  @readIfPresent_outcome _ codecs tree directory RuleFile.directories directoriesIn
    fun path root => directoriesFrom_outcome path 0 (root.named "directory")

theorem rules_outcome (codecs : Codecs) (engine : Pattern.Engine) (tree : Tree) (directory : Path)
    (name tag : String) :
    (Loaded (readIfPresent codecs tree directory name (rulesIn engine tag)) ↔
        (RuleFile.rules engine name tag).Loads codecs tree directory) ∧
      (Unreported (readIfPresent codecs tree directory name (rulesIn engine tag)) ↔
        (RuleFile.rules engine name tag).Escapes codecs tree directory) :=
  @readIfPresent_outcome _ codecs tree directory (RuleFile.rules engine name tag) (rulesIn engine tag)
    fun path root => rulesFrom_outcome engine path tag 0 (root.named tag)

/-- The first of the files that is not loaded decides. -/
theorem loadRulesFrom_unreported_iff (codecs : Codecs) (engine : Pattern.Engine) (tree : Tree)
    (directory : Path) :
    Unreported (loadRulesFrom codecs engine tree directory) ↔
      FirstIs (RuleFile.Loads codecs tree directory) (RuleFile.Escapes codecs tree directory)
        (RuleFile.all engine) := by
  simp only [RuleFile.all, firstIs_cons, not_firstIs_nil, and_false, or_false,
    ← directories_outcome codecs tree directory, ← rules_outcome codecs engine tree directory]
  exact unreported_bind_iff fun _ => unreported_bind_iff fun _ => unreported_bind_iff fun _ =>
    unreported_bind_pure_iff

/-- A directory whose failure is not reported: its path is barred, or it can be listed and the first of its
files that is not loaded fails without report. -/
def Unhandled (codecs : Codecs) (engine : Pattern.Engine) (tree : Tree) (directory : Option String) :
    Prop :=
  ∃ text, directory = some text ∧ isBlankText text = false ∧
    (Barred tree (Path.ofText text) true ∨
      tree.leadsToDirectory (Path.ofText text) = true ∧ tree.isListable (Path.ofText text) = true ∧
        FirstIs (RuleFile.Loads codecs tree (Path.ofText text))
          (RuleFile.Escapes codecs tree (Path.ofText text)) (RuleFile.all engine))

theorem loadRules_unreported_iff (codecs : Codecs) (engine : Pattern.Engine) (tree : Tree)
    (directory : Option String) :
    Unreported (loadRules codecs engine tree directory) ↔ Unhandled codecs engine tree directory := by
  cases directory with
  | none =>
    refine iff_of_false (fun h => ?_) (by simp [Unhandled])
    cases unreported_error_iff.mp h
  | some text =>
    simp only [Unhandled, Option.some.injEq, exists_eq_left']
    cases hblank : isBlankText text with
    | true =>
      simp only [loadRules, hblank, if_true, unreported_error_iff]
      exact iff_of_false (by simp [RuleFileFailure.code?]) (by simp)
    | false =>
      simp only [loadRules, hblank, Bool.false_eq_true, if_false, true_and]
      rcases exists?_cases tree (Path.ofText text) with
        ⟨hbarred, fault, hexists⟩ | ⟨hpasses, found, hexists⟩
      · simp only [hexists, unreported_error_iff]
        exact iff_of_true rfl (Or.inl hbarred)
      · simp only [hexists, hpasses, false_or]
        cases hdirectory : tree.leadsToDirectory (Path.ofText text) with
        | true =>
          obtain rfl : true = found :=
            Except.ok.inj ((exists?_of_leadsToDirectory hdirectory).symm.trans hexists)
          cases hlistable : tree.isListable (Path.ofText text) with
          | true =>
            simp only [Bool.not_true, Bool.false_eq_true, if_false, true_and]
            exact loadRulesFrom_unreported_iff codecs engine tree _
          | false =>
            refine iff_of_false (fun h => ?_) (by simp)
            cases unreported_error_iff.mp h
        | false =>
          refine iff_of_false (fun h => ?_) (by simp)
          cases found <;> cases unreported_error_iff.mp h

/-! ## Runs -/

open CommandLine

/-- A run whose rules cannot be loaded ends before the scan. -/
theorem runScan_stopped {world : World} {options : Options} {settings : Settings}
    {failure : RuleFileFailure} (hsettings : world.toolkit.settings world.environment = .ok settings)
    (hrules : rulesOf world (options.rulesFrom (options.override settings)) = .error failure) :
    ∃ lines, runScan world options = world.stopped [] lines world.tree (.rules failure) := by
  rw [runScan, hsettings]
  dsimp only
  rw [hrules]
  exact ⟨_, rfl⟩

theorem stopped_rules (world : World) (lines : List Log.Line) (failure : RuleFileFailure) :
    (world.stopped [] lines world.tree (.rules failure)).status = 1 ∧
      (world.stopped [] lines world.tree (.rules failure)).shown =
        (if failure.code? = none then [] else
          (world.toolkit.showFailure "Configuration error" failure.message).lines) := by
  have htitle : (Stop.rules failure).title? = failure.code?.map fun _ => "Configuration error" := rfl
  have hmessage : (Stop.rules failure).message = failure.message := rfl
  rw [World.stopped, htitle, hmessage]
  cases failure.code? with
  | none => exact ⟨rfl, rfl⟩
  | some code =>
    dsimp only [Option.map_some]
    split <;> exact ⟨rfl, rfl⟩

theorem loadRules_of_rulesOf {world : World} {directory : Option String} {failure : RuleFileFailure}
    (h : rulesOf world directory = .error failure) :
    loadRules world.machine.codecs world.engine world.tree directory = .error failure := by
  cases directory with
  | none => cases h
  | some name => exact h

/-- A directory of rules is loaded, or its failure is reported, unless one of the reasons applies that
nothing accounts for. A run that cannot load its rules ends with status 1, and it shows the failure
unless one of these reasons applies. -/
theorem rules_reported_iff (world : World) (options : Options) (directory : Option String) :
    ((Loaded (loadRules world.machine.codecs world.engine world.tree directory) ∨
        ∃ failure, loadRules world.machine.codecs world.engine world.tree directory = .error failure ∧
          failure.IsReported) ↔
      ¬ Unhandled world.machine.codecs world.engine world.tree directory) ∧
    ∀ settings failure, world.toolkit.settings world.environment = .ok settings →
      options.rulesFrom (options.override settings) = directory →
      rulesOf world directory = .error failure →
        (runScan world options).status = 1 ∧
        (¬ Unhandled world.machine.codecs world.engine world.tree directory →
          (runScan world options).shown =
            (world.toolkit.showFailure "Configuration error" failure.message).lines) ∧
        (Unhandled world.machine.codecs world.engine world.tree directory →
          (runScan world options).shown = []) := by
  rw [← loadRules_unreported_iff]
  constructor
  · cases loadRules world.machine.codecs world.engine world.tree directory with
    | ok rules => exact iff_of_true (Or.inl loaded_ok) not_unreported_ok
    | error failure =>
      rw [unreported_error_iff, ← ne_eq, ← isReported_iff]
      simp [not_loaded_error]
  · rintro settings failure hsettings rfl hrules
    obtain ⟨lines, hstopped⟩ := runScan_stopped hsettings hrules
    obtain ⟨hstatus, hshown⟩ := stopped_rules world lines failure
    rw [loadRules_of_rulesOf hrules, unreported_error_iff, hstopped, hshown]
    exact ⟨hstatus, fun hcode => if_neg hcode, fun hcode => if_pos hcode⟩

/-! ## Two patterns -/

/-- A directory with a file of keywords only. -/
def keywordsOnly (bytes : List UInt8) : Tree where
  entries := [(["config"], .directory), (["config", "keywords.xml"], .file bytes)]

theorem wellNamed_keywordsOnly (bytes : List UInt8) : WellNamed (keywordsOnly bytes) := by
  have hplaces : ∀ place ∈ [["config"], ["config", "keywords.xml"]], ∀ name ∈ place,
      IsEntryName name := by decide +kernel
  intro entry hentry
  exact hplaces entry.1 (List.mem_map_of_mem hentry)

theorem exists?_config {tree : Tree} (hcurrent : tree.current = []) (hbars : tree.bars = [])
    {name : String} (hnames : WellNamed tree) (hname : IsEntryName name)
    (h : tree.node? ["config"] = some .directory) (hnone : tree.node? ["config", name] = none)
    (hfits : Fits ⟨"", ["config", name]⟩) :
    tree.exists? ((Path.ofText "config").child name) = .ok false := by
  have hstart := startsAt_config hcurrent hbars h
  have hopen : tree.bar? (["config"] ++ []) .search = none := by rw [Tree.bar?, hbars]; rfl
  have hpath : (Path.ofText "config").child name = descend (Path.ofText "config") ([] ++ [name]) := rfl
  have hmissing := hstart.locate_missing hnames hstart.descends hopen hname
    (by rwa [← hpath, ofText_config]) true hnone
  simp only [Tree.exists?, Tree.holds?, hpath, hmissing]
  rfl

theorem plainContent (text : List Char) (h : text.all Xml.isPlain = true) :
    (contentOf (plainLetters text h) .done).leading = text ∧
      (contentOf (plainLetters text h) .done).children = [] := by
  induction text with
  | nil => exact ⟨rfl, rfl⟩
  | cons c text ih =>
    obtain ⟨hleading, hchildren⟩ := ih (Bool.and_eq_true_iff.mp (List.all_cons.symm.trans h)).2
    exact ⟨congrArg (c :: ·) hleading, hchildren⟩

theorem named_patternDocument (text : List Char) (h : text.all Xml.isPlain = true) :
    (patternDocument text h).root.named "keyword" = [regexTag.element text []] := by
  obtain ⟨hleading, hchildren⟩ := plainContent text h
  have hroot : (patternDocument text h).root =
      Xml.Tag.element { name := { first := 'k', more := [] } } [] [regexTag.element text []] := by
    rw [Xml.WrittenDocument.root, patternDocument, Xml.Markup.children, Xml.Markup.leading, hleading,
      hchildren]
    rfl
  rw [hroot, Xml.Element.named, withDescendants_element, Xml.Element.allWithDescendants,
    withDescendants_element]
  rfl

/-- What is wrong with the only pattern of a directory is what is wrong with the directory. -/
theorem loadRules_pattern (codecs : Codecs) {engine : Pattern.Engine} {text : List Char}
    (h : text.all Xml.isPlain = true)
    (hentry : EntryText (String.ofList text)) {failure : RuleFailure}
    (hfails : Rule.make engine .pattern (String.ofList text) = .error failure) :
    loadRules codecs engine (keywordsOnly (patternDocument text h).bytes) (some "config") =
      .error (.invalidRule ((Path.ofText "config").child "keywords.xml") "keyword" (String.ofList text)
        failure) := by
  have hdirectory : (keywordsOnly (patternDocument text h).bytes).leadsToDirectory
      (Path.ofText "config") = true := (isListable_config rfl rfl rfl).1
  have hlistable : (keywordsOnly (patternDocument text h).bytes).isListable
      (Path.ofText "config") = true := (isListable_config rfl rfl rfl).2
  have hnames := wellNamed_keywordsOnly (patternDocument text h).bytes
  have habsent : (keywordsOnly (patternDocument text h).bytes).exists?
      ((Path.ofText "config").child "scan-directories.xml") = .ok false :=
    exists?_config rfl rfl hnames (by decide +kernel) rfl rfl (by rw [Fits]; decide +kernel)
  have hread : (keywordsOnly (patternDocument text h).bytes).read
      ((Path.ofText "config").child "keywords.xml") = .ok (patternDocument text h).bytes :=
    read_config rfl rfl hnames rfl rfl (by rw [Fits]; decide +kernel)
  have htext : trim (regexTag.element text []).text = String.ofList text := by
    refine trim_of_pads (pads_of_eq ?_) hentry.unpadded
    rw [String.toList_ofList]
  have hattribute : (regexTag.element text []).attribute? "type" = some "regex" := by
    rfl
  have hkind : trim ((some "regex").getD "") = "regex" := by
    decide +kernel
  have hrule : ruleOf engine ((Path.ofText "config").child "keywords.xml") "keyword" 0
      (regexTag.element text []) = .error (.invalidRule ((Path.ofText "config").child "keywords.xml")
        "keyword" (String.ofList text) failure) := by
    have hpattern : RuleKind.ofAttribute "regex" = .pattern := by decide +kernel
    simp only [ruleOf, htext, hattribute, hkind, hentry.some_text, hpattern, hfails, if_false]
    rfl
  have hblank : isBlankText "config" = false := by decide
  have hkeywords : readIfPresent codecs (keywordsOnly (patternDocument text h).bytes)
      (Path.ofText "config") "keywords.xml" (rulesIn engine "keyword") = _ :=
    readIfPresent_written hread (rulesIn engine "keyword")
  simp only [loadRules, hblank, exists?_of_leadsToDirectory hdirectory, hdirectory, hlistable,
    loadRulesFrom]
  rw [hkeywords, rulesIn, named_patternDocument, rulesFrom, hrule]
  simp only [readIfPresent, habsent]
  rfl

/-- A pattern that repeats something too often is refused, but not reported. -/
theorem repetition_unreported :
    ∃ failure, loadRules asciiCodecs smallEngine
        (keywordsOnly (patternDocument "x\x7b99999999999\x7d".toList (by decide)).bytes)
        (some "config") = .error failure ∧
      ¬ failure.IsReported := by
  have hentry : EntryText (String.ofList "x\x7b99999999999\x7d".toList) :=
    entryText_of_ends (by decide) (by decide) (by decide) (by decide)
  have hfails : Rule.make smallEngine .pattern (String.ofList "x\x7b99999999999\x7d".toList) =
      .error .countTooLarge := by decide +kernel
  refine ⟨_, loadRules_pattern asciiCodecs (by decide) hentry hfails, ?_⟩
  rw [isReported_iff]
  exact not_not.mpr rfl

/-- Where nothing is set, every setting has its default, and every default passes its check. -/
theorem read_nothing : Settings.read {} [] [] = .ok {} := by
  have hread : (Settings.read {} [] []).toOption = some {} := by decide +kernel
  exact eq_ok_of_toOption hread

/-- A world with one pattern. -/
def worldOf (text : List Char) (h : text.all Xml.isPlain = true) : World where
  toolkit := .usual {} (fun _ => none) 200
  engine := smallEngine
  tree := keywordsOnly (patternDocument text h).bytes
  environment := []
  clock := fun _ => .whole 0
  moment := ⟨2024, 1, 1, 0, 0, 0⟩
  time := ""
  scanId := ""

/-- A group that is not closed is reported, and the program shows it. -/
theorem rules_reported_iff_group :
    ∃ failure, loadRules asciiCodecs smallEngine
        (keywordsOnly (patternDocument ['('] (by decide)).bytes)
        (some "config") = .error failure ∧
      ¬ Unhandled asciiCodecs smallEngine (keywordsOnly (patternDocument ['('] (by decide)).bytes)
        (some "config") ∧
      (runScan (worldOf ['('] (by decide)) { ruleDirectory := some "config" }).status = 1 ∧
      (runScan (worldOf ['('] (by decide)) { ruleDirectory := some "config" }).shown =
        Report.failureLines 200 "Configuration error" failure.message := by
  have hentry : EntryText (String.ofList ['(']) :=
    entryText_of_ends (by decide) (by decide) (by decide) (by decide)
  obtain ⟨fault, position, hfails⟩ : ∃ fault position,
      Rule.make smallEngine .pattern (String.ofList ['(']) = .error (.malformed "(" fault position) :=
    ⟨_, _, by cbv⟩
  have hload := loadRules_pattern asciiCodecs (by decide) hentry hfails
  obtain ⟨hiff, hrun⟩ := rules_reported_iff (worldOf ['('] (by decide))
    { ruleDirectory := some "config" } (some "config")
  have hhandled := hiff.mp (Or.inr ⟨_, hload, Or.inr rfl⟩)
  have hsettings : readSettings {} (fun _ => none) [] = .ok {} := by
    simp only [readSettings, read_nothing]
  obtain ⟨hstatus, hshown, _⟩ := hrun {} _ hsettings rfl hload
  exact ⟨_, hload, hhandled, hstatus, hshown hhandled⟩

end LogAudit
