import Mathlib
import LogAudit.Xml.Content
import LogAudit.Xml.Doctype
import LogAudit.Proofs.CodeSets
import LogAudit.Proofs.Scanning

/-! # Written tokens

How the parts of a document can be written: names, characters, attributes, and markup that carries no
text. Each part carries what makes it well formed, and the lexer finds each part again, whatever
follows it.

* `Letter`: a character, as itself or by a reference.
* `Aside`: a comment or an instruction.
* `Attribute`, `Tag`: the name of an attribute and its quoted value, and a tag with attributes.
* `readContent_letter`, `readContent_aside`, `readContent_opening`, `readContent_closing`: what the
  lexer makes of them in content.
* `openTag_written`: what a tag says. -/

namespace LogAudit.Xml
set_option autoImplicit false

/-! ## Names -/

/-- A name without a colon. -/
structure Name where
  first : Char
  more : List Char
  starts : isNameStart first = true := by decide
  continues : ∀ c ∈ more, isNamePart c = true := by exact List.all_eq_true.mp (by decide)

/-- The characters of a name. -/
def Name.chars (name : Name) : List Char := name.first :: name.more

/-- A name as a text. -/
def Name.text (name : Name) : String := String.ofList name.chars

theorem readName_append (name : Name) {rest : List Char}
    (hrest : ∀ c ∈ rest.head?, isNamePart c = false) :
    readName (name.chars ++ rest) = .found name.text rest := by
  rw [Name.chars, List.cons_append, readName, if_pos name.starts,
    Text.takeWhile_append_stop name.continues hrest, Text.dropWhile_append_stop name.continues hrest]
  rfl

theorem readQualified_append (name : Name) {rest : List Char}
    (hrest : ∀ c ∈ rest.head?, isNamePart c = false ∧ c ≠ ':') :
    readQualified (name.chars ++ rest) = .found name.text rest := by
  rw [readQualified, readName_append name fun c hc => (hrest c hc).1, Lexed.andThen]
  cases rest with
  | nil => rfl
  | cons c rest =>
    have hcolon : c ≠ ':' := (hrest c (by simp)).2
    split
    · next heq => exact absurd (List.cons.inj heq).1 hcolon
    · rfl

/-! ## References -/

/-- The value of a digit. -/
def digitValue? (hex : Bool) : Char → Option Nat := if hex then hexValue? else decimalValue?

/-- The base of a number. -/
def baseOf (hex : Bool) : Nat := if hex then 16 else 10

/-- The number that digits stand for, behind others. -/
def numberFrom (hex : Bool) (value : Nat) (digits : List Char) : Nat :=
  digits.foldl (fun value digit => value * baseOf hex + (digitValue? hex digit).getD 0) value

/-- Digits that stand for a number. -/
structure Numeral (code : Nat) where
  hex : Bool
  digits : List Char
  some_digits : digits ≠ [] := by simp
  valid : ∀ digit ∈ digits, (digitValue? hex digit).isSome = true := by
    exact List.all_eq_true.mp (by decide)
  value : numberFrom hex 0 digits = code := by decide

/-- A numeral in a reference, behind the ampersand. -/
def Numeral.written {code : Nat} (numeral : Numeral code) : List Char :=
  '#' :: ((if numeral.hex then ['x'] else []) ++ numeral.digits)

theorem readNumber_append {hex : Bool} {digits : List Char} (value : Option Nat)
    (hdigits : ∀ digit ∈ digits, (digitValue? hex digit).isSome = true)
    (hsome : digits ≠ [] ∨ value.isSome = true) (rest : List Char) :
    readNumber (baseOf hex) (digitValue? hex) value (digits ++ ';' :: rest) =
      .found (numberFrom hex (value.getD 0) digits) rest := by
  induction digits generalizing value with
  | nil =>
    obtain ⟨number, rfl⟩ := Option.isSome_iff_exists.mp (hsome.resolve_left (by simp))
    have hstop : digitValue? hex ';' = none := by cases hex <;> decide
    simp only [List.nil_append, readNumber, hstop, if_true]
    rfl
  | cons digit digits ih =>
    obtain ⟨hdigit, hmore⟩ := List.forall_mem_cons.mp hdigits
    obtain ⟨number, hnumber⟩ := Option.isSome_iff_exists.mp hdigit
    simp only [List.cons_append, readNumber, hnumber]
    rw [ih _ hmore (Or.inr rfl), numberFrom, numberFrom, List.foldl_cons, hnumber]
    rfl

theorem readReference_numeral {code : Nat} (numeral : Numeral code) (rest : List Char) :
    readReference (numeral.written ++ ';' :: rest) = .found (.character code) rest := by
  obtain ⟨hex, digits, hsome, hvalid, rfl⟩ := numeral
  have hread := readNumber_append none hvalid (Or.inl hsome) rest
  cases hex with
  | true =>
    have hhex : readReference ('#' :: 'x' :: (digits ++ ';' :: rest)) =
        (readNumber (baseOf true) (digitValue? true) none (digits ++ ';' :: rest)).map .character := rfl
    exact hhex.trans (by rw [hread]; rfl)
  | false =>
    have hx : ∀ after, digits ++ ';' :: rest ≠ 'x' :: after := by
      obtain ⟨digit, digits, rfl⟩ := List.exists_cons_of_ne_nil hsome
      intro after heq
      rw [(List.cons.inj heq).1] at hvalid
      exact absurd (hvalid 'x' List.mem_cons_self) (by decide)
    have hdecimal : readReference ('#' :: (digits ++ ';' :: rest)) =
        (readNumber (baseOf false) (digitValue? false) none (digits ++ ';' :: rest)).map .character := by
      unfold readReference
      split
      · next heq => exact absurd (List.cons.inj heq).2 (hx _)
      · next heq =>
        rw [← (List.cons.inj heq).2]
        rfl
      · next hnot => exact absurd rfl (hnot _)
    exact hdecimal.trans (by rw [hread]; rfl)

theorem readReference_name (name : Name) (rest : List Char) :
    readReference (name.chars ++ ';' :: rest) = .found (.entity name.text) rest := by
  have hhash : name.first ≠ '#' := by
    intro h
    exact absurd name.starts (by rw [h]; decide)
  have hname : readName (name.chars ++ ';' :: rest) = .found name.text (';' :: rest) :=
    readName_append name (by simp; decide)
  unfold readReference
  split
  · next heq => exact absurd (List.cons.inj heq).1 hhash
  · next heq => exact absurd (List.cons.inj heq).1 hhash
  · rw [hname]
    rfl

theorem characterOf?_toNat {c : Char} (h : isXmlChar c = true) : characterOf? c.toNat = some c := by
  have hvalid : c.toNat < 55296 ∨ 57343 < c.toNat ∧ c.toNat < 1114112 := c.valid
  have hcode : Char.ofNat c.toNat = c := Char.ofNat_toNat c
  simp only [characterOf?, hcode, h, Bool.and_true]
  rw [if_pos]
  simp only [Bool.and_eq_true, decide_eq_true_eq, Bool.not_eq_true', Bool.and_eq_false_iff,
    decide_eq_false_iff_not]
  omega

/-! ## Characters -/

/-- Whether a character can stand for itself in text and in values. -/
def isPlain (c : Char) : Bool :=
  isXmlChar c && c != '<' && c != '&' && c != '>' && c != '\r'

/-- A character, as itself, by an entity that every document knows, or by its number. -/
inductive Letter
  | plain (c : Char) (h : isPlain c = true)
  | entity (name : Name) (c : Char) (h : knownEntity? name.text = some c)
  | numbered (c : Char) (numeral : Numeral c.toNat) (h : isXmlChar c = true)

namespace Letter

/-- The character that is written. -/
def char : Letter → Char
  | plain c _ => c
  | entity _ c _ => c
  | numbered c _ _ => c

/-- The character that it is in a value: blanks that stand for themselves become spaces. -/
def valueChar : Letter → Char
  | plain c _ => if isSpace c then ' ' else c
  | entity _ c _ => c
  | numbered c _ _ => c

/-- How it is written. -/
def written : Letter → List Char
  | plain c _ => [c]
  | entity name _ _ => '&' :: (name.chars ++ [';'])
  | numbered _ numeral _ => '&' :: (numeral.written ++ [';'])

/-- The token that it is in content. -/
def token : Letter → Token
  | plain c _ => .character c
  | entity name _ _ => .reference (.entity name.text)
  | numbered c _ _ => .reference (.character c.toNat)

end Letter

theorem isPlain_iff {c : Char} :
    isPlain c = true ↔ isXmlChar c = true ∧ c ≠ '<' ∧ c ≠ '&' ∧ c ≠ '>' ∧ c ≠ '\r' := by
  simp [isPlain, and_assoc]

theorem readContent_plain {c : Char} (h : isPlain c = true) {rest : List Char}
    (hrest : ∀ after, rest ≠ ']' :: '>' :: after) :
    readContent (c :: rest) = .found (.character c) rest := by
  obtain ⟨hxml, hless, hand, hgreater, hreturn⟩ := isPlain_iff.mp h
  unfold readContent
  split
  · next heq => cases heq
  · next heq => exact absurd (List.cons.inj heq).1 hless
  · next heq => exact absurd (List.cons.inj heq).1 hand
  · next heq => exact absurd (List.cons.inj heq).1 hreturn
  · next heq => exact absurd (List.cons.inj heq).1 hreturn
  · next heq => exact absurd (List.cons.inj heq).2 (hrest _)
  · next heq =>
    obtain ⟨rfl, rfl⟩ := List.cons.inj heq
    rw [if_pos hxml]

/-- A reference that is read as such, whatever follows it, and that stands for a character. -/
structure Refers (body : List Char) (reference : Reference) (c : Char) : Prop where
  read : ∀ rest, readReference (body ++ rest) = .found reference rest
  char : (∃ name, reference = .entity name ∧ knownEntity? name = some c) ∨
    ∃ code, reference = .character code ∧ characterOf? code = some c

/-- A character stands for itself, or it is written as a reference. -/
theorem Letter.plain_or_refers (letter : Letter) :
    (∃ c h, letter = .plain c h) ∨
      ∃ body reference, letter.written = '&' :: body ∧ letter.token = .reference reference ∧
        letter.valueChar = letter.char ∧ Refers body reference letter.char := by
  cases letter with
  | plain c h => exact Or.inl ⟨c, h, rfl⟩
  | entity name c h =>
    refine Or.inr ⟨name.chars ++ [';'], .entity name.text, rfl, rfl, rfl, fun rest => ?_,
      Or.inl ⟨name.text, rfl, h⟩⟩
    rw [List.append_assoc]
    exact readReference_name name rest
  | numbered c numeral h =>
    refine Or.inr ⟨numeral.written ++ [';'], .character c.toNat, rfl, rfl, rfl, fun rest => ?_,
      Or.inr ⟨c.toNat, rfl, characterOf?_toNat h⟩⟩
    rw [List.append_assoc]
    exact readReference_numeral numeral rest

theorem readContent_letter (letter : Letter) {rest : List Char}
    (hrest : ∀ after, rest ≠ ']' :: '>' :: after) :
    readContent (letter.written ++ rest) = .found letter.token rest := by
  rcases letter.plain_or_refers with ⟨c, h, rfl⟩ | ⟨body, reference, hwritten, htoken, _, hrefers⟩
  · exact readContent_plain h hrest
  · rw [hwritten, htoken, List.cons_append, readContent, hrefers.read rest]
    rfl

/-! ## Comments and instructions -/

/-- Markup that carries no text. A comment holds no two dashes in a row and does not end with one; an
instruction does not hold its own end. -/
inductive Aside
  | comment (text : List Char)
      (chars : ∀ c ∈ text, isXmlChar c = true := by exact List.all_eq_true.mp (by decide))
      (dashes : ¬ ['-', '-'] <:+: text ++ ['-'] := by decide)
  | instruction (target : Name) (body : List Char)
      (unreserved : isReserved target.text = false := by decide)
      (chars : ∀ c ∈ body, isXmlChar c = true := by exact List.all_eq_true.mp (by decide))
      (marks : ¬ ['?', '>'] <:+: body := by decide)

/-- How it is written. -/
def Aside.written : Aside → List Char
  | comment text _ _ => '<' :: '!' :: '-' :: '-' :: (text ++ ['-', '-', '>'])
  | instruction target body _ _ _ =>
    '<' :: '?' :: (target.chars ++ (if body.isEmpty then [] else ' ' :: body) ++ ['?', '>'])

theorem not_infix_tail {α : Type} {word text : List α} {x : α} (h : ¬ word <:+: x :: text) :
    ¬ word <:+: text :=
  fun hpart => h (hpart.trans (List.suffix_cons x text).isInfix)

theorem readComment_append {text : List Char} (hchars : ∀ c ∈ text, isXmlChar c = true)
    (hdashes : ¬ ['-', '-'] <:+: text ++ ['-']) (rest : List Char) :
    readComment (text ++ '-' :: '-' :: '>' :: rest) = .found () rest := by
  induction text with
  | nil => rfl
  | cons c text ih =>
    obtain ⟨hc, hmore⟩ := List.forall_mem_cons.mp hchars
    have hnext := ih hmore (not_infix_tail hdashes)
    rw [List.cons_append, readComment.eq_def]
    dsimp only
    by_cases hdash : c = '-'
    · rw [if_pos hdash]
      subst hdash
      cases text with
      | nil => exact absurd (List.infix_refl _) hdashes
      | cons d text =>
        have hd : d ≠ '-' := by
          rintro rfl
          exact hdashes ⟨[], text ++ ['-'], rfl⟩
        rw [← hnext, List.cons_append]
        split
        · next heq => cases heq
        · next heq => exact absurd (List.cons.inj heq).1 hd
        · next heq => exact absurd (List.cons.inj heq).1 hd
        · next heq => exact absurd (List.cons.inj heq).1 hd
        · rfl
    · rw [if_neg hdash, if_pos hc]
      exact hnext

theorem readInstructionBody_append {body : List Char} (hchars : ∀ c ∈ body, isXmlChar c = true)
    (hmarks : ¬ ['?', '>'] <:+: body) (rest : List Char) :
    readInstructionBody (body ++ '?' :: '>' :: rest) = .found () rest := by
  induction body with
  | nil => rfl
  | cons c body ih =>
    obtain ⟨hc, hmore⟩ := List.forall_mem_cons.mp hchars
    have hnext := ih hmore (not_infix_tail hmarks)
    rw [List.cons_append, readInstructionBody.eq_def]
    dsimp only
    by_cases hmark : c = '?'
    · rw [if_pos hmark]
      subst hmark
      rw [← hnext]
      cases body with
      | nil => rfl
      | cons d body =>
        have hd : d ≠ '>' := by
          rintro rfl
          exact hmarks ⟨[], body, rfl⟩
        rw [List.cons_append]
        split
        · next heq => cases heq
        · next heq => exact absurd (List.cons.inj heq).1 hd
        · rfl
    · rw [if_neg hmark, if_pos hc]
      exact hnext

theorem text_ne_xml {target : Name} (h : isReserved target.text = false) :
    (target.text == "xml") = false := by
  rw [beq_eq_false_iff_ne]
  intro heq
  rw [heq] at h
  exact absurd h (by decide)

theorem readInstruction_append {target : Name} (hunreserved : isReserved target.text = false)
    {body : List Char} (hchars : ∀ c ∈ body, isXmlChar c = true) (hmarks : ¬ ['?', '>'] <:+: body)
    (rest : List Char) :
    readInstruction (target.chars ++ ((if body.isEmpty then [] else ' ' :: body) ++
      '?' :: '>' :: rest)) = .found false rest := by
  cases body with
  | nil =>
    have hname : readName (target.chars ++ '?' :: '>' :: rest) =
        .found target.text ('?' :: '>' :: rest) := readName_append target (by simp; decide)
    simp only [List.isEmpty_nil, if_true, List.nil_append, readInstruction, hname, Lexed.andThen]
    simp [hunreserved, text_ne_xml hunreserved, isSpace]
  | cons c body =>
    have hname : readName (target.chars ++ ' ' :: ((c :: body) ++ '?' :: '>' :: rest)) =
        .found target.text (' ' :: ((c :: body) ++ '?' :: '>' :: rest)) :=
      readName_append target (by simp; decide)
    have hbody := readInstructionBody_append hchars hmarks rest
    simp only [List.isEmpty_cons, Bool.false_eq_true, if_false, List.cons_append, readInstruction]
    rw [List.cons_append] at hname hbody
    rw [hname]
    simp only [Lexed.andThen, hbody]
    simp [hunreserved, text_ne_xml hunreserved, isSpace, Lexed.map]

theorem readContent_aside (aside : Aside) (rest : List Char) :
    readContent (aside.written ++ rest) = .found .skipped rest := by
  cases aside with
  | comment text hchars hdashes =>
    have hread := readComment_append hchars hdashes rest
    simp only [Aside.written, List.cons_append, List.append_assoc, List.nil_append, readContent,
      readMarkup, hread]
    rfl
  | instruction target body hunreserved hchars hmarks =>
    have hread := readInstruction_append hunreserved hchars hmarks rest
    simp only [Aside.written, List.cons_append, List.append_assoc, List.nil_append, readContent,
      readMarkup, hread]
    rfl

/-- The token that it is outside of the root element. -/
def Aside.token : Aside → Outer
  | comment _ _ _ => .comment
  | instruction _ _ _ _ _ => .instruction

theorem readOuter_aside (aside : Aside) (rest : List Char) :
    readOuter (aside.written ++ rest) = .found aside.token rest := by
  cases aside with
  | comment text hchars hdashes =>
    have hread := readComment_append hchars hdashes rest
    simp only [Aside.written, List.cons_append, List.append_assoc, List.nil_append, readOuter,
      readDeclaration, hread]
    rfl
  | instruction target body hunreserved hchars hmarks =>
    have hread := readInstruction_append hunreserved hchars hmarks rest
    simp only [Aside.written, List.cons_append, List.append_assoc, List.nil_append, readOuter, hread]
    rfl

/-! ## Values of attributes -/

theorem Lexed.map_map {α β γ : Type} (f : α → β) (g : β → γ) (lexed : Lexed α) :
    (lexed.map f).map g = lexed.map fun value => g (f value) := by
  cases lexed <;> rfl

theorem readValue_skip (quote : Char) (chars rest : List Char) :
    readValue quote chars.length (chars ++ rest) = (readValue quote 0 rest).map (chars ++ ·) := by
  induction chars with
  | nil => cases hread : readValue quote 0 rest <;> simp [hread, Lexed.map]
  | cons c chars ih =>
    rw [List.length_cons, List.cons_append, readValue, ih, Lexed.map_map]
    rfl

theorem readValue_letters {quote : Char} (hquote : quote = '"' ∨ quote = '\'') {letters : List Letter}
    (hletters : ∀ letter ∈ letters, letter.written ≠ [quote]) (rest : List Char) :
    readValue quote 0 (letters.flatMap Letter.written ++ quote :: rest) =
      .found (letters.flatMap Letter.written) rest := by
  induction letters with
  | nil => rw [List.flatMap_nil, List.nil_append, readValue, if_pos rfl]
  | cons letter letters ih =>
    obtain ⟨hletter, hmore⟩ := List.forall_mem_cons.mp hletters
    have hnext := ih hmore
    rw [List.flatMap_cons, List.append_assoc]
    rcases letter.plain_or_refers with ⟨c, h, rfl⟩ | ⟨body, reference, hwritten, _, _, hrefers⟩
    · obtain ⟨hxml, hless, hand, _, _⟩ := isPlain_iff.mp h
      have hc : c ≠ quote := fun heq => hletter (by rw [Letter.written, heq])
      simp only [Letter.written, List.cons_append, List.nil_append, readValue, hc, hless, hxml, hand,
        hnext, if_false, decide_false, Bool.not_true, Bool.or_self, Bool.false_eq_true, Lexed.map]
    · have hand : '&' ≠ quote := by rcases hquote with rfl | rfl <;> decide
      have hlength : (body ++ (letters.flatMap Letter.written ++ quote :: rest)).length -
          (letters.flatMap Letter.written ++ quote :: rest).length = body.length := by
        rw [List.length_append, Nat.add_sub_cancel]
      have hxml : isXmlChar '&' = true := by decide
      rw [hwritten, List.cons_append, readValue, if_neg hand, if_neg (by simp [hxml]), if_pos rfl,
        hrefers.read]
      dsimp only
      rw [hlength, readValue_skip, hnext]
      rfl

theorem valueFrom_skip (keepsBlanks : Bool)
    (expand : String → List Char → List Char → Except ValueHalt (List Char))
    (value chars rest : List Char) :
    valueFrom keepsBlanks expand chars.length value (chars ++ rest) =
      valueFrom keepsBlanks expand 0 value rest := by
  induction chars with
  | nil => rfl
  | cons c chars ih =>
    rw [List.length_cons, List.cons_append, valueFrom, ih]

theorem valueFrom_letters (expand : String → List Char → List Char → Except ValueHalt (List Char))
    (value : List Char) (letters : List Letter) :
    valueFrom true expand 0 value (letters.flatMap Letter.written) =
      .ok ((letters.map Letter.valueChar).reverse ++ value) := by
  induction letters generalizing value with
  | nil => rfl
  | cons letter letters ih =>
    rw [List.flatMap_cons, List.map_cons, List.reverse_cons, List.append_assoc, List.singleton_append]
    rcases letter.plain_or_refers with ⟨c, h, rfl⟩ | ⟨body, reference, hwritten, _, hvalue, hrefers⟩
    · obtain ⟨hxml, hless, hand, _, hreturn⟩ := isPlain_iff.mp h
      rw [Letter.written, List.singleton_append, valueFrom, if_neg hand, if_neg (by simp [hless, hxml]),
        if_neg (by simp [hreturn])]
      by_cases hspace : isSpace c = true
      · rw [if_pos hspace, ih]
        simp [addSpace, Letter.valueChar, hspace]
      · rw [if_neg hspace, ih]
        simp [Letter.valueChar, hspace]
    · have hlength : (body ++ letters.flatMap Letter.written).length -
          (letters.flatMap Letter.written).length = body.length := by
        rw [List.length_append, Nat.add_sub_cancel]
      rw [hwritten, List.cons_append, valueFrom, if_pos rfl, hrefers.read, hvalue]
      rcases hrefers.char with ⟨name, rfl, hknown⟩ | ⟨code, rfl, hcode⟩
      · simp only [hknown, hlength, valueFrom_skip, ih]
      · simp only [hcode, hlength, valueFrom_skip]
        split
        · next heq => cases heq
        · next heq =>
          rw [ih, Option.some.inj heq]
          rfl
        · next d _ heq => rw [ih, Option.some.inj heq]

theorem attributeText_letters (dtd : Dtd) (opened : List String) (letters : List Letter) :
    attributeText dtd true opened (letters.flatMap Letter.written) =
      .ok (String.ofList (letters.map Letter.valueChar)) := by
  rw [attributeText, valueFrom_letters]
  simp

/-! ## Attributes -/

/-- An attribute without a prefix that declares no namespace, with its quoted value. -/
structure Attribute where
  name : Name
  value : List Letter
  quote : Char := '"'
  unbound : name.text ≠ "xmlns" := by decide
  isQuote : quote = '"' ∨ quote = '\'' := by decide
  unquoted : ∀ letter ∈ value, letter.written ≠ [quote] := by decide

namespace Attribute

/-- How the value is written. -/
def writtenValue (attr : Attribute) : List Char := attr.value.flatMap Letter.written

/-- How an attribute is written, with a space in front. -/
def written (attr : Attribute) : List Char :=
  ' ' :: (attr.name.chars ++ '=' :: attr.quote :: (attr.writtenValue ++ [attr.quote]))

/-- The name and the value of an attribute. -/
def pair (attr : Attribute) : String × String :=
  (attr.name.text, String.ofList (attr.value.map Letter.valueChar))

end Attribute

theorem isSpace_false_of_isNameStart {c : Char} (h : isNameStart c = true) : isSpace c = false := by
  rw [← Bool.not_eq_true]
  intro hspace
  simp only [isSpace, Bool.or_eq_true, beq_iff_eq] at hspace
  obtain ((rfl | rfl) | rfl) | rfl := hspace <;> exact absurd h (by decide)

theorem dropSpaces_of_not_space {c : Char} (h : isSpace c = false) (rest : List Char) :
    dropSpaces (c :: rest) = c :: rest := by
  rw [dropSpaces, List.dropWhile_cons_of_neg (by simp [h])]

theorem readAssigned_written (attr : Attribute) (fromName rest : List Char) :
    readAssigned attr.name.text fromName
        ('=' :: attr.quote :: (attr.writtenValue ++ attr.quote :: rest)) =
      .found ⟨attr.name.text, attr.writtenValue, fromName,
        attr.writtenValue ++ attr.quote :: rest⟩ rest := by
  have hequals : isSpace '=' = false := by decide
  have hquote : isSpace attr.quote = false := by
    rcases attr.isQuote with h | h <;> rw [h] <;> decide
  have hopens : (decide (attr.quote = '"') || decide (attr.quote = '\'')) = true := by
    simpa using attr.isQuote
  simp only [readAssigned, dropSpaces_of_not_space hequals, dropSpaces_of_not_space hquote]
  rw [if_pos hopens, Attribute.writtenValue, readValue_letters attr.isQuote attr.unquoted]
  rfl

/-- Attributes as they are read. -/
def Reads (attributes : List Attribute) (raws : List RawAttribute) : Prop :=
  List.Forall₂ (fun attr raw => raw.name = attr.name.text ∧
    raw.value = attr.writtenValue) attributes raws

theorem readAttributes_written {more : Nat} {attributes : List Attribute}
    (hmore : attributes.length < more) (rest : List Char) :
    ∃ raws, Reads attributes raws ∧
      readAttributes more (attributes.flatMap Attribute.written ++ '>' :: rest) =
        .found (raws, false) rest := by
  induction attributes generalizing more with
  | nil =>
    obtain ⟨more, rfl⟩ := Nat.exists_eq_succ_of_ne_zero (Nat.ne_of_gt hmore)
    exact ⟨[], .nil, rfl⟩
  | cons attr attributes ih =>
    obtain ⟨more, rfl⟩ := Nat.exists_eq_succ_of_ne_zero (Nat.ne_zero_of_lt hmore)
    obtain ⟨raws, hraws, hread⟩ := ih (Nat.lt_of_succ_lt_succ hmore)
    let value := attr.writtenValue ++ attr.quote ::
      (attributes.flatMap Attribute.written ++ '>' :: rest)
    let equals := '=' :: attr.quote :: value
    let start := attr.name.chars ++ equals
    have hwritten : (attr :: attributes).flatMap Attribute.written ++ '>' :: rest = ' ' :: start := by
      simp [Attribute.written, start, equals, value]
    have hspaces : dropSpaces (' ' :: start) = start := by
      rw [dropSpaces, List.dropWhile_cons_of_pos (by decide)]
      exact dropSpaces_of_not_space (isSpace_false_of_isNameStart attr.name.starts) _
    have hopens : ((' ' :: start).head?.any isSpace && start.head?.any isNameStart) = true :=
      attr.name.starts
    have hname : readQualified start = .found attr.name.text equals :=
      readQualified_append attr.name (by simp [equals]; decide)
    have hassigned : readAssigned attr.name.text start equals =
        .found ⟨attr.name.text, attr.writtenValue, start, value⟩ _ := readAssigned_written attr start _
    refine ⟨⟨attr.name.text, attr.writtenValue, start, value⟩ :: raws, .cons ⟨rfl, rfl⟩ hraws, ?_⟩
    rw [hwritten, readAttributes, hspaces, if_pos hopens, hname, Lexed.andThen, hassigned,
      Lexed.andThen, hread]
    rfl

/-! ## Tags -/

theorem colon_not_mem (name : Name) : ':' ∉ name.chars := by
  intro h
  rcases List.mem_cons.mp h with hfirst | hmore
  · exact absurd name.starts (by rw [← hfirst]; decide)
  · exact absurd (name.continues ':' hmore) (by decide)

theorem splitName_name (name : Name) : splitName name.text = (none, name.text) := by
  have hdrop : name.text.toList.dropWhile (· != ':') = [] := by
    rw [Name.text, String.toList_ofList, List.dropWhile_eq_nil_iff]
    intro c hc
    exact bne_iff_ne.mpr fun heq => colon_not_mem name (heq ▸ hc)
  rw [splitName, hdrop]

theorem declaredPrefix?_name {name : Name} (h : name.text ≠ "xmlns") :
    declaredPrefix? name.text = none := by
  rw [declaredPrefix?, if_neg (by simpa using h), splitName_name]

theorem add_written (attr : Attribute) (draft : TagDraft) (value : String) :
    draft.add attr.name.text value =
      .ok { draft with attributes := draft.attributes ++ [(attr.name.text, value)] } := by
  rw [TagDraft.add, declaredPrefix?_name attr.unbound]

theorem addWritten_reads (dtd : Dtd) (opened : List String) {attributes : List Attribute}
    {raws : List RawAttribute} (h : Reads attributes raws) (draft : TagDraft)
    (hdistinct : (draft.attributes.map (·.1) ++ attributes.map (·.name.text)).Nodup) :
    TagDraft.addWritten dtd opened [] draft raws =
      .ok { draft with attributes := draft.attributes ++ attributes.map Attribute.pair } := by
  induction h generalizing draft with
  | nil => simp [TagDraft.addWritten]
  | @cons attr raw attributes raws hraw _ ih =>
    obtain ⟨hname, hvalue⟩ := hraw
    rw [List.map_cons, List.nodup_middle, List.nodup_cons, List.mem_append, not_or] at hdistinct
    obtain ⟨⟨hnew, hothers⟩, hrest⟩ := hdistinct
    have hany : draft.attributes.any (·.1 == raw.name) = false := by
      rw [List.any_eq_false]
      intro pair hpair heq
      exact hnew (List.mem_map.mpr ⟨pair, hpair, (beq_iff_eq.mp heq).trans hname⟩)
    have hdistinct' : ((draft.attributes ++ [(attr.name.text,
        String.ofList (attr.value.map Letter.valueChar))]).map (·.1) ++
        attributes.map (·.name.text)).Nodup := by
      rw [List.map_append, List.append_assoc, List.map_singleton, List.singleton_append,
        List.nodup_middle, List.nodup_cons, List.mem_append, not_or]
      exact ⟨⟨hnew, hothers⟩, hrest⟩
    rw [TagDraft.addWritten, hany, if_neg Bool.false_ne_true, hvalue, Attribute.writtenValue]
    simp only [List.find?_nil, Option.map_none, Option.getD_none, attributeText_letters, hname,
      add_written]
    rw [ih _ hdistinct']
    simp [Attribute.pair]

theorem attributeNames_written (attributes : List Attribute) :
    attributeNames [] [] (attributes.map Attribute.pair) = .ok (attributes.map Attribute.pair) := by
  induction attributes with
  | nil => rfl
  | cons attr attributes ih =>
    rw [List.map_cons, Attribute.pair, attributeNames, splitName_name, ih]
    rfl

/-- A tag of an element, whose attributes have different names. -/
structure Tag where
  name : Name
  attributes : List Attribute := []
  distinct : (attributes.map (·.name.text)).Nodup := by simp

namespace Tag

/-- How the tag is written at the start of an element. -/
def opening (tag : Tag) : List Char :=
  '<' :: (tag.name.chars ++ (tag.attributes.flatMap Attribute.written ++ ['>']))

/-- How the tag is written at the end of an element. -/
def closing (tag : Tag) : List Char := '<' :: '/' :: (tag.name.chars ++ ['>'])

/-- What a tag says where no prefix is declared. -/
def opened (tag : Tag) : OpenTag := ⟨tag.name.text, tag.attributes.map Attribute.pair, []⟩

end Tag

theorem openTag_written {dtd : Dtd} (hdtd : dtd.attributes = []) (opened : List String) (tag : Tag)
    {raws : List RawAttribute} (h : Reads tag.attributes raws) :
    openTag dtd opened [] tag.name.text raws = .ok tag.opened := by
  have hrules : dtd.rulesFor tag.name.text = [] := by simp [Dtd.rulesFor, hdtd]
  have hwritten := addWritten_reads dtd opened h { scope := [] } (by simpa using tag.distinct)
  have hplain : (tag.attributes.map Attribute.pair).filter
      (fun pair => (declaredPrefix? pair.1).isNone) = tag.attributes.map Attribute.pair := by
    rw [List.filter_eq_self]
    intro pair hpair
    obtain ⟨attr, _, rfl⟩ := List.mem_map.mp hpair
    rw [Attribute.pair, declaredPrefix?_name attr.unbound]
    rfl
  have hname : elementName [] tag.name.text = .ok tag.name.text := by
    rw [elementName, splitName_name]
    rfl
  simp only [openTag, hrules, hwritten, List.nil_append, TagDraft.addDefaults, bind, Except.bind, hplain,
    attributeNames_written, hname]
  rfl

theorem readEndTag_written (name : Name) (rest : List Char) :
    readEndTag (name.chars ++ '>' :: rest) = .found name.text rest := by
  have hname : ∀ c ∈ name.chars, (isNamePart c || c == ':') = true := by
    intro c hc
    rcases List.mem_cons.mp hc with rfl | hmore
    · rw [isNamePart_of_isNameStart name.starts, Bool.true_or]
    · rw [name.continues c hmore, Bool.true_or]
  have hstop : ∀ c ∈ ('>' :: rest).head?, (isNamePart c || c == ':') = false := by
    simp
    decide
  have hspaces : dropSpaces ('>' :: rest) = '>' :: rest := dropSpaces_of_not_space (by decide) rest
  have htake := Text.takeWhile_append_stop hname hstop
  have hdrop := Text.dropWhile_append_stop hname hstop
  rw [Name.chars, List.cons_append] at htake hdrop ⊢
  simp only [readEndTag, name.starts, if_true, hdrop, hspaces, htake]
  rfl

theorem readContent_closing (tag : Tag) (rest : List Char) :
    readContent (tag.closing ++ rest) = .found (.endTag tag.name.text) rest := by
  have hread := readEndTag_written tag.name rest
  simp only [Tag.closing, List.cons_append, List.append_assoc, List.nil_append, readContent, readMarkup,
    hread]
  rfl

theorem length_attributes_le (attributes : List Attribute) :
    attributes.length ≤ (attributes.flatMap Attribute.written).length := by
  induction attributes with
  | nil => simp
  | cons attr attributes ih =>
    rw [List.flatMap_cons, List.length_append, Attribute.written, List.length_cons, List.length_cons]
    omega

theorem readMarkup_name (name : Name) (rest : List Char) :
    readMarkup (name.chars ++ rest) = (readQualified (name.chars ++ rest)).andThen fun found after =>
      (readAttributes (after.length + 1) after).map fun tag => .startTag found tag.1 tag.2 := by
  have hmark : ∀ {c : Char}, isNameStart c = false → name.first ≠ c := by
    rintro c hc rfl
    rw [name.starts] at hc
    cases hc
  rw [Name.chars, List.cons_append]
  unfold readMarkup
  split
  · next heq => cases heq
  · next heq => exact absurd (List.cons.inj heq).1 (hmark (by decide))
  · next heq => exact absurd (List.cons.inj heq).1 (hmark (by decide))
  · next heq => exact absurd (List.cons.inj heq).1 (hmark (by decide))
  · next heq => exact absurd (List.cons.inj heq).1 (hmark (by decide))
  · next heq => exact absurd (List.cons.inj heq).1 (hmark (by decide))
  · next heq => exact absurd (List.cons.inj heq).1 (hmark (by decide))
  · rfl

theorem readContent_opening (tag : Tag) (rest : List Char) :
    ∃ raws, Reads tag.attributes raws ∧
      readContent (tag.opening ++ rest) = .found (.startTag tag.name.text raws false) rest := by
  let behind := tag.attributes.flatMap Attribute.written ++ '>' :: rest
  have hmore : tag.attributes.length < behind.length + 1 := by
    have := length_attributes_le tag.attributes
    simp only [behind, List.length_append]
    omega
  obtain ⟨raws, hraws, hread⟩ := readAttributes_written hmore rest
  have hname : readQualified (tag.name.chars ++ behind) = .found tag.name.text behind := by
    refine readQualified_append tag.name ?_
    cases hattributes : tag.attributes with
    | nil => simp [behind, hattributes]; decide
    | cons attr attributes => simp [behind, hattributes, Attribute.written]; decide
  refine ⟨raws, hraws, ?_⟩
  have hwritten : tag.opening ++ rest = '<' :: (tag.name.chars ++ behind) := by
    simp [Tag.opening, behind]
  rw [hwritten, readContent, readMarkup_name, hname, Lexed.andThen, hread]
  rfl

end LogAudit.Xml
