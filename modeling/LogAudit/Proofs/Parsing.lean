import Mathlib
import LogAudit.Xml.Document
import LogAudit.Proofs.Markup
import LogAudit.Proofs.Utf8

/-! # Written documents

A document is a declaration, which may be missing, blanks and asides, the root element, and blanks and
asides again. In UTF-8 it is read as its root element.

* `WrittenDocument`: a document and how it is written.
* `readProlog_miscs`, `readEpilog_miscs`: what stands around the root element is passed over.
* `parseDocument_written`: the root element of a written document. -/

namespace LogAudit.Xml
set_option autoImplicit false

open Encoding

/-! ## Around the root element -/

/-- What can stand around the root element. -/
inductive Misc
  | blank (c : Char) (h : isSpace c = true)
  | aside (mark : Aside)

namespace Misc

/-- How it is written. -/
def written : Misc → List Char
  | blank c _ => [c]
  | aside mark => mark.written

/-- Whether it is a blank. -/
def isBlank : Misc → Bool
  | blank _ _ => true
  | aside _ => false

/-- How several are written. -/
def allWritten (miscs : List Misc) : List Char := miscs.flatMap written

end Misc

/-- The tokens that are passed over outside of the root element. -/
def Outer.IsMisc (token : Outer) : Prop :=
  token = .space ∨ token = .comment ∨ token = .instruction

theorem Aside.isMisc_token (mark : Aside) : mark.token.IsMisc := by
  cases mark
  · exact Or.inr (Or.inl rfl)
  · exact Or.inr (Or.inr rfl)

theorem dropSpaces_miscs (miscs : List Misc) {rest : List Char}
    (hrest : ∀ c ∈ rest.head?, isSpace c = false) :
    dropSpaces (Misc.allWritten miscs ++ rest) =
      Misc.allWritten (miscs.dropWhile Misc.isBlank) ++ rest := by
  induction miscs with
  | nil =>
    cases rest with
    | nil => rfl
    | cons c rest => exact dropSpaces_of_not_space (hrest c (by simp)) rest
  | cons misc miscs ih =>
    cases misc with
    | blank c h =>
      rw [List.dropWhile_cons_of_pos rfl, ← ih]
      exact List.dropWhile_cons_of_pos h
    | aside mark =>
      rw [List.dropWhile_cons_of_neg Bool.false_ne_true]
      cases mark <;> rfl

theorem readOuter_blank {c : Char} (h : isSpace c = true) (rest : List Char) :
    readOuter (c :: rest) = .found .space (dropSpaces rest) := by
  simp only [isSpace, Bool.or_eq_true, beq_iff_eq] at h
  obtain ((rfl | rfl) | rfl) | rfl := h <;> rfl

/-- The first token outside of the root element takes one blank or aside, or several blanks. -/
theorem readOuter_misc (misc : Misc) (miscs : List Misc) {rest : List Char}
    (hrest : ∀ c ∈ rest.head?, isSpace c = false) :
    ∃ token fewer, token.IsMisc ∧ fewer.length ≤ miscs.length ∧
      readOuter (Misc.allWritten (misc :: miscs) ++ rest) =
        .found token (Misc.allWritten fewer ++ rest) := by
  cases misc with
  | blank c h =>
    refine ⟨.space, miscs.dropWhile Misc.isBlank, Or.inl rfl,
      (List.dropWhile_sublist _).length_le, ?_⟩
    rw [← dropSpaces_miscs miscs hrest]
    exact readOuter_blank h _
  | aside mark =>
    refine ⟨mark.token, miscs, mark.isMisc_token, le_rfl, ?_⟩
    rw [Misc.allWritten, List.flatMap_cons, List.append_assoc]
    exact readOuter_aside mark _

/-- Before the root element or a document type, nothing is noted but that the document has begun. -/
theorem step_misc {draft : Draft} {token : Outer}
    (hstage : draft.stage = .start ∨ draft.stage = .misc) (htoken : token.IsMisc) :
    draft.step token = .ok { draft with stage := .misc } := by
  obtain ⟨stage, dtd, isParameter, name, attributeName, keepsBlanks, connectors⟩ := draft
  rcases hstage with rfl | rfl <;> obtain rfl | rfl | rfl := htoken <;> rfl

theorem readProlog_miscs {ending : Ending} {more : Nat} {draft : Draft} {miscs : List Misc}
    {content : List Char} (hstage : draft.stage = .start ∨ draft.stage = .misc)
    (hmore : miscs.length < more) (hspace : ∀ c ∈ content.head?, isSpace c = false)
    (hcontent : readOuter content = .found .elementStart content) :
    readProlog ending more draft (Misc.allWritten miscs ++ content) = .ok (draft.dtd, content) := by
  induction more generalizing draft miscs with
  | zero => omega
  | succ more ih =>
    cases miscs with
    | nil =>
      have hallowed : draft.stage.allowsElement = true := by
        rcases hstage with h | h <;> rw [h] <;> rfl
      rw [Misc.allWritten, List.flatMap_nil, List.nil_append]
      cases content with
      | nil => cases hcontent
      | cons c content => simp only [readProlog, hcontent, hallowed, if_true]
    | cons misc miscs =>
      obtain ⟨token, fewer, htoken, hfewer, hread⟩ := readOuter_misc misc miscs hspace
      have hstep := step_misc hstage htoken
      have hnext := ih (Or.inr rfl : ({ draft with stage := .misc } : Draft).stage = .start ∨ _)
        (hfewer.trans_lt (Nat.lt_of_succ_lt_succ hmore))
      cases htext : Misc.allWritten (misc :: miscs) ++ content with
      | nil => rw [htext] at hread; cases hread
      | cons c text =>
        rw [htext] at hread
        obtain rfl | rfl | rfl := htoken <;>
          simp only [readProlog, hread, hstep, hnext]

theorem readEpilog_miscs {more : Nat} {miscs : List Misc} (hmore : miscs.length < more) :
    readEpilog .whole more (Misc.allWritten miscs) = .ok () := by
  induction more generalizing miscs with
  | zero => omega
  | succ more ih =>
    cases miscs with
    | nil => rfl
    | cons misc miscs =>
      obtain ⟨token, fewer, htoken, hfewer, hread⟩ :=
        readOuter_misc misc miscs (by simp : ∀ c ∈ [].head?, _)
      have hnext := ih (hfewer.trans_lt (Nat.lt_of_succ_lt_succ hmore))
      rw [List.append_nil, List.append_nil] at hread
      cases htext : Misc.allWritten (misc :: miscs) with
      | nil => rw [htext] at hread; cases hread
      | cons c text =>
        rw [htext] at hread
        obtain rfl | rfl | rfl := htoken <;>
          simp only [readEpilog, hread, hnext]

/-! ## Documents -/

/-- The declaration of a document: none, one of the version, or one that also names its encoding. -/
inductive Heading
  | absent
  | version
  | encoding

/-- How a declaration is written. -/
def Heading.written : Heading → List Char
  | absent => []
  | version => declarationOf "version=\"1.0\"".toList
  | encoding => declarationOf "version=\"1.0\" encoding=\"UTF-8\"".toList
where
  /-- A declaration with some settings. -/
  declarationOf (settings : List Char) : List Char :=
    ['<', '?', 'x', 'm', 'l', ' '] ++ (settings ++ ['?', '>'])

/-- A document. -/
structure WrittenDocument where
  heading : Heading
  before : List Misc
  tag : Tag
  inner : Markup
  behind : List Misc

namespace WrittenDocument

/-- How all but the declaration is written. -/
def body (document : WrittenDocument) : List Char :=
  Misc.allWritten document.before ++
    (document.tag.around document.inner ++ Misc.allWritten document.behind)

/-- The bytes of a document. -/
def bytes (document : WrittenDocument) : List UInt8 :=
  utf8Bytes (document.heading.written ++ document.body)

/-- The root element of a document. -/
def root (document : WrittenDocument) : Element :=
  document.tag.element document.inner.leading document.inner.children

end WrittenDocument

theorem readOuter_around (tag : Tag) (inner : Markup) (rest : List Char) :
    readOuter (tag.around inner ++ rest) = .found .elementStart (tag.around inner ++ rest) := by
  have hmark : ∀ {c : Char}, isNameStart c = false → tag.name.first ≠ c := by
    rintro c hc rfl
    rw [tag.name.starts] at hc
    cases hc
  obtain ⟨text, htext⟩ : ∃ text, tag.around inner ++ rest = '<' :: tag.name.first :: text :=
    ⟨_, rfl⟩
  rw [htext]
  simp only [readOuter]
  split
  · next heq => cases heq
  · next heq => exact absurd (List.cons.inj heq).1 (hmark (by decide))
  · next heq => exact absurd (List.cons.inj heq).1 (hmark (by decide))
  · next heq =>
    rw [← (List.cons.inj heq).1, tag.name.starts, Bool.true_or, if_pos rfl]

theorem length_miscs_le (miscs : List Misc) : miscs.length ≤ (Misc.allWritten miscs).length := by
  induction miscs with
  | nil => simp
  | cons misc miscs ih =>
    have hsome : 0 < misc.written.length := by
      cases misc with
      | blank c h => simp [Misc.written]
      | aside mark => exact List.length_pos_of_ne_nil mark.written_ne_nil
    simp only [Misc.allWritten, List.flatMap_cons, List.length_append, List.length_cons] at ih ⊢
    omega

theorem readBody_written (document : WrittenDocument) {draft : Draft}
    (hstage : draft.stage = .start ∨ draft.stage = .misc) (hdtd : draft.dtd.attributes = []) :
    readBody draft .whole document.body = .ok document.root := by
  have hbefore : document.before.length < document.body.length + 1 := by
    have := length_miscs_le document.before
    simp only [WrittenDocument.body, List.length_append]
    omega
  have hspace : ∀ c ∈ (document.tag.around document.inner ++
      Misc.allWritten document.behind).head?, isSpace c = false := by
    intro c hc
    obtain rfl : '<' = c := Option.some.inj hc
    decide
  have hprolog : readProlog .whole (document.body.length + 1) draft document.body = _ :=
    readProlog_miscs hstage hbefore hspace (readOuter_around _ _ _)
  have hroot := readRoot_written hdtd .whole document.tag document.inner
    (Misc.allWritten document.behind)
  have hepilog := readEpilog_miscs (Nat.lt_succ_of_le (length_miscs_le document.behind))
  rw [readBody]
  simp only [hprolog, hroot, hepilog, bind, Except.bind, pure, Except.pure]
  rfl

/-! ## Declarations -/

/-- A document without a declaration does not begin like one with it. -/
theorem readTextDeclaration_body (document : WrittenDocument) :
    readTextDeclaration document.body = .ok none := by
  obtain ⟨_, before, tag, inner, behind⟩ := document
  simp only [WrittenDocument.body]
  cases before with
  | nil =>
    have hfirst : tag.name.first ≠ '?' := by
      intro h
      exact absurd tag.name.starts (by rw [h]; decide)
    unfold readTextDeclaration
    split
    · next heq => exact absurd (List.cons.inj (List.cons.inj heq).2).1 hfirst
    · rfl
  | cons misc miscs =>
    cases misc with
    | blank c h =>
      have hc : c ≠ '<' := by
        rintro rfl
        exact absurd h (by decide)
      unfold readTextDeclaration
      split
      · next heq => exact absurd (List.cons.inj heq).1 hc
      · rfl
    | aside mark =>
      cases mark with
      | comment text hchars hdashes => rfl
      | instruction target text hunreserved hchars hmarks =>
        rw [Misc.allWritten, List.flatMap_cons, List.append_assoc]
        simp only [Misc.written, Aside.written, List.cons_append, List.append_assoc, List.nil_append,
          readTextDeclaration, readInstruction_append hunreserved hchars hmarks]

theorem readTextDeclaration_settings {settings : List Char} {declared : Declaration}
    (hchars : ∀ c ∈ settings, isXmlChar c = true) (hmarks : ¬ ['?', '>'] <:+: settings)
    (hdeclared : readDeclared (' ' :: settings) = .ok declared) (rest : List Char) :
    readTextDeclaration (Heading.written.declarationOf settings ++ rest) =
      .ok (some (declared, rest)) := by
  let target : Name := { first := 'x', more := ['m', 'l'] }
  have htarget : target.text = "xml" := by decide
  have hname : readName ('x' :: 'm' :: 'l' :: ' ' :: (settings ++ '?' :: '>' :: rest)) =
      .found target.text (' ' :: (settings ++ '?' :: '>' :: rest)) :=
    readName_append target (by simp; decide)
  have hbody := readInstructionBody_append hchars hmarks rest
  have hread : readInstruction ('x' :: 'm' :: 'l' :: ' ' :: (settings ++ '?' :: '>' :: rest)) =
      .found true rest := by
    simp only [readInstruction, hname, htarget, Lexed.andThen, hbody]
    rfl
  have hinside : (' ' :: (settings ++ '?' :: '>' :: rest)).take
      ((settings ++ '?' :: '>' :: rest).length + 4 - 3 - rest.length - 2) = ' ' :: settings := by
    have hlength : (settings ++ '?' :: '>' :: rest).length + 4 - 3 - rest.length - 2 =
        settings.length + 1 := by
      simp only [List.length_append, List.length_cons]
      omega
    rw [hlength, List.take_succ_cons, List.take_left]
  simp only [Heading.written.declarationOf, List.cons_append, List.nil_append, List.append_assoc,
    readTextDeclaration, hread, List.length_cons, List.drop_succ_cons, List.drop_zero]
  rw [hinside, hdeclared]

/-! ## Bytes -/

theorem utf8ByteSize_eq_length (text : List Char) :
    (String.ofList text).utf8ByteSize = (utf8Bytes text).length := by
  rw [← String.size_toByteArray, String.toByteArray_ofList, List.utf8Encode, List.size_toByteArray,
    utf8Bytes]

/-- The first two characters show that a text is not written in units of two bytes. -/
def ShowsWidth (text : List Char) : Prop :=
  ∃ c d rest, text = c :: d :: rest ∧ (c = '<' ∨ isSpace c = true) ∧ d ≠ '\x00'

theorem byte_ne_zero {code : Nat} (hlow : 0 < code) (hhigh : code < 256) : UInt8.ofNat code ≠ 0 := by
  intro h
  have hzero := congrArg UInt8.toNat h
  rw [toNat_byte hhigh] at hzero
  exact hlow.ne' hzero

theorem utf8EncodeChar_ne_zero {c : Char} (h : c ≠ '\x00') :
    ∃ byte rest, String.utf8EncodeChar c = byte :: rest ∧ byte ≠ 0 := by
  have hcode : 0 < c.val.toNat := by
    rw [Nat.pos_iff_ne_zero]
    intro hzero
    exact h (by rw [← Char.ofNat_toNat c]; exact congrArg Char.ofNat hzero)
  unfold String.utf8EncodeChar
  dsimp only
  split_ifs with hone htwo hthree
  · exact ⟨_, _, rfl, byte_ne_zero hcode (by omega)⟩
  · exact ⟨_, _, rfl, byte_ne_zero (by omega) (by omega)⟩
  · exact ⟨_, _, rfl, byte_ne_zero (by omega) (by omega)⟩
  · exact ⟨_, _, rfl, byte_ne_zero (by omega) (by omega)⟩

theorem widthOf_small {first byte : UInt8} (hfirst : first < 0x80) (hsome : first ≠ 0) (hbyte : byte ≠ 0)
    (rest : List UInt8) : widthOf (first :: byte :: rest) = .bytes := by
  have hmark : ∀ mark, 0x80 ≤ mark → first ≠ mark := by
    rintro mark hle rfl
    exact absurd hfirst (UInt8.not_lt.mpr hle)
  unfold widthOf
  split
  · next heq => cases heq
  · next heq => cases heq
  · next heq => cases heq
  · next heq => cases heq
  · next heq => exact absurd (List.cons.inj heq).1 (hmark _ (by decide))
  · next heq => exact absurd (List.cons.inj heq).1 (hmark _ (by decide))
  · next heq => exact absurd (List.cons.inj heq).1 (hmark _ (by decide))
  · next heq => exact absurd (List.cons.inj heq).1 hsome
  · next heq => exact absurd (List.cons.inj (List.cons.inj heq).2).1 hbyte
  · rfl

theorem widthOf_bytes {text : List Char} (h : ShowsWidth text) : widthOf (utf8Bytes text) = .bytes := by
  obtain ⟨c, d, rest, rfl, hc, hd⟩ := h
  obtain ⟨byte, bytes, hbyte, hzero⟩ := utf8EncodeChar_ne_zero hd
  obtain ⟨first, hfirst, hsmall, hsome⟩ :
      ∃ first, String.utf8EncodeChar c = [first] ∧ first < 0x80 ∧ first ≠ 0 := by
    simp only [isSpace, Bool.or_eq_true, beq_iff_eq] at hc
    obtain rfl | ((rfl | rfl) | rfl) | rfl := hc <;> exact ⟨_, rfl, by decide, by decide⟩
  rw [utf8Bytes, List.flatMap_cons, List.flatMap_cons, hbyte, hfirst]
  exact widthOf_small hsmall hsome hzero _

theorem dropMark_bytes {text : List Char} (h : ShowsWidth text) : dropMark text = text := by
  obtain ⟨c, d, rest, rfl, hc, hd⟩ := h
  have hmark : c ≠ orderMark := by
    rintro rfl
    exact absurd hc (by decide)
  rw [dropMark, if_neg hmark]

theorem head_miscs (miscs : List Misc) (rest : List Char) :
    ∃ c more, Misc.allWritten miscs ++ '<' :: rest = c :: more ∧ (c = '<' ∨ isSpace c = true) := by
  cases miscs with
  | nil => exact ⟨'<', rest, rfl, Or.inl rfl⟩
  | cons misc miscs =>
    cases misc with
    | blank c h => exact ⟨c, _, rfl, Or.inr h⟩
    | aside mark => cases mark <;> exact ⟨'<', _, rfl, Or.inl rfl⟩

theorem showsWidth_written (document : WrittenDocument) :
    ShowsWidth (document.heading.written ++ document.body) := by
  obtain ⟨heading, before, tag, inner, behind⟩ := document
  cases heading with
  | version => exact ⟨'<', '?', _, rfl, Or.inl rfl, by decide⟩
  | encoding => exact ⟨'<', '?', _, rfl, Or.inl rfl, by decide⟩
  | absent =>
    cases before with
    | nil =>
      refine ⟨'<', tag.name.first, _, rfl, Or.inl rfl, ?_⟩
      intro h
      exact absurd tag.name.starts (by rw [h]; decide)
    | cons misc miscs =>
      cases misc with
      | blank c h =>
        obtain ⟨d, more, hmore, hd⟩ := head_miscs miscs (tag.name.chars ++
          (tag.attributes.flatMap Attribute.written ++ ['>']) ++ (inner.written ++ tag.closing) ++
          Misc.allWritten behind)
        refine ⟨c, d, more, ?_, Or.inr h, ?_⟩
        · rw [← hmore]
          simp [WrittenDocument.body, Heading.written, Misc.allWritten, Misc.written, Tag.around,
            Tag.opening]
        · rintro rfl
          exact absurd hd (by decide)
      | aside mark =>
        cases mark with
        | comment text hchars hdashes => exact ⟨'<', '!', _, rfl, Or.inl rfl, by decide⟩
        | instruction target text hunreserved hchars hmarks =>
          exact ⟨'<', '?', _, rfl, Or.inl rfl, by decide⟩

/-- The root element of a written document is what is read from its bytes. -/
theorem parseDocument_written (codecs : Codecs) (document : WrittenDocument) :
    parseDocument codecs document.bytes = .ok document.root := by
  have hwidth := widthOf_bytes (showsWidth_written document)
  have hmark := dropMark_bytes (showsWidth_written document)
  have hplain := utf8Text_utf8Bytes (document.heading.written ++ document.body)
  simp only [parseDocument, WrittenDocument.bytes, hwidth, Width.decoder, hplain, hmark]
  cases hheading : document.heading with
  | absent =>
    have hbody : readBody {} .whole document.body = .ok document.root :=
      readBody_written document (Or.inl rfl) rfl
    simp only [Heading.written, List.nil_append, readTextDeclaration_body, hbody]
    rfl
  | version =>
    have hdeclared := readTextDeclaration_settings (List.all_eq_true.mp (by decide)) (by decide +kernel)
      (by decide +kernel : readDeclared (' ' :: "version=\"1.0\"".toList) = .ok {}) document.body
    have hbody : readBody { stage := .misc, dtd := { standalone := false } } .whole document.body =
        .ok document.root := readBody_written document (Or.inr rfl) rfl
    simp only [Heading.written, hdeclared, hbody]
    rfl
  | encoding =>
    have hdeclared : readTextDeclaration (Heading.encoding.written ++ document.body) =
        .ok (some ({ encoding? := some ("UTF-8", "UTF-8\"".toList) }, document.body)) :=
      readTextDeclaration_settings (List.all_eq_true.mp (by decide)) (by decide +kernel)
        (by decide +kernel) _
    have hdecoder : declaredDecoder codecs .bytes "UTF-8" = .decoder utf8Text := by
      simp [declaredDecoder]
    have hused : Width.bytes.byteCount ((Heading.encoding.written ++ document.body).take
        ((Heading.encoding.written ++ document.body).length - document.body.length)) =
          (utf8Bytes Heading.encoding.written).length := by
      rw [List.length_append, Nat.add_sub_cancel, List.take_left, Width.byteCount,
        utf8ByteSize_eq_length]
    have hbody : readBody { stage := .misc, dtd := { standalone := false } } .whole document.body =
        .ok document.root := readBody_written document (Or.inr rfl) rfl
    simp only [hdeclared, hdecoder, hused, utf8Bytes_append, List.drop_left, utf8Text_utf8Bytes, hbody]
    rfl

end LogAudit.Xml
