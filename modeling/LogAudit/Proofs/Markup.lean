import Mathlib
import LogAudit.Proofs.Written

/-! # Written content

Content is characters, asides and elements, in any order and nested to any depth. Reading it adds to the
innermost open element what was written: the characters before the first child and the children.

* `Markup`: content, with `leading` and `children` as what it says.
* `contentFrom_markup`: one part after another is read, and what follows is left.
* `readRoot_written`: the root element of a written document. -/

namespace LogAudit.Xml
set_option autoImplicit false

/-- Content between two tags. -/
inductive Markup
  | done
  | letter (char : Letter) (rest : Markup)
  | aside (mark : Aside) (rest : Markup)
  | element (tag : Tag) (inner rest : Markup)

/-- The element of a tag with a text and children. -/
def Tag.element (tag : Tag) (text : List Char) (children : List Element) : Element :=
  .mk tag.opened.name tag.opened.attributes (String.ofList text) children

namespace Markup

/-- How content is written. -/
def written : Markup → List Char
  | done => []
  | letter char rest => char.written ++ rest.written
  | aside mark rest => mark.written ++ rest.written
  | element tag inner rest => tag.opening ++ (inner.written ++ (tag.closing ++ rest.written))

/-- The characters before the first element. -/
def leading : Markup → List Char
  | done => []
  | letter char rest => char.char :: rest.leading
  | aside _ rest => rest.leading
  | element _ _ _ => []

/-- The elements at the top. -/
def children : Markup → List Element
  | done => []
  | letter _ rest => rest.children
  | aside _ rest => rest.children
  | element tag inner rest => tag.element inner.leading inner.children :: rest.children

/-- The number of tokens. -/
def size : Markup → Nat
  | done => 0
  | letter _ rest => rest.size + 1
  | aside _ rest => rest.size + 1
  | element _ inner rest => inner.size + (rest.size + 1) + 1

end Markup

/-- An open element with more content. -/
def Frame.grow (frame : Frame) (markup : Markup) : Frame :=
  { frame with
    text := (if frame.children.isEmpty then markup.leading.reverse else []) ++ frame.text
    children := markup.children.reverse ++ frame.children }

/-! ## Steps -/

section Steps

variable {dtd : Dtd} {expand : String → List Frame → Except Fault (List Frame)}
  {opened : List String} {level : Nat} {ending : Ending} {more : Nat} {frames : List Frame}
  {text rest : List Char}

theorem contentFrom_skipped (h : readContent text = .found .skipped rest) :
    contentFrom dtd expand opened level ending (more + 1) frames text =
      contentFrom dtd expand opened level ending more frames rest := by
  cases text with
  | nil => cases h
  | cons c text => simp only [contentFrom, h]

/-- A character goes to the innermost open element, however it is written. -/
theorem contentFrom_letter (letter : Letter) (hrest : ∀ after, rest ≠ ']' :: '>' :: after) :
    contentFrom dtd expand opened level ending (more + 1) frames (letter.written ++ rest) =
      contentFrom dtd expand opened level ending more (addCharacter letter.char frames) rest := by
  have hread := readContent_letter letter hrest
  rcases letter.plain_or_refers with ⟨c, h, rfl⟩ | ⟨body, reference, hwritten, htoken, _, hrefers⟩
  · have hreturn : c :: rest ≠ ['\r'] := fun heq => (isPlain_iff.mp h).2.2.2.2 (List.cons.inj heq).1
    simp only [Letter.written, List.singleton_append, Letter.token] at hread ⊢
    simp only [contentFrom, hread, beq_eq_false_iff_ne.mpr hreturn, Bool.and_false, Bool.false_eq_true,
      if_false]
    rfl
  · rw [hwritten, htoken, List.cons_append] at hread
    rw [hwritten, List.cons_append]
    rcases hrefers.char with ⟨name, rfl, hknown⟩ | ⟨code, rfl, hcode⟩
    · simp only [contentFrom, hread, hknown]
    · simp only [contentFrom, hread, hcode]

/-- A start tag opens an element. -/
theorem contentFrom_opening (hdtd : dtd.attributes = []) (hscope : scopeOf frames = []) (tag : Tag) :
    contentFrom dtd expand opened level ending (more + 1) frames (tag.opening ++ rest) =
      contentFrom dtd expand opened level ending more (⟨tag.name.text, tag.opened, [], []⟩ :: frames)
        rest := by
  obtain ⟨raws, hraws, hread⟩ := readContent_opening tag rest
  have hopen := openTag_written hdtd opened tag hraws
  rw [Tag.opening, List.cons_append] at hread ⊢
  simp only [contentFrom, hread, hscope, hopen, Bool.false_eq_true, if_false]

/-- The end tag of an element inside another adds the element to that one. -/
theorem contentFrom_closing {frame other : Frame} {outer : List Frame} (tag : Tag)
    (hname : frame.written = tag.name.text) :
    contentFrom dtd expand opened 0 ending (more + 1) (frame :: other :: outer) (tag.closing ++ rest) =
      contentFrom dtd expand opened 0 ending more
        ({ other with children := frame.close :: other.children } :: outer) rest := by
  have hread := readContent_closing tag rest
  rw [Tag.closing, List.cons_append] at hread ⊢
  simp only [contentFrom, hread]
  simp [hname, closeFrame, addChild]

/-- The end tag of the root element ends the content. -/
theorem contentFrom_closing_root {frame : Frame} (tag : Tag) (hname : frame.written = tag.name.text) :
    contentFrom dtd expand opened 0 ending (more + 1) [frame] (tag.closing ++ rest) =
      .ok (.root frame.close rest) := by
  have hread := readContent_closing tag rest
  rw [Tag.closing, List.cons_append] at hread ⊢
  simp only [contentFrom, hread]
  simp [hname, closeFrame]

end Steps

/-! ## Runs -/

theorem Letter.head_written_ne (letter : Letter) (rest : List Char) :
    (letter.written ++ rest).head? ≠ some '>' := by
  rcases letter.plain_or_refers with ⟨c, h, rfl⟩ | ⟨body, _, hwritten, _, _, _⟩
  · simpa [Letter.written] using (isPlain_iff.mp h).2.2.2.1
  · rw [hwritten]
    simp

theorem Aside.head_written (aside : Aside) (rest : List Char) :
    (aside.written ++ rest).head? = some '<' := by
  cases aside <;> rfl

theorem Markup.head_written_ne (markup : Markup) {rest : List Char} (hrest : rest.head? = some '<') :
    (markup.written ++ rest).head? ≠ some '>' := by
  cases markup with
  | done => simp [Markup.written, hrest]
  | letter letter more =>
    rw [Markup.written, List.append_assoc]
    exact letter.head_written_ne _
  | aside aside more =>
    rw [Markup.written, List.append_assoc, aside.head_written]
    decide
  | element tag inner more => simp [Markup.written, Tag.opening]

/-- No section of characters is closed in written content. -/
theorem Markup.written_ne_bracket (markup : Markup) {rest : List Char} (hrest : rest.head? = some '<')
    (after : List Char) : markup.written ++ rest ≠ ']' :: '>' :: after := by
  intro heq
  cases markup with
  | done =>
    rw [Markup.written, List.nil_append] at heq
    rw [heq] at hrest
    simp at hrest
  | letter letter more =>
    rw [Markup.written, List.append_assoc] at heq
    rcases letter.plain_or_refers with ⟨c, h, rfl⟩ | ⟨body, _, hwritten, _, _, _⟩
    · have hnext : more.written ++ rest = '>' :: after := (List.cons.inj heq).2
      exact more.head_written_ne hrest (by rw [hnext, List.head?_cons])
    · rw [hwritten] at heq
      exact absurd (List.cons.inj heq).1 (by decide)
  | aside aside more =>
    have hhead := aside.head_written (more.written ++ rest)
    rw [Markup.written, List.append_assoc] at heq
    rw [heq] at hhead
    simp at hhead
  | element tag inner more => exact absurd (List.cons.inj heq).1 (by decide)

/-- Content is read part by part; it grows the innermost open element and leaves what follows. -/
theorem contentFrom_markup {dtd : Dtd} (hdtd : dtd.attributes = [])
    {expand : String → List Frame → Except Fault (List Frame)} {opened : List String} {ending : Ending}
    (markup : Markup) {more : Nat} {frame : Frame} {outer : List Frame} {rest : List Char}
    (hscope : frame.tag.scope = []) (hrest : rest.head? = some '<') :
    contentFrom dtd expand opened 0 ending (markup.size + more) (frame :: outer)
        (markup.written ++ rest) =
      contentFrom dtd expand opened 0 ending more (frame.grow markup :: outer) rest := by
  induction markup generalizing more frame outer rest with
  | done =>
    have hsame : frame.grow .done = frame := by
      simp [Frame.grow, Markup.leading, Markup.children]
    rw [hsame, Markup.size, Markup.written, Nat.zero_add, List.nil_append]
  | letter letter markup ih =>
    have hgrow : addCharacter letter.char (frame :: outer) =
        { frame with
          text := if frame.children.isEmpty then letter.char :: frame.text else frame.text } :: outer := by
      rw [addCharacter]
      split <;> rfl
    rw [Markup.size, Markup.written, List.append_assoc, Nat.add_right_comm, contentFrom_letter letter
      (markup.written_ne_bracket hrest), hgrow, ih (by exact hscope) hrest]
    congr 2
    by_cases hempty : frame.children.isEmpty = true <;>
      simp [Frame.grow, Markup.leading, Markup.children, hempty]
  | aside aside markup ih =>
    rw [Markup.size, Markup.written, List.append_assoc, Nat.add_right_comm,
      contentFrom_skipped (readContent_aside aside _), ih hscope hrest]
    rfl
  | element tag inner markup ihInner ihRest =>
    -- the element is read inside a frame of its own, and closed into the one around it
    have hfuel : (Markup.element tag inner markup).size + more =
        inner.size + ((markup.size + more) + 1) + 1 := by
      rw [Markup.size]
      omega
    rw [hfuel, Markup.written, List.append_assoc, List.append_assoc, List.append_assoc,
      contentFrom_opening hdtd (by exact hscope), ihInner rfl rfl, contentFrom_closing tag rfl,
      ihRest (by exact hscope) hrest]
    simp [Frame.grow, Frame.close, Markup.leading, Markup.children, Tag.element]

/-! ## The root element -/

theorem Letter.written_ne_nil (letter : Letter) : letter.written ≠ [] := by
  cases letter <;> simp [Letter.written]

theorem Aside.written_ne_nil (aside : Aside) : aside.written ≠ [] := by
  cases aside <;> simp [Aside.written]

theorem Markup.size_le (markup : Markup) : markup.size ≤ markup.written.length := by
  induction markup with
  | done => simp [Markup.size]
  | letter letter markup ih =>
    have := List.length_pos_of_ne_nil letter.written_ne_nil
    simp only [Markup.size, Markup.written, List.length_append]
    omega
  | aside aside markup ih =>
    have := List.length_pos_of_ne_nil aside.written_ne_nil
    simp only [Markup.size, Markup.written, List.length_append]
    omega
  | element tag inner markup ihInner ihRest =>
    simp only [Markup.size, Markup.written, Tag.opening, Tag.closing, List.length_append,
      List.length_cons]
    omega

/-- How an element is written. -/
def Tag.around (tag : Tag) (inner : Markup) : List Char :=
  tag.opening ++ (inner.written ++ tag.closing)

theorem readRoot_written {dtd : Dtd} (hdtd : dtd.attributes = []) (ending : Ending) (tag : Tag)
    (inner : Markup) (rest : List Char) :
    readRoot dtd ending (tag.around inner ++ rest) =
      .ok (tag.element inner.leading inner.children, rest) := by
  obtain ⟨spare, hspare⟩ : ∃ spare, (tag.around inner ++ rest).length + 1 =
      inner.size + (spare + 1) + 1 := by
    have := inner.size_le
    refine ⟨(tag.around inner ++ rest).length - inner.size - 1, ?_⟩
    simp only [Tag.around, Tag.opening, List.length_append, List.length_cons]
    omega
  have hwritten : tag.around inner ++ rest =
      tag.opening ++ (inner.written ++ (tag.closing ++ rest)) := by
    simp [Tag.around]
  rw [readRoot, hspare, hwritten, contentFrom_opening hdtd rfl,
    contentFrom_markup hdtd inner rfl rfl, contentFrom_closing_root tag rfl]
  simp [Frame.grow, Frame.close, Tag.element]

end LogAudit.Xml
