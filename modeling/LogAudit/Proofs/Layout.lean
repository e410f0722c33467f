import LogAudit.Detection
import LogAudit.Proofs.Segments
import LogAudit.Proofs.Spelling

/-! # Blanks around lines

Buffers and openers are looked for in lines as they stand, blanks around them included. But nothing that
is looked for begins or ends with a blank, and a blank is no word character, so that a search in a line
finds what it finds in the trimmed line.

* `Leaves`: blanks behind a text stay behind what a reader has read.
* `findAll_trimmed`, `foundFrom_trimmed`: searches in a text and in the trimmed text.
* `declaredBuffers_trim`, `receives_trim`, `appendArguments_trim`, `opensCall_trim`: lines.
* `trackBuffers_map_trim`, `statementsFrom_map_trim`: files.
* `detectLines_layout`: files whose lines are the same but for the blanks around them. -/

namespace LogAudit.Text
set_option autoImplicit false

/-! ## Blanks are no word characters -/

/-- The code points of the blanks. -/
def blankCodes : List Nat :=
  List.range' 9 5 ++ List.range' 28 5 ++ List.range' 0x2000 11 ++
    [0x85, 0xA0, 0x1680, 0x2028, 0x2029, 0x202F, 0x205F, 0x3000]

theorem mem_blankCodes {c : Char} (h : isBlank c = true) : c.toNat ∈ blankCodes := by
  simp only [isBlank, Bool.or_eq_true, Bool.and_eq_true, decide_eq_true_eq, beq_iff_eq] at h
  simp only [blankCodes, List.mem_append, List.mem_range'_1, List.mem_cons, List.not_mem_nil, or_false]
  omega

theorem isWord_of_isBlank {c : Char} (h : isBlank c = true) : isWord c = false := by
  have hall : blankCodes.all (fun code => !isWord (Char.ofNat code)) = true := by decide +kernel
  have hcode := List.all_eq_true.mp hall c.toNat (mem_blankCodes h)
  rw [Char.ofNat_toNat] at hcode
  simpa using hcode

theorem isAsciiWord_of_isBlank {c : Char} (h : isBlank c = true) : isAsciiWord c = false := by
  rw [Bool.eq_false_iff]
  intro hword
  have hblank := isWord_of_isBlank h
  rw [Source.isWord_of_isAsciiWord hword] at hblank
  cases hblank

/-! ## Readers -/

section Readers

variable {α β : Type}

/-- Blanks behind a text change nothing but what is left when a reader is done: they stand behind it. -/
def Leaves (add : List Char → β → β) (read : List Char → Option β) : Prop :=
  ∀ text blanks, AllBlank blanks → read (text ++ blanks) = (read text).map (add blanks)

/-- Blanks behind a text that is left. -/
def behind (blanks rest : List Char) : List Char := rest ++ blanks

/-- Blanks behind what is left besides a value. -/
def behindRest (blanks : List Char) (found : α × List Char) : α × List Char :=
  (found.1, found.2 ++ blanks)

/-- A reader that finds nothing at a blank. -/
def RefusesBlank (read : List Char → Option β) : Prop :=
  ∀ c rest, isBlank c = true → read (c :: rest) = none

theorem isPrefixOf?_append_blanks {word : List Char} (hword : ∀ c ∈ word, isBlank c = false)
    (text : List Char) {blanks : List Char} (hblanks : AllBlank blanks) :
    word.isPrefixOf? (text ++ blanks) = (word.isPrefixOf? text).map (behind blanks) := by
  induction word generalizing text with
  | nil => rfl
  | cons w word ih =>
    cases text with
    | nil =>
      cases blanks with
      | nil => rfl
      | cons b blanks =>
        have hne : (w == b) = false := beq_eq_false_iff_ne.mpr
          (Source.ne_of_class (hblanks b List.mem_cons_self) (hword w List.mem_cons_self)).symm
        simp [List.isPrefixOf?, hne]
    | cons c text =>
      simp only [List.cons_append, List.isPrefixOf?]
      split
      · exact ih (fun d hd => hword d (List.mem_cons_of_mem w hd)) text
      · rfl

theorem leaves_dropWord {word : String} (hword : word.toList.all (!isBlank ·) = true) :
    Leaves behind (dropWord word) := by
  intro text blanks hblanks
  have hnone : ∀ c ∈ word.toList, isBlank c = false := by simpa using hword
  exact isPrefixOf?_append_blanks hnone text hblanks

theorem dropBlanks_append_blanks (text : List Char) {blanks : List Char} (hblanks : AllBlank blanks) :
    dropBlanks (text ++ blanks) =
      if (dropBlanks text).isEmpty then [] else dropBlanks text ++ blanks := by
  rw [dropBlanks, dropBlanks, List.dropWhile_append]
  split
  · exact List.dropWhile_eq_nil_iff.mpr hblanks
  · rfl

theorem leaves_dropSpaced (mark : Char) : Leaves behind (dropSpaced mark) := by
  intro text blanks hblanks
  rw [dropSpaced, dropSpaced, dropBlanks_append_blanks text hblanks]
  cases dropBlanks text with
  | nil => rfl
  | cons c rest =>
    by_cases hc : c = mark
    · simp [hc, behind]
    · simp [hc]

variable {add : List Char → β → β} {read : List Char → Option β}

theorem Leaves.bind {first : List Char → Option (List Char)} (hfirst : Leaves behind first)
    (hread : Leaves add read) : Leaves add fun text => (first text).bind read := by
  intro text blanks hblanks
  dsimp only
  rw [hfirst text blanks hblanks]
  cases first text with
  | none => rfl
  | some rest => exact hread rest blanks hblanks

theorem Leaves.findSome? {γ : Type} {choices : List γ} {reads : γ → List Char → Option β}
    (h : ∀ choice ∈ choices, Leaves add (reads choice)) :
    Leaves add fun text => choices.findSome? (reads · text) := by
  intro text blanks hblanks
  induction choices with
  | nil => rfl
  | cons choice choices ih =>
    have hhere := h choice List.mem_cons_self text blanks hblanks
    have hlater := ih fun other hother => h other (List.mem_cons_of_mem choice hother)
    dsimp only at hlater ⊢
    rw [List.findSome?_cons, List.findSome?_cons, hhere, hlater]
    cases reads choice text <;> rfl

/-- What is read behind optional blanks. Where there is nothing but blanks, nothing is read. -/
theorem Leaves.dropBlanks (hread : Leaves add read) (hnil : read [] = none) :
    Leaves add fun text => read (Text.dropBlanks text) := by
  intro text blanks hblanks
  dsimp only
  rw [dropBlanks_append_blanks text hblanks]
  cases Text.dropBlanks text with
  | nil => simp [hnil]
  | cons c rest => exact hread (c :: rest) blanks hblanks

theorem refusesBlank_dropWord {word : String} (hne : word.toList ≠ [])
    (hword : word.toList.all (!isBlank ·) = true) : RefusesBlank (dropWord word) := by
  intro c rest hc
  rw [dropWord]
  cases hchars : word.toList with
  | nil => exact absurd hchars hne
  | cons w chars =>
    have hw : isBlank w = false := by
      rw [hchars] at hword
      simpa using (Bool.and_eq_true_iff.mp (List.all_cons.symm.trans hword)).1
    have hwc : (w == c) = false := beq_eq_false_iff_ne.mpr (Source.ne_of_class hc hw).symm
    simp [List.isPrefixOf?, hwc]

theorem RefusesBlank.bind {first : List Char → Option (List Char)} (h : RefusesBlank first)
    (read : List Char → Option β) : RefusesBlank fun text => (first text).bind read := by
  intro c rest hc
  dsimp only
  rw [h c rest hc]
  rfl

theorem RefusesBlank.findSome? {γ : Type} {choices : List γ} {reads : γ → List Char → Option β}
    (h : ∀ choice ∈ choices, RefusesBlank (reads choice)) :
    RefusesBlank fun text => choices.findSome? (reads · text) := by
  intro c rest hc
  rw [List.findSome?_eq_none_iff]
  exact fun choice hchoice => h choice hchoice c rest hc

end Readers

/-! ## Searches -/

/-- What does not see blanks at either end of a text sees only the trimmed text. -/
theorem eq_of_trimmed {γ : Type} {look : List Char → γ}
    (hfront : ∀ front text, AllBlank front → look (front ++ text) = look text)
    (hback : ∀ text back, AllBlank back → look (text ++ back) = look text) (text : List Char) :
    look (trimmed text) = look text := by
  obtain ⟨front, back, hblank, hblank', htext⟩ := trimmed_shape text
  have hlook : look text = look (front ++ (trimmed text ++ back)) := congrArg look htext
  rw [hlook, hfront front _ hblank, hback _ back hblank']

section Searches

variable {α : Type} {read : Reader α}

theorem sweepFrom_blanks (hrefuses : RefusesBlank read) {blanks : List Char}
    (hblanks : AllBlank blanks) (inside : Nat) :
    sweepFrom read (fun value => [value]) (fun _ => []) inside blanks = [] := by
  induction blanks generalizing inside with
  | nil => rw [sweepFrom]
  | cons b blanks ih =>
    have hrest : AllBlank blanks := fun c hc => hblanks c (List.mem_cons_of_mem b hc)
    cases inside with
    | succ inside => exact ih hrest inside
    | zero =>
      rw [sweepFrom_of_none (hrefuses b blanks (hblanks b List.mem_cons_self))]
      exact ih hrest 0

theorem sweepFrom_append_blanks (hrefuses : RefusesBlank read) (hleaves : Leaves behindRest read)
    (text : List Char) {blanks : List Char} (hblanks : AllBlank blanks) (inside : Nat) :
    sweepFrom read (fun value => [value]) (fun _ => []) inside (text ++ blanks) =
      sweepFrom read (fun value => [value]) (fun _ => []) inside text := by
  induction text generalizing inside with
  | nil => rw [List.nil_append, sweepFrom_blanks hrefuses hblanks, sweepFrom]
  | cons c text ih =>
    cases inside with
    | succ inside => exact ih inside
    | zero =>
      have hread := hleaves (c :: text) blanks hblanks
      rw [List.cons_append] at hread ⊢
      cases hfound : read (c :: text) with
      | none =>
        rw [hfound, Option.map_none] at hread
        rw [sweepFrom_of_none hread, sweepFrom_of_none hfound]
        exact ih 0
      | some found =>
        obtain ⟨value, after⟩ := found
        rw [hfound, Option.map_some] at hread
        have hcount : (text ++ blanks).length - (after ++ blanks).length =
            text.length - after.length := by
          rw [List.length_append, List.length_append]
          omega
        simp only [sweepFrom, hfound, hread, behindRest, hcount, ih]

theorem findAll_blanks_append (hrefuses : RefusesBlank read) {blanks : List Char}
    (hblanks : AllBlank blanks) (text : List Char) :
    findAll read (blanks ++ text) = findAll read text := by
  induction blanks with
  | nil => rfl
  | cons b blanks ih =>
    rw [List.cons_append, findAll, sweepFrom_of_none (hrefuses b _ (hblanks b List.mem_cons_self))]
    exact ih fun c hc => hblanks c (List.mem_cons_of_mem b hc)

/-- A search from left to right finds the same in a text and in the trimmed text. -/
theorem findAll_trimmed (hrefuses : RefusesBlank read) (hleaves : Leaves behindRest read)
    (text : List Char) : findAll read (trimmed text) = findAll read text :=
  eq_of_trimmed (fun _ text hfront => findAll_blanks_append hrefuses hfront text)
    (fun text _ hback => sweepFrom_append_blanks hrefuses hleaves text hback 0) text

/-- Whether `test` holds somewhere behind a character that is not in a class; the flag says whether one
in the class stands before the text. -/
def foundFrom (inClass : Char → Bool) (test : List Char → Bool) : Bool → List Char → Bool
  | _, [] => false
  | inside, c :: rest => (!inside && test (c :: rest)) || foundFrom inClass test (inClass c) rest

theorem occursAtWordFrom_eq (test : List Char → Bool) (inWord : Bool) (text : List Char) :
    occursAtWordFrom test inWord text = foundFrom isWord test inWord text := by
  induction text generalizing inWord with
  | nil => rfl
  | cons c rest ih => rw [occursAtWordFrom, foundFrom, ih]

theorem receivesFrom_eq (call : List Char) (inWord : Bool) (text : List Char) :
    Source.receivesFrom call inWord text = foundFrom isAsciiWord call.isPrefixOf inWord text := by
  induction text generalizing inWord with
  | nil => rfl
  | cons c rest ih => rw [Source.receivesFrom, foundFrom, ih]

/-- A test that fails at a blank and does not see blanks at the end of a text. -/
structure IgnoresBlanks (test : List Char → Bool) : Prop where
  front : ∀ c rest, isBlank c = true → test (c :: rest) = false
  back : ∀ text blanks, AllBlank blanks → test (text ++ blanks) = test text

theorem ignoresBlanks_isSome {β : Type} {add : List Char → β → β} {read : List Char → Option β}
    (hrefuses : RefusesBlank read) (hleaves : Leaves add read) :
    IgnoresBlanks fun text => (read text).isSome := by
  refine ⟨fun c rest hc => ?_, fun text blanks hblanks => ?_⟩
  · rw [hrefuses c rest hc]
    rfl
  · rw [hleaves text blanks hblanks, Option.isSome_map]

theorem IgnoresBlanks.or {test test' : List Char → Bool} (h : IgnoresBlanks test)
    (h' : IgnoresBlanks test') : IgnoresBlanks fun text => test text || test' text := by
  refine ⟨fun c rest hc => ?_, fun text blanks hblanks => ?_⟩
  · rw [h.front c rest hc, h'.front c rest hc]
    rfl
  · rw [h.back text blanks hblanks, h'.back text blanks hblanks]

variable {inClass : Char → Bool} {test : List Char → Bool}

theorem foundFrom_blanks (htest : IgnoresBlanks test) {blanks : List Char} (hblanks : AllBlank blanks)
    (inside : Bool) : foundFrom inClass test inside blanks = false := by
  induction blanks generalizing inside with
  | nil => rfl
  | cons b blanks ih =>
    rw [foundFrom, htest.front b blanks (hblanks b List.mem_cons_self), Bool.and_false, Bool.false_or]
    exact ih (fun c hc => hblanks c (List.mem_cons_of_mem b hc)) _

/-- A search for a place that is not inside of a word finds one in a text if it finds one in the trimmed
text. -/
theorem foundFrom_trimmed (hclass : ∀ c, isBlank c = true → inClass c = false)
    (htest : IgnoresBlanks test) (text : List Char) :
    foundFrom inClass test false (trimmed text) = foundFrom inClass test false text := by
  refine eq_of_trimmed (fun front text hfront => ?_) (fun text back hback => ?_) text
  · induction front with
    | nil => rfl
    | cons b front ih =>
      have hb := hfront b List.mem_cons_self
      rw [List.cons_append, foundFrom, htest.front b _ hb, hclass b hb, Bool.and_false, Bool.false_or]
      exact ih fun c hc => hfront c (List.mem_cons_of_mem b hc)
  · generalize false = inside
    induction text generalizing inside with
    | nil =>
      rw [List.nil_append, foundFrom_blanks htest hback]
      rfl
    | cons c text ih =>
      have hhere := htest.back (c :: text) back hback
      rw [List.cons_append] at hhere ⊢
      rw [foundFrom, foundFrom, hhere, ih]

end Searches

theorem trim_trim (text : String) : trim (trim text) = trim text := by
  rw [trim, trim, String.toList_ofList, trimmed_trimmed]

theorem toList_trim (text : String) : (trim text).toList = trimmed text.toList := by
  rw [trim, String.toList_ofList]

end LogAudit.Text

namespace LogAudit.Source
set_option autoImplicit false

open Text

/-! ## What is looked for in a line -/

section Readers

variable {text blanks : List Char}

theorem takeWhile_asciiWord_append (text : List Char) (hblanks : AllBlank blanks) :
    (text ++ blanks).takeWhile isAsciiWord = text.takeWhile isAsciiWord ∧
      (text ++ blanks).dropWhile isAsciiWord = text.dropWhile isAsciiWord ++ blanks := by
  have hstop : blanks.takeWhile isAsciiWord = [] ∧ blanks.dropWhile isAsciiWord = blanks := by
    cases blanks with
    | nil => exact ⟨rfl, rfl⟩
    | cons b blanks =>
      have hb := isAsciiWord_of_isBlank (hblanks b List.mem_cons_self)
      simp [hb]
  rw [List.takeWhile_append, List.dropWhile_append]
  constructor
  · split
    · next hall =>
      rw [hstop.1, List.append_nil]
      exact (List.takeWhile_prefix isAsciiWord).eq_of_length hall |>.symm
    · rfl
  · split
    · next hempty => rw [hstop.2, List.isEmpty_iff.mp hempty, List.nil_append]
    · rfl

/-- Reads a name and the equals sign behind it. -/
def readSetName : Reader String := fun text =>
  if (text.takeWhile isAsciiWord).head?.any isNameStart then
    (dropSpaced '=' (text.dropWhile isAsciiWord)).map (String.ofList (text.takeWhile isAsciiWord), ·)
  else none

theorem leaves_readSetName : Leaves behindRest readSetName := by
  intro text blanks hblanks
  obtain ⟨htake, hdrop⟩ := takeWhile_asciiWord_append text hblanks
  rw [readSetName, readSetName, htake, hdrop, leaves_dropSpaced '=' _ blanks hblanks]
  split
  · cases dropSpaced '=' (text.dropWhile isAsciiWord) <;> rfl
  · rfl

/-- Reads the name of a buffer and the equals sign, behind at least one blank. -/
def readSetNameSpaced : Reader String := fun rest =>
  if rest.head?.any isBlank then readSetName (dropBlanks rest) else none

theorem leaves_readSetNameSpaced : Leaves behindRest readSetNameSpaced := by
  intro text blanks hblanks
  have hname : Leaves behindRest fun text => readSetName (dropBlanks text) :=
    leaves_readSetName.dropBlanks rfl
  cases text with
  | nil =>
    have hnone : readSetName (dropBlanks blanks) = none := by
      rw [dropBlanks, List.dropWhile_eq_nil_iff.mpr hblanks]
      rfl
    simp [readSetNameSpaced, hnone]
  | cons c text =>
    have hspaced := hname (c :: text) blanks hblanks
    dsimp only at hspaced
    rw [readSetNameSpaced, readSetNameSpaced, hspaced]
    by_cases hc : isBlank c = true <;> simp [hc]

theorem readDeclaration_eq :
    readDeclaration = fun text => ["StringBuilder", "StringBuffer"].findSome? fun type =>
      (dropWord type text).bind readSetNameSpaced := rfl

theorem leaves_readDeclaration : Leaves behindRest readDeclaration := by
  rw [readDeclaration_eq]
  refine Leaves.findSome? fun type htype => ?_
  have hword : type.toList.all (!isBlank ·) = true := by
    simp only [List.mem_cons, List.not_mem_nil, or_false] at htype
    rcases htype with rfl | rfl <;> decide
  exact (leaves_dropWord hword).bind leaves_readSetNameSpaced

theorem refusesBlank_readDeclaration : RefusesBlank readDeclaration := by
  rw [readDeclaration_eq]
  refine RefusesBlank.findSome? fun type htype => ?_
  simp only [List.mem_cons, List.not_mem_nil, or_false] at htype
  rcases htype with rfl | rfl <;>
    exact (refusesBlank_dropWord (by decide) (by decide)).bind _

theorem readArgument_unclosed (h : ')' ∉ text) : readArgument text = none := by
  have hfree : ∀ c ∈ text, (c != ')') = true := fun c hc =>
    bne_iff_ne.mpr fun hparen => h (hparen ▸ hc)
  rw [readArgument, List.dropWhile_eq_nil_iff.mpr hfree]
  cases text.takeWhile (· != ')') <;> rfl

theorem leaves_readArgument : Leaves behindRest readArgument := by
  intro text blanks hblanks
  have hfree : ')' ∉ blanks := fun hparen => absurd (hblanks ')' hparen) (by decide)
  by_cases hclosed : ')' ∈ text
  · obtain ⟨c, rest, hclosing⟩ : ∃ c rest, text.dropWhile (· != ')') = c :: rest := by
      refine List.exists_cons_of_ne_nil fun hnil => ?_
      simpa using List.dropWhile_eq_nil_iff.mp hnil ')' hclosed
    have hshort : (text.takeWhile (· != ')')).length ≠ text.length := by
      have hsplit := congrArg List.length
        (List.takeWhile_append_dropWhile (p := (· != ')')) (l := text))
      rw [hclosing, List.length_append, List.length_cons] at hsplit
      omega
    rw [readArgument, readArgument, List.takeWhile_append, List.dropWhile_append, if_neg hshort,
      hclosing, if_neg (by simp)]
    cases text.takeWhile (· != ')') <;> rfl
  · rw [readArgument_unclosed hclosed, readArgument_unclosed (by simp [hclosed, hfree])]
    rfl

theorem leaves_readParenthesised : Leaves behindRest readParenthesised :=
  (leaves_dropSpaced '(').bind leaves_readArgument

theorem leaves_readAppend : Leaves behindRest readAppend := by
  have happend : Leaves behindRest fun text => (dropWord "append" text).bind readParenthesised :=
    (leaves_dropWord (by decide)).bind leaves_readParenthesised
  exact (leaves_dropWord (by decide)).bind (happend.dropBlanks rfl)

theorem refusesBlank_readAppend : RefusesBlank readAppend :=
  (refusesBlank_dropWord (by decide) (by decide)).bind _

theorem leaves_dropOneOf {words : List String} (hwords : ∀ word ∈ words,
    word.toList.all (!isBlank ·) = true) {next : List Char → Option (List Char)}
    (hnext : Leaves behind next) : Leaves behind (dropOneOf words next) :=
  Leaves.findSome? fun word hword => (leaves_dropWord (hwords word hword)).bind hnext

theorem leaves_dropDot {next : List Char → Option (List Char)} (hnext : Leaves behind next)
    (hnil : next [] = none) : Leaves behind fun text => (dropDot text).bind next := by
  have hdot : (fun text => (dropDot text).bind next) =
      fun text => (dropSpaced '.' text).bind fun rest => next (dropBlanks rest) := by
    funext text
    rw [dropDot]
    cases dropSpaced '.' text <;> rfl
  rw [hdot]
  exact (leaves_dropSpaced '.').bind (hnext.dropBlanks hnil)

theorem leaves_dropLogOpener : Leaves behind dropLogOpener :=
  leaves_dropOneOf (by decide)
    (leaves_dropDot (leaves_dropOneOf (by decide) (leaves_dropSpaced '(')) rfl)

theorem leaves_dropConsoleOpener : Leaves behind dropConsoleOpener :=
  (leaves_dropWord (by decide)).bind (leaves_dropDot (leaves_dropOneOf (by decide)
    (leaves_dropDot (leaves_dropOneOf (by decide) (leaves_dropSpaced '(')) rfl)) rfl)

theorem refusesBlank_dropLogOpener : RefusesBlank dropLogOpener := by
  refine RefusesBlank.findSome? fun word hword => ?_
  have hplain : word.toList ≠ [] ∧ word.toList.all (!isBlank ·) = true := by
    revert word
    decide
  exact (refusesBlank_dropWord hplain.1 hplain.2).bind _

theorem refusesBlank_dropConsoleOpener : RefusesBlank dropConsoleOpener :=
  (refusesBlank_dropWord (by decide) (by decide)).bind _

end Readers

/-! ## Lines -/

theorem declaredBuffers_trim (line : String) : declaredBuffers (trim line) = declaredBuffers line := by
  rw [declaredBuffers, toList_trim]
  exact findAll_trimmed refusesBlank_readDeclaration leaves_readDeclaration line.toList

theorem appendArguments_trim (line : String) : appendArguments (trim line) = appendArguments line := by
  rw [appendArguments, toList_trim, findAll_trimmed refusesBlank_readAppend leaves_readAppend]
  rfl

theorem opensCall_trim (line : String) : opensCall (trim line) = opensCall line := by
  have hopener : IgnoresBlanks fun rest =>
      (dropLogOpener rest).isSome || (dropConsoleOpener rest).isSome :=
    (ignoresBlanks_isSome refusesBlank_dropLogOpener leaves_dropLogOpener).or
      (ignoresBlanks_isSome refusesBlank_dropConsoleOpener leaves_dropConsoleOpener)
  rw [opensCall, opensCall, toList_trim, occursAtWord, occursAtWord, occursAtWordFrom_eq,
    occursAtWordFrom_eq]
  exact foundFrom_trimmed (fun _ => isWord_of_isBlank) hopener line.toList

theorem isBlank_of_isAsciiWord {c : Char} (h : isAsciiWord c = true) : isBlank c = false := by
  rw [Bool.eq_false_iff]
  intro hblank
  rw [isAsciiWord_of_isBlank hblank] at h
  cases h

/-- A call of `append` on a name has no blank in it. -/
theorem receives_trim {name : String} (hname : isName name.toList = true) (line : String) :
    receives name (trim line) = receives name line := by
  have hall : ∀ c ∈ (name ++ ".append").toList, isBlank c = false := by
    intro c hc
    rw [String.toList_append] at hc
    rcases List.mem_append.mp hc with hmem | hmem
    · obtain ⟨_, _, _, _, hword⟩ := isName_iff.mp hname
      exact isBlank_of_isAsciiWord (hword c hmem)
    · have hplain : ".append".toList.all (!isBlank ·) = true := by decide
      simpa using List.all_eq_true.mp hplain c hmem
  obtain ⟨first, call, hcall⟩ : ∃ first call, (name ++ ".append").toList = first :: call :=
    List.exists_cons_of_ne_nil (by simp)
  rw [hcall] at hall
  have hignores : IgnoresBlanks (first :: call).isPrefixOf := by
    refine ⟨fun c rest hc => ?_, fun text blanks hblanks => ?_⟩
    · have hne : (first == c) = false := beq_eq_false_iff_ne.mpr
        (ne_of_class hc (hall first List.mem_cons_self)).symm
      simp [List.isPrefixOf, hne]
    · rw [← List.isSome_isPrefixOf?_eq_isPrefixOf, isPrefixOf?_append_blanks hall text hblanks,
        Option.isSome_map, List.isSome_isPrefixOf?_eq_isPrefixOf]
  rw [receives, receives, toList_trim, hcall, receivesFrom_eq, receivesFrom_eq]
  exact foundFrom_trimmed (fun _ => isAsciiWord_of_isBlank) hignores line.toList

theorem declaresMethod_trim (line : String) : declaresMethod (trim line) = declaresMethod line := by
  rw [declaresMethod, declaresMethod, toList_trim, trimmed_trimmed]

theorem endsStatement_trim (line : String) : endsStatement (trim line) = endsStatement line := by
  rw [endsStatement, endsStatement, toList_trim, trimmed_trimmed]

theorem opensStatement_trim (line : String) : opensStatement (trim line) = opensStatement line := by
  rw [opensStatement, opensStatement, opensCall_trim, declaresMethod_trim]

/-! ## Files -/

theorem historyOf_map_trim (lines : List String) {name : String} (hname : isName name.toList = true) :
    historyOf (lines.map trim) name = historyOf lines name := by
  have hadded : ∀ line, addedBy name (trim line) = addedBy name line := fun line => by
    rw [addedBy, addedBy, receives_trim hname, appendArguments_trim]
  rw [historyOf, historyOf, List.dropWhile_map, List.flatMap_map]
  simp only [Function.comp_def, declaredBuffers_trim, hadded]

theorem trackBuffers_map_trim (lines : List String) :
    trackBuffers (lines.map trim) = trackBuffers lines := by
  rw [trackBuffers_eq, trackBuffers_eq, List.flatMap_map]
  simp only [declaredBuffers_trim]
  refine List.map_congr_left fun name hname => ?_
  obtain ⟨line, _, hdeclared⟩ := List.mem_flatMap.mp (List.mem_eraseDups.mp hname)
  rw [historyOf_map_trim lines (declares_of_mem hdeclared).1]

theorem furtherLines_map_trim (lines : List String) :
    furtherLines (lines.map trim) = furtherLines lines := by
  rw [furtherLines, furtherLines, List.findIdx?_map]
  simp only [Function.comp_def, endsStatement_trim]

theorem joinLines_map_trim (lines : List String) : joinLines (lines.map trim) = joinLines lines := by
  rw [joinLines, joinLines, List.map_map]
  simp only [Function.comp_def, trim_trim]

theorem statementsFrom_map_trim (file : String) (buffers : Buffers) (number inside : Nat)
    (lines : List String) :
    statementsFrom file buffers number inside (lines.map trim) =
      statementsFrom file buffers number inside lines := by
  induction lines generalizing number inside with
  | nil => cases inside <;> rfl
  | cons line rest ih =>
    cases inside with
    | succ inside => exact ih (number + 1) inside
    | zero =>
      have hfurther := furtherLines_map_trim (line :: rest)
      rw [List.map_cons] at hfurther ⊢
      cases hopens : opensStatement line with
      | true =>
        rw [statementsFrom_of_opens hopens, statementsFrom_of_opens (by rw [opensStatement_trim, hopens]),
          hfurther, ih, ← List.map_cons, ← List.map_take, joinLines_map_trim]
      | false =>
        rw [statementsFrom_of_not_opens hopens,
          statementsFrom_of_not_opens (by rw [opensStatement_trim, hopens])]
        exact ih (number + 1) 0

end LogAudit.Source

namespace LogAudit
set_option autoImplicit false

open Source Text

theorem fileStatements_map_trim (file : String) (lines : List String) :
    fileStatements file (lines.map trim) = fileStatements file lines := by
  rw [fileStatements, fileStatements, statements, statements, trackBuffers_map_trim,
    statementsFrom_map_trim]

/-- Blanks around lines make no difference: two files whose lines are the same when trimmed have the same
buffers, the same statements with the same numbers, texts and traces, and the same detections in the
same order. -/
theorem detectLines_layout (rules : RuleSet) (file : String) {lines others : List String}
    (h : List.Forall₂ (fun line other => trim line = trim other) lines others) :
    trackBuffers lines = trackBuffers others ∧
      fileStatements file lines = fileStatements file others ∧
      (fileStatements file lines).map (detect rules.keywords rules.objectTypes) =
        (fileStatements file others).map (detect rules.keywords rules.objectTypes) ∧
      detectLines rules file lines = detectLines rules file others := by
  have htrim : lines.map trim = others.map trim := by
    induction h with
    | nil => rfl
    | cons hline _ ih => rw [List.map_cons, List.map_cons, hline, ih]
  have hbuffers : trackBuffers lines = trackBuffers others := by
    rw [← trackBuffers_map_trim lines, htrim, trackBuffers_map_trim]
  have hstatements : fileStatements file lines = fileStatements file others := by
    rw [← fileStatements_map_trim file lines, htrim, fileStatements_map_trim]
  refine ⟨hbuffers, hstatements, by rw [hstatements], ?_⟩
  rw [detectLines, detectLines, hstatements]

/-- A password that goes through a buffer into a call over two lines is detected wherever the lines
begin: behind a tab, an em space or a file separator. -/
theorem detectLines_layout_indented :
    detectLines { keywords := [.literal "password"] } "A.java"
        ["\tStringBuilder b = new StringBuilder();\x0b", "\u2003b.append(password); ",
          "  log.info(\"user\"", "\x1c+ b);\u00a0"] =
      [⟨"A.java", 3, "password", "log.info(\"user\" + b);"⟩] := by
  have hsame : List.Forall₂ (fun line other => trim line = trim other)
      ["\tStringBuilder b = new StringBuilder();\x0b", "\u2003b.append(password); ",
        "  log.info(\"user\"", "\x1c+ b);\u00a0"]
      ["StringBuilder b = new StringBuilder();", "b.append(password);", "log.info(\"user\"", "+ b);"] := by
    simp only [List.forall₂_cons, List.forall₂_nil_left_iff]
    decide +kernel
  obtain ⟨_, _, _, hdetect⟩ := detectLines_layout { keywords := [.literal "password"] } "A.java" hsame
  rw [hdetect]
  decide +kernel

end LogAudit
