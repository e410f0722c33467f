import LogAudit.Proofs.Layout
import LogAudit.Source.Opener

/-! # What a call opener looks like

An opener is made of words, dots and blanks, and its last character is the parenthesis that opens the
call.

* `OpensWith`: the shape, for every part of an opener.
* `opensWith_log`, `opensWith_console`: both kinds of openers have it.
* `IsLogOpener`, `IsConsoleOpener`: the two kinds of openers, part by part.
* `passes_log`, `passes_console`: the readers of openers read these and nothing else.
* `opensCall_iff_isOpener`, `opensCall_iff_written`: the lines that open a call, with an opener and with
  its parts. -/

namespace LogAudit.Source
set_option autoImplicit false

open Text

/-- What goes in front of the parenthesis of a call: neither quotes nor parentheses. -/
def isOpening (c : Char) : Bool :=
  c != '"' && c != '(' && c != ')'

theorem isOpening_of_isBlank {c : Char} (h : isBlank c = true) : isOpening c = true := by
  have hquote : c ≠ '"' := ne_of_class h (by decide)
  have hopen : c ≠ '(' := ne_of_class h (by decide)
  have hclose : c ≠ ')' := ne_of_class h (by decide)
  simp [isOpening, hquote, hopen, hclose]

/-- A step that passes an opener, or the last part of one, up to its parenthesis. -/
def OpensWith (next : List Char → Option (List Char)) : Prop :=
  ∀ text rest, next text = some rest →
    ∃ used, text = used ++ '(' :: rest ∧ ∀ c ∈ used, isOpening c = true

theorem opensWith_parenthesis : OpensWith (dropSpaced '(') := by
  intro text rest h
  obtain ⟨blanks, hblanks, htext⟩ := dropSpaced_shape h
  exact ⟨blanks, htext, fun c hc => isOpening_of_isBlank (hblanks c hc)⟩

variable {next : List Char → Option (List Char)}

theorem OpensWith.behind_word (hnext : OpensWith next) {word : String}
    (hword : word.toList.all isOpening = true) :
    OpensWith fun text => (dropWord word text).bind next := by
  intro text rest h
  obtain ⟨behind, hdrop, hbehind⟩ := Option.bind_eq_some_iff.mp h
  obtain ⟨used, hused, hopening⟩ := hnext behind rest hbehind
  refine ⟨word.toList ++ used, by rw [dropWord_eq_some.mp hdrop, hused, List.append_assoc], ?_⟩
  exact List.forall_mem_append.mpr ⟨List.all_eq_true.mp hword, hopening⟩

theorem OpensWith.oneOf (hnext : OpensWith next) {words : List String}
    (hwords : ∀ word ∈ words, word.toList.all isOpening = true) :
    OpensWith (dropOneOf words next) := by
  intro text rest h
  obtain ⟨word, hword, hdrop⟩ := List.exists_of_findSome?_eq_some h
  exact hnext.behind_word (hwords word hword) text rest hdrop

theorem OpensWith.behind_dot (hnext : OpensWith next) :
    OpensWith fun text => (dropDot text).bind next := by
  intro text rest h
  obtain ⟨behind, hdot, hbehind⟩ := Option.bind_eq_some_iff.mp h
  obtain ⟨after, hafter, rfl⟩ := Option.map_eq_some_iff.mp hdot
  obtain ⟨front, hfront, htext⟩ := dropSpaced_shape hafter
  obtain ⟨back, hback, hdropped⟩ := dropBlanks_shape after
  obtain ⟨used, hused, hopening⟩ := hnext _ rest hbehind
  refine ⟨front ++ '.' :: (back ++ used), by rw [htext, hdropped, hused]; simp, ?_⟩
  intro c hc
  simp only [List.mem_append, List.mem_cons] at hc
  rcases hc with hc | rfl | hc | hc
  · exact isOpening_of_isBlank (hfront c hc)
  · decide
  · exact isOpening_of_isBlank (hback c hc)
  · exact hopening c hc

theorem opensWith_log : OpensWith dropLogOpener :=
  (opensWith_parenthesis.oneOf (by decide)).behind_dot.oneOf (by decide)

theorem opensWith_console : OpensWith dropConsoleOpener :=
  ((opensWith_parenthesis.oneOf (by decide)).behind_dot.oneOf (by decide)).behind_dot.behind_word
    (by decide)

/-! ## The grammar of openers -/

/-- One of some words, then more. -/
def WordThen (words : List String) (more : List Char → Prop) (text : List Char) : Prop :=
  ∃ word ∈ words, ∃ rest, more rest ∧ text = word.toList ++ rest

/-- A dot that blanks may surround, then more. -/
def DotThen (more : List Char → Prop) (text : List Char) : Prop :=
  ∃ front back rest, AllBlank front ∧ AllBlank back ∧ more rest ∧
    text = front ++ '.' :: (back ++ rest)

/-- An opening parenthesis that blanks may precede. -/
def Parenthesis (text : List Char) : Prop :=
  ∃ blanks, AllBlank blanks ∧ text = blanks ++ ['(']

/-- The opener of a log call: a logger, a dot, a level and a parenthesis. -/
def IsLogOpener : List Char → Prop :=
  WordThen loggerNames (DotThen (WordThen levelNames Parenthesis))

/-- The opener of a console call: `System`, a dot, a stream, a dot, a print method and a parenthesis. -/
def IsConsoleOpener : List Char → Prop :=
  WordThen ["System"] (DotThen (WordThen streamNames (DotThen (WordThen printNames Parenthesis))))

/-- The opener of a call. -/
def IsOpener (opener : List Char) : Prop := IsLogOpener opener ∨ IsConsoleOpener opener

/-- A step that passes the texts of a shape, and no others. -/
def Passes (next : List Char → Option (List Char)) (shape : List Char → Prop) : Prop :=
  ∀ text rest, next text = some rest ↔ ∃ used, shape used ∧ text = used ++ rest

theorem passes_parenthesis : Passes (dropSpaced '(') Parenthesis := by
  intro text rest
  constructor
  · intro h
    obtain ⟨blanks, hblanks, htext⟩ := dropSpaced_shape h
    exact ⟨blanks ++ ['('], ⟨blanks, hblanks, rfl⟩, by simpa using htext⟩
  · rintro ⟨used, ⟨blanks, hblanks, rfl⟩, rfl⟩
    rw [List.append_assoc]
    exact dropSpaced_append hblanks (by decide)

/-- An opener goes up to the first parenthesis, so that there is only one way to go on behind it. -/
theorem OpensWith.unique (hnext : OpensWith next) {other : List Char → Option (List Char)}
    (hother : OpensWith other) {text rest rest' : List Char} (h : next text = some rest)
    (h' : other text = some rest') : rest = rest' := by
  obtain ⟨used, htext, hused⟩ := hnext text rest h
  obtain ⟨used', htext', hused'⟩ := hother text rest' h'
  have hsplit := split_unique isOpening hused (by simp; decide) hused' (by simp; decide)
    (htext.symm.trans htext')
  exact (List.cons.inj hsplit.2).2

variable {shape : List Char → Prop}

theorem Passes.oneOf (h : Passes next shape) (hnext : OpensWith next) {words : List String}
    (hwords : ∀ word ∈ words, word.toList.all isOpening = true) :
    Passes (dropOneOf words next) (WordThen words shape) := by
  intro text rest
  constructor
  · intro hdrop
    obtain ⟨word, hword, hdrop⟩ := List.exists_of_findSome?_eq_some hdrop
    obtain ⟨behind, hbehind, hmore⟩ := Option.bind_eq_some_iff.mp hdrop
    obtain ⟨used, hused, rfl⟩ := (h behind rest).mp hmore
    refine ⟨word.toList ++ used, ⟨word, hword, used, hused, rfl⟩, ?_⟩
    rw [dropWord_eq_some.mp hbehind, List.append_assoc]
  · rintro ⟨used, ⟨word, hword, more, hmore, rfl⟩, rfl⟩
    have hhere : (dropWord word (word.toList ++ more ++ rest)).bind next = some rest := by
      rw [List.append_assoc, dropWord_eq_some.mpr rfl, Option.bind_some, h]
      exact ⟨more, hmore, rfl⟩
    have hsome : (dropOneOf words next (word.toList ++ more ++ rest)).isSome = true := by
      rw [dropOneOf, List.findSome?_isSome_iff]
      exact ⟨word, hword, by rw [hhere]; rfl⟩
    obtain ⟨other, hother⟩ := Option.isSome_iff_exists.mp hsome
    rw [hother, (hnext.oneOf hwords).unique (hnext.behind_word (hwords word hword)) hother hhere]

theorem Passes.behind_dot (h : Passes next shape)
    (hshape : ∀ used rest, shape used → ∀ c ∈ (used ++ rest).head?, isBlank c = false) :
    Passes (fun text => (dropDot text).bind next) (DotThen shape) := by
  intro text rest
  constructor
  · intro hdrop
    obtain ⟨behind, hdot, hmore⟩ := Option.bind_eq_some_iff.mp hdrop
    obtain ⟨after, hafter, rfl⟩ := Option.map_eq_some_iff.mp hdot
    obtain ⟨front, hfront, rfl⟩ := dropSpaced_shape hafter
    obtain ⟨back, hback, hdropped⟩ := dropBlanks_shape after
    obtain ⟨used, hused, hrest⟩ := (h _ rest).mp hmore
    refine ⟨front ++ '.' :: (back ++ used), ⟨front, back, used, hfront, hback, hused, rfl⟩, ?_⟩
    rw [hdropped, hrest]
    simp
  · rintro ⟨used, ⟨front, back, more, hfront, hback, hmore, rfl⟩, rfl⟩
    have htext : front ++ '.' :: (back ++ more) ++ rest = front ++ '.' :: (back ++ (more ++ rest)) := by
      simp
    dsimp only
    rw [htext, dropDot, dropSpaced_append hfront (by decide), Option.map_some, Option.bind_some,
      dropBlanks_padded hback (hshape more rest hmore), h]
    exact ⟨more, hmore, rfl⟩

theorem head_wordThen {words : List String} {more : List Char → Prop} {used : List Char}
    (hwords : ∀ word ∈ words, word.toList.head?.any isAsciiWord = true)
    (h : WordThen words more used) : ∃ c rest, used = c :: rest ∧ isAsciiWord c = true := by
  obtain ⟨word, hword, rest, -, rfl⟩ := h
  have hhead := hwords word hword
  cases hchars : word.toList with
  | nil => simp [hchars] at hhead
  | cons c chars => exact ⟨c, chars ++ rest, rfl, by simpa [hchars] using hhead⟩

theorem Passes.behind_dot_word {words : List String} {more : List Char → Prop}
    (h : Passes next (WordThen words more))
    (hwords : ∀ word ∈ words, word.toList.head?.any isAsciiWord = true) :
    Passes (fun text => (dropDot text).bind next) (DotThen (WordThen words more)) := by
  refine h.behind_dot fun used rest hused => ?_
  obtain ⟨c, behind, rfl, hc⟩ := head_wordThen hwords hused
  simpa using isBlank_of_isAsciiWord hc

theorem passes_log : Passes dropLogOpener IsLogOpener := by
  have hlevel : Passes (dropOneOf levelNames (dropSpaced '(')) (WordThen levelNames Parenthesis) :=
    passes_parenthesis.oneOf opensWith_parenthesis (by decide)
  exact (hlevel.behind_dot_word (by decide)).oneOf
    (opensWith_parenthesis.oneOf (by decide)).behind_dot (by decide)

theorem passes_console : Passes dropConsoleOpener IsConsoleOpener := by
  have hmethod : Passes (dropOneOf printNames (dropSpaced '(')) (WordThen printNames Parenthesis) :=
    passes_parenthesis.oneOf opensWith_parenthesis (by decide)
  have hopens : OpensWith fun text => (dropDot text).bind (dropOneOf printNames (dropSpaced '(')) :=
    (opensWith_parenthesis.oneOf (by decide)).behind_dot
  have hstream : Passes
      (dropOneOf streamNames fun rest => (dropDot rest).bind (dropOneOf printNames (dropSpaced '(')))
      (WordThen streamNames (DotThen (WordThen printNames Parenthesis))) :=
    (hmethod.behind_dot_word (by decide)).oneOf hopens (by decide)
  have hsystem : dropConsoleOpener = dropOneOf ["System"] fun rest => (dropDot rest).bind
      (dropOneOf streamNames fun rest => (dropDot rest).bind (dropOneOf printNames (dropSpaced '('))) := by
    funext text
    rw [dropConsoleOpener, dropOneOf, List.findSome?_cons, List.findSome?_nil]
    cases (dropWord "System" text).bind _ <;> rfl
  rw [hsystem]
  exact (hstream.behind_dot_word (by decide)).oneOf (hopens.oneOf (by decide)).behind_dot (by decide)

/-- An opener is what a reader of openers passes as a whole. -/
theorem isOpener_iff {opener : List Char} :
    IsOpener opener ↔ dropLogOpener opener = some [] ∨ dropConsoleOpener opener = some [] := by
  rw [passes_log opener [], passes_console opener []]
  simp only [List.append_nil, exists_eq_right', IsOpener]

instance (opener : List Char) : Decidable (IsOpener opener) :=
  decidable_of_iff' _ isOpener_iff

/-- An opener ends with its only parenthesis, and it has no quote. -/
theorem IsOpener.ends {opener : List Char} (h : IsOpener opener) :
    ∃ body, opener = body ++ ['('] ∧ ∀ c ∈ body, isOpening c = true :=
  (isOpener_iff.mp h).elim (opensWith_log opener []) (opensWith_console opener [])

/-! ## Lines -/

/-- The test looks at every place of a line where a word can begin, and at each with both readers. -/
theorem opensCall_iff_isOpener {line : String} :
    opensCall line = true ↔ ∃ before opener after, line.toList = before ++ (opener ++ after) ∧
      IsOpener opener ∧ ∀ c ∈ before.getLast?, isWord c = false := by
  unfold opensCall
  rw [occursAtWord_iff]
  constructor
  · rintro ⟨before, here, hline, -, htest, hlast⟩
    obtain ⟨opener, after, hopener, rfl⟩ : ∃ opener after, IsOpener opener ∧ here = opener ++ after := by
      rcases (Bool.or_eq_true _ _).mp htest with hlog | hconsole
      · obtain ⟨after, hafter⟩ := Option.isSome_iff_exists.mp hlog
        obtain ⟨opener, hopener, hhere⟩ := (passes_log here after).mp hafter
        exact ⟨opener, after, Or.inl hopener, hhere⟩
      · obtain ⟨after, hafter⟩ := Option.isSome_iff_exists.mp hconsole
        obtain ⟨opener, hopener, hhere⟩ := (passes_console here after).mp hafter
        exact ⟨opener, after, Or.inr hopener, hhere⟩
    exact ⟨before, opener, after, hline, hopener, hlast⟩
  · rintro ⟨before, opener, after, hline, hopener, hlast⟩
    refine ⟨before, opener ++ after, hline, ?_, ?_, hlast⟩
    · obtain ⟨body, rfl, -⟩ := hopener.ends
      simp
    · rw [Bool.or_eq_true]
      rcases hopener with hlog | hconsole
      · exact Or.inl (Option.isSome_iff_exists.mpr ⟨after, (passes_log _ _).mpr ⟨opener, hlog, rfl⟩⟩)
      · exact Or.inr
          (Option.isSome_iff_exists.mpr ⟨after, (passes_console _ _).mpr ⟨opener, hconsole, rfl⟩⟩)

theorem isLogOpener_iff {opener : List Char} :
    IsLogOpener opener ↔ ∃ logger ∈ loggerNames, ∃ level ∈ levelNames, ∃ gap₁ gap₂ gap₃,
      AllBlank gap₁ ∧ AllBlank gap₂ ∧ AllBlank gap₃ ∧
      opener = logger.toList ++ gap₁ ++ ['.'] ++ gap₂ ++ level.toList ++ gap₃ ++ ['('] := by
  constructor
  · rintro ⟨logger, hlogger, _, ⟨gap₁, gap₂, _, h₁, h₂, ⟨level, hlevel, _, ⟨gap₃, h₃, rfl⟩, rfl⟩, rfl⟩, rfl⟩
    exact ⟨logger, hlogger, level, hlevel, gap₁, gap₂, gap₃, h₁, h₂, h₃, by simp⟩
  · rintro ⟨logger, hlogger, level, hlevel, gap₁, gap₂, gap₃, h₁, h₂, h₃, rfl⟩
    have hlast : Parenthesis (gap₃ ++ ['(']) := ⟨gap₃, h₃, rfl⟩
    have hbehind : WordThen levelNames Parenthesis (level.toList ++ (gap₃ ++ ['('])) :=
      ⟨level, hlevel, _, hlast, rfl⟩
    exact ⟨logger, hlogger, _, ⟨gap₁, gap₂, _, h₁, h₂, hbehind, rfl⟩, by simp⟩

theorem isConsoleOpener_iff {opener : List Char} :
    IsConsoleOpener opener ↔ ∃ stream ∈ streamNames, ∃ method ∈ printNames, ∃ gap₁ gap₂ gap₃ gap₄ gap₅,
      AllBlank gap₁ ∧ AllBlank gap₂ ∧ AllBlank gap₃ ∧ AllBlank gap₄ ∧ AllBlank gap₅ ∧
      opener = "System".toList ++ gap₁ ++ ['.'] ++ gap₂ ++ stream.toList ++ gap₃ ++ ['.'] ++ gap₄ ++
        method.toList ++ gap₅ ++ ['('] := by
  constructor
  · rintro ⟨system, hsystem, _, ⟨gap₁, gap₂, _, h₁, h₂, ⟨stream, hstream, _, ⟨gap₃, gap₄, _, h₃, h₄,
      ⟨method, hmethod, _, ⟨gap₅, h₅, rfl⟩, rfl⟩, rfl⟩, rfl⟩, rfl⟩, rfl⟩
    obtain rfl := List.mem_singleton.mp hsystem
    exact ⟨stream, hstream, method, hmethod, gap₁, gap₂, gap₃, gap₄, gap₅, h₁, h₂, h₃, h₄, h₅, by simp⟩
  · rintro ⟨stream, hstream, method, hmethod, gap₁, gap₂, gap₃, gap₄, gap₅, h₁, h₂, h₃, h₄, h₅, rfl⟩
    have hlast : WordThen printNames Parenthesis (method.toList ++ (gap₅ ++ ['('])) :=
      ⟨method, hmethod, _, ⟨gap₅, h₅, rfl⟩, rfl⟩
    have hbehind : WordThen streamNames (DotThen (WordThen printNames Parenthesis))
        (stream.toList ++ (gap₃ ++ '.' :: (gap₄ ++ (method.toList ++ (gap₅ ++ ['(']))))) :=
      ⟨stream, hstream, _, ⟨gap₃, gap₄, _, h₃, h₄, hlast, rfl⟩, rfl⟩
    exact ⟨"System", List.mem_singleton.mpr rfl, _, ⟨gap₁, gap₂, _, h₁, h₂, hbehind, rfl⟩, by simp⟩

/-- A line opens a call exactly if it holds, at its front or behind a character that is not of a word, the
words of a log call or of a console call, with a dot between any two of them and the parenthesis at the
end; blanks may stand around the dots and before the parenthesis. -/
theorem opensCall_iff_written (line : String) :
    opensCall line = true ↔ ∃ before opener after : List Char,
      line.toList = before ++ opener ++ after ∧
      (before = [] ∨ ∃ c, before.getLast? = some c ∧ isWord c = false) ∧
      ((∃ logger ∈ ["logger", "log", "LOGGER", "LOG"],
          ∃ level ∈ ["info", "debug", "warn", "error", "trace", "fatal"], ∃ gap₁ gap₂ gap₃,
          AllBlank gap₁ ∧ AllBlank gap₂ ∧ AllBlank gap₃ ∧
          opener = logger.toList ++ gap₁ ++ ['.'] ++ gap₂ ++ level.toList ++ gap₃ ++ ['(']) ∨
        (∃ stream ∈ ["out", "err"], ∃ method ∈ ["print", "println", "printf"],
          ∃ gap₁ gap₂ gap₃ gap₄ gap₅,
          AllBlank gap₁ ∧ AllBlank gap₂ ∧ AllBlank gap₃ ∧ AllBlank gap₄ ∧ AllBlank gap₅ ∧
          opener = "System".toList ++ gap₁ ++ ['.'] ++ gap₂ ++ stream.toList ++ gap₃ ++ ['.'] ++ gap₄ ++
            method.toList ++ gap₅ ++ ['('])) := by
  have hfront : ∀ before : List Char, (∀ c ∈ before.getLast?, isWord c = false) ↔
      before = [] ∨ ∃ c, before.getLast? = some c ∧ isWord c = false := by
    intro before
    cases hlast : before.getLast? with
    | none => simp [List.getLast?_eq_none_iff.mp hlast]
    | some c =>
      have hne : before ≠ [] := by
        rintro rfl
        cases hlast
      simp [hne]
  rw [opensCall_iff_isOpener]
  refine exists_congr fun before => exists_congr fun opener => exists_congr fun after => ?_
  rw [List.append_assoc, ← hfront before, IsOpener, isLogOpener_iff, isConsoleOpener_iff]
  exact and_congr_right fun _ => and_comm

end LogAudit.Source
