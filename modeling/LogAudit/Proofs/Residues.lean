import LogAudit.Proofs.Choices
import LogAudit.Proofs.Contents
import LogAudit.Proofs.Openers

/-! # What is left of a call

Whether a call has dynamic content is told from what is left of its text when literals, openers and
punctuation are gone. Erasing an opener neither makes another one nor spoils one, since an opener ends
with its only parenthesis and no opener is the end of a longer one.

* `eraseAll_append`: erasing on both sides of a place that nothing erased goes across.
* `IsOpener.eq_nil_of_append`: no opener is the end of a longer one.
* `withoutOpeners_opener`, `withoutOpeners_call`: the openers of a text that opens a call.
* `hasDynamicContent_opener_iff`: dynamic content, told from the code behind an opener.
* `hasDynamicContent_static_iff`: dynamic content of a call to which only literals are passed. -/

namespace LogAudit.Text
set_option autoImplicit false

variable {read : List Char → Option (List Char)}

/-! ## Erasing -/

theorem eraseAll_of_found {taken rest : List Char} (hne : taken ≠ [])
    (h : read (taken ++ rest) = some rest) : eraseAll read (taken ++ rest) = eraseAll read rest :=
  sweepFrom_of_found hne (congrArg (Option.map ((), ·)) h)

theorem eraseAll_of_none {c : Char} {text : List Char} (h : read (c :: text) = none) :
    eraseAll read (c :: text) = c :: eraseAll read text :=
  sweepFrom_of_none (congrArg (Option.map ((), ·)) h)

end LogAudit.Text

namespace LogAudit.Source
set_option autoImplicit false

open Text

section Passing

variable {next : List Char → Option (List Char)} {shape : List Char → Prop}

/-- Nothing of a shape begins in one text and ends in the text behind it. -/
def Apart (shape : List Char → Prop) (front back : List Char) : Prop :=
  ∀ tail more, tail ≠ [] → more ≠ [] → tail <:+ front → more <+: back → ¬ shape (tail ++ more)

theorem Passes.append (h : Passes next shape) {tail back : List Char}
    (hapart : ∀ more, more ≠ [] → more <+: back → ¬ shape (tail ++ more)) :
    next (tail ++ back) = (next tail).map (· ++ back) := by
  cases htail : next tail with
  | some rest =>
    obtain ⟨used, hused, rfl⟩ := (h tail rest).mp htail
    exact (h _ _).mpr ⟨used, hused, by simp⟩
  | none =>
    rw [Option.map_none, Option.eq_none_iff_forall_ne_some]
    intro rest hrest
    obtain ⟨used, hused, htext⟩ := (h _ rest).mp hrest
    rcases List.append_eq_append_iff.mp htext with ⟨more, rfl, hback⟩ | ⟨inner, htail', hinner⟩
    · by_cases hmore : more = []
      · have hsome : next tail = some [] := (h tail []).mpr ⟨tail, by simpa [hmore] using hused, by simp⟩
        rw [htail] at hsome
        cases hsome
      · exact hapart more hmore ⟨rest, hback.symm⟩ hused
    · have hsome : next tail = some inner := (h tail inner).mpr ⟨used, hused, htail'⟩
      rw [htail] at hsome
      cases hsome

theorem eraseAll_append (h : Passes next shape) (hne : ∀ used, shape used → used ≠ [])
    {front back : List Char} (hapart : Apart shape front back) :
    eraseAll next (front ++ back) = eraseAll next front ++ eraseAll next back := by
  induction hlength : front.length using Nat.strong_induction_on generalizing front with
  | _ length ih =>
    cases front with
    | nil => rfl
    | cons c tail =>
      have hhere := h.append fun more hmore hback =>
        hapart (c :: tail) more (List.cons_ne_nil c tail) hmore (List.suffix_refl _) hback
      cases hfront : next (c :: tail) with
      | none =>
        rw [hfront, Option.map_none, List.cons_append] at hhere
        have hlater : Apart shape tail back := fun inner more hinner hmore htail =>
          hapart inner more hinner hmore (htail.trans (List.suffix_cons c tail))
        rw [List.cons_append, eraseAll_of_none hhere, eraseAll_of_none hfront, List.cons_append,
          ih tail.length (by simp [← hlength]) hlater rfl]
      | some rest =>
        obtain ⟨used, hused, htext⟩ := (h _ rest).mp hfront
        rw [hfront, Option.map_some] at hhere
        rw [htext] at hapart hfront hhere ⊢
        rw [List.append_assoc] at hhere ⊢
        have hlater : Apart shape rest back := fun inner more hinner hmore hrest =>
          hapart inner more hinner hmore (hrest.trans (List.suffix_append used rest))
        have hshort : rest.length < length := by
          have hpos := List.length_pos_of_ne_nil (hne used hused)
          rw [← hlength, htext, List.length_append]
          omega
        rw [eraseAll_of_found (hne used hused) hhere, eraseAll_of_found (hne used hused) hfront,
          ih rest.length hshort hlater rfl]

theorem eraseAll_of_absent (h : Passes next shape) {text : List Char}
    (habsent : ∀ used, shape used → ¬ used <:+: text) : eraseAll next text = text := by
  induction text with
  | nil => rfl
  | cons c text ih =>
    have hnone : next (c :: text) = none := by
      rw [Option.eq_none_iff_forall_ne_some]
      intro rest hrest
      obtain ⟨used, hused, htext⟩ := (h _ rest).mp hrest
      exact habsent used hused (htext ▸ (List.prefix_append used rest).isInfix)
    rw [eraseAll_of_none hnone, ih fun used hused hwithin =>
      habsent used hused (hwithin.trans (List.suffix_cons c text).isInfix)]

theorem eraseAll_of_passed (h : Passes next shape) {used : List Char} (hused : shape used)
    (hne : used ≠ []) (rest : List Char) : eraseAll next (used ++ rest) = eraseAll next rest :=
  eraseAll_of_found hne ((h _ _).mpr ⟨used, hused, rfl⟩)

end Passing

/-! ## Letters of openers -/

/-- The letters of the openers of log calls. -/
def logLetters : List (List Char) :=
  loggerNames.flatMap fun logger => levelNames.map fun level => logger.toList ++ level.toList

/-- The letters of the openers of console calls. -/
def consoleLetters : List (List Char) :=
  streamNames.flatMap fun stream => printNames.map fun method =>
    "System".toList ++ (stream.toList ++ method.toList)

theorem letters_blanks {blanks : List Char} (h : AllBlank blanks) : blanks.filter isAsciiWord = [] := by
  rw [List.filter_eq_nil_iff]
  intro c hc
  simp [isAsciiWord_of_isBlank (h c hc)]

theorem letters_wordThen {words : List String} {more : List Char → Prop} {text : List Char}
    (hwords : ∀ word ∈ words, word.toList.all isAsciiWord = true) (h : WordThen words more text) :
    ∃ word ∈ words, ∃ rest, more rest ∧
      text.filter isAsciiWord = word.toList ++ rest.filter isAsciiWord := by
  obtain ⟨word, hword, rest, hrest, rfl⟩ := h
  refine ⟨word, hword, rest, hrest, ?_⟩
  rw [List.filter_append, List.filter_eq_self.mpr (List.all_eq_true.mp (hwords word hword))]

theorem letters_dotThen {more : List Char → Prop} {text : List Char} (h : DotThen more text) :
    ∃ rest, more rest ∧ text.filter isAsciiWord = rest.filter isAsciiWord := by
  obtain ⟨front, back, rest, hfront, hback, hrest, rfl⟩ := h
  have hdot : isAsciiWord '.' = false := by decide
  refine ⟨rest, hrest, ?_⟩
  rw [List.filter_append, letters_blanks hfront, List.nil_append, List.filter_cons, hdot,
    List.filter_append, letters_blanks hback]
  rfl

theorem letters_parenthesis {text : List Char} (h : Parenthesis text) :
    text.filter isAsciiWord = [] := by
  obtain ⟨blanks, hblanks, rfl⟩ := h
  rw [List.filter_append, letters_blanks hblanks]
  rfl

theorem IsLogOpener.letters {opener : List Char} (h : IsLogOpener opener) :
    opener.filter isAsciiWord ∈ logLetters := by
  obtain ⟨logger, hlogger, rest, hrest, hletters⟩ := letters_wordThen (by decide) h
  obtain ⟨rest', hrest', hdot⟩ := letters_dotThen hrest
  obtain ⟨level, hlevel, rest'', hrest'', hletters'⟩ := letters_wordThen (by decide) hrest'
  rw [hletters, hdot, hletters', letters_parenthesis hrest'', List.append_nil]
  exact List.mem_flatMap.mpr ⟨logger, hlogger, List.mem_map.mpr ⟨level, hlevel, rfl⟩⟩

theorem IsConsoleOpener.letters {opener : List Char} (h : IsConsoleOpener opener) :
    opener.filter isAsciiWord ∈ consoleLetters := by
  obtain ⟨system, hsystem, rest, hrest, hletters⟩ := letters_wordThen (by decide) h
  obtain ⟨behind, hbehind, hdot⟩ := letters_dotThen hrest
  obtain ⟨stream, hstream, rest', hrest', hletters'⟩ := letters_wordThen (by decide) hbehind
  obtain ⟨behind', hbehind', hdot'⟩ := letters_dotThen hrest'
  obtain ⟨method, hmethod, rest'', hrest'', hletters''⟩ := letters_wordThen (by decide) hbehind'
  rw [hletters, hdot, hletters', hdot', hletters'', letters_parenthesis hrest'', List.append_nil,
    List.mem_singleton.mp hsystem]
  exact List.mem_flatMap.mpr ⟨stream, hstream, List.mem_map.mpr ⟨method, hmethod, rfl⟩⟩

theorem IsOpener.letters {opener : List Char} (h : IsOpener opener) :
    opener.filter isAsciiWord ∈ logLetters ++ consoleLetters :=
  List.mem_append.mpr (h.imp IsLogOpener.letters IsConsoleOpener.letters)

theorem letters_suffix_free : ∀ letters ∈ logLetters ++ consoleLetters,
    ∀ others ∈ logLetters ++ consoleLetters, others <:+ letters → others = letters := by
  have hall : ((logLetters ++ consoleLetters).all fun letters =>
      (logLetters ++ consoleLetters).all fun others =>
        !others.isSuffixOf letters || others == letters) = true := by decide
  intro letters hletters others hothers hsuffix
  have h := List.all_eq_true.mp (List.all_eq_true.mp hall letters hletters) others hothers
  rw [List.isSuffixOf_iff_suffix.mpr hsuffix] at h
  simpa using h

theorem not_log_of_console {opener : List Char} (h : IsConsoleOpener opener) : ¬ IsLogOpener opener := by
  intro hlog
  have hall : (consoleLetters.all fun letters => !logLetters.contains letters) = true := by decide
  have hletters := List.all_eq_true.mp hall _ h.letters
  simp [hlog.letters] at hletters

theorem IsOpener.head {opener : List Char} (h : IsOpener opener) :
    ∃ c rest, opener = c :: rest ∧ isAsciiWord c = true :=
  h.elim (head_wordThen (by decide)) (head_wordThen (by decide))

theorem IsOpener.ne_nil {opener : List Char} (h : IsOpener opener) : opener ≠ [] := by
  obtain ⟨c, rest, rfl, -⟩ := h.head
  exact List.cons_ne_nil c rest

/-- No opener is the end of a longer one. -/
theorem IsOpener.eq_nil_of_append {front opener : List Char} (h : IsOpener (front ++ opener))
    (hopener : IsOpener opener) : front = [] := by
  have hletters := letters_suffix_free _ h.letters _ hopener.letters
    (by rw [List.filter_append]; exact List.suffix_append _ _)
  rw [List.filter_append] at hletters
  have hnone : front.filter isAsciiWord = [] := by
    rw [← List.length_eq_zero_iff]
    have hlength := congrArg List.length hletters
    rw [List.length_append] at hlength
    omega
  obtain ⟨c, rest, hcons, hc⟩ := h.head
  cases front with
  | nil => rfl
  | cons d front =>
    obtain ⟨rfl, -⟩ := List.cons.inj hcons
    rw [List.filter_cons_of_pos hc] at hnone
    cases hnone

/-! ## Places between openers -/

theorem IsOpener.eq_concat {opener : List Char} (h : IsOpener opener) :
    ∃ body, opener = body ++ ['('] ∧ '(' ∉ body := by
  obtain ⟨body, rfl, hopening⟩ := h.ends
  exact ⟨body, rfl, not_mem_of_class hopening (by decide)⟩

/-- An opener in two parts: the parenthesis is at the end of the second. -/
theorem IsOpener.split {tail more : List Char} (h : IsOpener (tail ++ more)) (hmore : more ≠ []) :
    ∃ inner, more = inner ++ ['('] ∧ '(' ∉ tail ∧ '(' ∉ inner := by
  obtain ⟨body, hbody, hfree⟩ := h.eq_concat
  have hlast := List.dropLast_append_getLast hmore
  rw [← hlast, ← List.append_assoc] at hbody
  obtain ⟨rfl, hend⟩ := List.append_inj' hbody rfl
  rw [hend] at hlast
  rw [List.mem_append, not_or] at hfree
  exact ⟨more.dropLast, hlast.symm, hfree.1, hfree.2⟩

theorem apart_of_no_parenthesis (front : List Char) {back : List Char} (h : '(' ∉ back) :
    Apart IsOpener front back := by
  intro tail more _ hmore _ hback hopener
  obtain ⟨inner, rfl, -⟩ := hopener.split hmore
  exact h (hback.subset (by simp))

theorem apart_behind_opener {opener : List Char} (h : IsOpener opener) (back : List Char) :
    Apart IsOpener opener back := by
  intro tail more htail hmore hsuffix _ hopener
  obtain ⟨inner, -, hfree, -⟩ := hopener.split hmore
  obtain ⟨passed, rfl⟩ := hsuffix
  obtain ⟨inner', rfl, -⟩ := h.split htail
  exact hfree (by simp)

theorem apart_before_opener (front : List Char) {opener : List Char} (h : IsOpener opener)
    (back : List Char) : Apart IsOpener front (opener ++ back) := by
  intro tail more htail hmore _ hback hopener
  obtain ⟨inner, rfl, -, hinner⟩ := hopener.split hmore
  obtain ⟨body, rfl, hbody⟩ := h.eq_concat
  obtain ⟨rest, hrest⟩ := hback
  rw [List.append_assoc, List.append_assoc] at hrest
  have hsame : inner = body := (split_unique (fun c => c != '(')
    (by simpa using fun c hc => ne_of_mem_of_not_mem hc hinner) (by simp)
    (by simpa using fun c hc => ne_of_mem_of_not_mem hc hbody) (by simp) hrest).1
  rw [hsame] at hopener
  exact htail (hopener.eq_nil_of_append h)

theorem log_not_in_console {opener other : List Char} (h : IsConsoleOpener opener)
    (hother : IsLogOpener other) : ¬ other <:+: opener := by
  rintro ⟨front, back, hopener⟩
  have hwhole : IsOpener (front ++ other ++ back) := hopener ▸ Or.inr h
  by_cases hback : back = []
  · rw [hback, List.append_nil] at hopener hwhole
    rw [hwhole.eq_nil_of_append (Or.inl hother), List.nil_append] at hopener
    exact not_log_of_console h (hopener ▸ hother)
  · obtain ⟨-, -, hfree, -⟩ := hwhole.split hback
    obtain ⟨inner, rfl, -⟩ := IsOpener.eq_concat (Or.inl hother)
    exact hfree (by simp)

/-! ## Openers of a text -/

/-- A text without its openers. -/
def withoutOpeners (text : List Char) : List Char :=
  eraseAll dropConsoleOpener (eraseAll dropLogOpener text)

theorem residue_eq (text : List Char) :
    residue text = (withoutOpeners (stripLiterals text)).filter (!isPunctuation ·) := rfl

theorem eraseAll_log_append {front back : List Char} (h : Apart IsOpener front back) :
    eraseAll dropLogOpener (front ++ back) =
      eraseAll dropLogOpener front ++ eraseAll dropLogOpener back :=
  eraseAll_append passes_log (fun _ hused => IsOpener.ne_nil (Or.inl hused))
    fun tail more htail hmore hfront hback hused => h tail more htail hmore hfront hback (Or.inl hused)

theorem eraseAll_console_append {front back : List Char} (h : Apart IsOpener front back) :
    eraseAll dropConsoleOpener (front ++ back) =
      eraseAll dropConsoleOpener front ++ eraseAll dropConsoleOpener back :=
  eraseAll_append passes_console (fun _ hused => IsOpener.ne_nil (Or.inr hused))
    fun tail more htail hmore hfront hback hused => h tail more htail hmore hfront hback (Or.inr hused)

theorem eraseAll_log_console {opener : List Char} (h : IsConsoleOpener opener) (rest : List Char) :
    eraseAll dropLogOpener (opener ++ rest) = opener ++ eraseAll dropLogOpener rest := by
  rw [eraseAll_log_append (apart_behind_opener (Or.inr h) rest),
    eraseAll_of_absent passes_log fun _ => log_not_in_console h]

theorem withoutOpeners_of_absent {text : List Char}
    (h : ∀ opener, IsOpener opener → ¬ opener <:+: text) : withoutOpeners text = text := by
  rw [withoutOpeners, eraseAll_of_absent passes_log fun used hused => h used (Or.inl hused),
    eraseAll_of_absent passes_console fun used hused => h used (Or.inr hused)]

/-- An opener in front of a text is erased, and nothing else is if the text has no opener. -/
theorem withoutOpeners_opener {opener text : List Char} (h : IsOpener opener)
    (htext : ∀ other, IsOpener other → ¬ other <:+: text) : withoutOpeners (opener ++ text) = text := by
  rcases h with hlog | hconsole
  · rw [withoutOpeners, eraseAll_of_passed passes_log hlog (IsOpener.ne_nil (Or.inl hlog))]
    exact withoutOpeners_of_absent htext
  · rw [withoutOpeners, eraseAll_log_console hconsole,
      eraseAll_of_passed passes_console hconsole (IsOpener.ne_nil (Or.inr hconsole))]
    exact withoutOpeners_of_absent htext

theorem absent_of_no_parenthesis {text : List Char} (h : '(' ∉ text) :
    ∀ opener, IsOpener opener → ¬ opener <:+: text := by
  intro opener hopener hwithin
  obtain ⟨inner, rfl, -⟩ := hopener.eq_concat
  exact h (hwithin.subset (by simp))

/-- The last opener of a text is erased, and what stands in front of it is treated on its own. -/
theorem withoutOpeners_call (front : List Char) {opener back : List Char} (h : IsOpener opener)
    (hback : '(' ∉ back) : withoutOpeners (front ++ (opener ++ back)) = withoutOpeners front ++ back := by
  have hplain := absent_of_no_parenthesis hback
  have hlast : eraseAll dropConsoleOpener back = back :=
    eraseAll_of_absent passes_console fun used hused => hplain used (Or.inr hused)
  rw [withoutOpeners, eraseAll_log_append (apart_before_opener front h back)]
  rcases h with hlog | hconsole
  · rw [eraseAll_of_passed passes_log hlog (IsOpener.ne_nil (Or.inl hlog)),
      eraseAll_of_absent passes_log fun used hused => hplain used (Or.inl hused),
      eraseAll_console_append (apart_of_no_parenthesis _ hback), hlast, withoutOpeners]
  · rw [eraseAll_log_console hconsole,
      eraseAll_of_absent passes_log fun used hused => hplain used (Or.inl hused),
      eraseAll_console_append (apart_before_opener _ (Or.inr hconsole) back),
      eraseAll_of_passed passes_console hconsole (IsOpener.ne_nil (Or.inr hconsole)), hlast,
      withoutOpeners]

/-! ## Dynamic content -/

theorem hasDynamicContent_iff {text : List Char} :
    hasDynamicContent text = true ↔
      (∃ c ∈ residue text, isNameStart c = true) ∨
        '+' ∈ residue text ∧ ∃ c ∈ residue text, c ≠ '+' ∧ isBlank c = false := by
  simp [hasDynamicContent]

theorem IsOpener.quote_not_mem {opener : List Char} (h : IsOpener opener) : '"' ∉ opener := by
  obtain ⟨body, rfl, hopening⟩ := h.ends
  simpa using not_mem_of_class hopening (by decide)

theorem not_punctuation_of_class {p : Char → Bool}
    (hp : p '(' = false ∧ p ')' = false ∧ p ';' = false) {c : Char} (h : p c = true) :
    isPunctuation c = false := by
  have hopen : c ≠ '(' := ne_of_class h hp.1
  have hclose : c ≠ ')' := ne_of_class h hp.2.1
  have hsemicolon : c ≠ ';' := ne_of_class h hp.2.2
  simp [isPunctuation, hopen, hclose, hsemicolon]

/-- A call has dynamic content if the code behind its opener has a letter or an underscore, or a plus sign
together with anything else but plus signs, parentheses, semicolons and blanks. This holds for code without
further openers. -/
theorem hasDynamicContent_opener_iff {opener rest : List Char} (hopener : IsOpener opener)
    (hrest : ∀ other, IsOpener other → ¬ other <:+: stripLiterals rest) :
    hasDynamicContent (opener ++ rest) = true ↔
      (∃ c ∈ stripLiterals rest, c.isAlpha = true ∨ c = '_') ∨
        '+' ∈ stripLiterals rest ∧
          ∃ c ∈ stripLiterals rest, c ∉ ['+', '(', ')', ';'] ∧ isBlank c = false := by
  have hresidue : residue (opener ++ rest) = (stripLiterals rest).filter (!isPunctuation ·) := by
    rw [residue_eq, stripLiterals_append_code hopener.quote_not_mem, withoutOpeners_opener hopener hrest]
  rw [hasDynamicContent_iff, hresidue]
  refine or_congr ?_ (and_congr ?_ ?_)
  · constructor
    · rintro ⟨c, hc, hstart⟩
      exact ⟨c, (List.mem_filter.mp hc).1, by simpa [isNameStart] using hstart⟩
    · rintro ⟨c, hc, hletter⟩
      have hstart : isNameStart c = true := by simpa [isNameStart] using hletter
      exact ⟨c, List.mem_filter.mpr ⟨hc, by simp [not_punctuation_of_class (by decide) hstart]⟩, hstart⟩
  · simp [List.mem_filter, isPunctuation]
  · refine exists_congr fun c => ?_
    simp only [List.mem_filter, isPunctuation, List.mem_cons, List.not_mem_nil, Bool.not_eq_true',
      Bool.or_eq_false_iff, beq_eq_false_iff_ne]
    tauto

/-- A plus sign between a literal and a number is dynamic content, one between two literals is not. -/
theorem hasDynamicContent_opener_iff_plus :
    hasDynamicContent ("log . info (".toList ++ "\"log.info(\" + 1);".toList) = true ∧
      hasDynamicContent ("System.out.println(".toList ++ "\"a\" + \"b\");".toList) = false := by
  have hsum : stripLiterals "\"log.info(\" + 1);".toList = [' ', '+', ' ', '1', ')', ';'] := by decide
  have hjoined : stripLiterals "\"a\" + \"b\");".toList = [' ', '+', ' ', ')', ';'] := by decide
  have hone := hasDynamicContent_opener_iff (by decide : IsOpener "log . info (".toList)
    (absent_of_no_parenthesis (by rw [hsum]; decide))
  have htwo := hasDynamicContent_opener_iff (by decide : IsOpener "System.out.println(".toList)
    (absent_of_no_parenthesis (by rw [hjoined]; decide))
  rw [hsum] at hone
  rw [hjoined] at htwo
  refine ⟨hone.mpr (Or.inr ⟨by decide, '1', by decide, by decide, by decide⟩), ?_⟩
  have hblank : isBlank ' ' = true := by decide
  rw [Bool.eq_false_iff, ne_eq, htwo]
  simp [hblank]

end LogAudit.Source

namespace LogAudit
set_option autoImplicit false

open Source Text

/-! ## Static calls -/

variable {front opener argument : List Char}

/-- An argument of literals, with only plus signs and blanks around them. -/
def OnlyLiterals (argument : List Char) : Prop :=
  ∀ c ∈ stripLiterals argument, c = '+' ∨ isBlank c = true

instance : Decidable (OnlyLiterals argument) := List.decidableBAll _ _

theorem OnlyLiterals.not_mem (h : OnlyLiterals argument) {c : Char} (hplus : c ≠ '+')
    (hblank : isBlank c = false) : c ∉ stripLiterals argument := by
  intro hc
  rcases h c hc with rfl | hc
  · exact hplus rfl
  · rw [hblank] at hc
    cases hc

theorem OnlyLiterals.pieces_call (h : OnlyLiterals argument) (hfront : '"' ∉ front)
    (hopener : IsOpener opener) :
    pieces (front ++ (opener ++ (argument ++ [')', ';']))) =
      front.map .code ++ (opener.map .code ++ (pieces argument ++ [.code ')', .code ';'])) := by
  rw [pieces_append_code hfront, pieces_append_code hopener.quote_not_mem,
    pieces_append (h.not_mem (by decide) (by decide))]
  rfl

theorem OnlyLiterals.literalContents_call (h : OnlyLiterals argument) (hfront : '"' ∉ front)
    (hopener : IsOpener opener) :
    literalContents (front ++ (opener ++ (argument ++ [')', ';']))) = literalContents argument := by
  rw [literalContents, h.pieces_call hfront hopener]
  simp only [List.filterMap_append, filterMap_content_map, List.nil_append, literalContents]
  exact List.append_nil _

/-- What is left of a call with literals only: what is left in front of it, and the code of the
argument. -/
theorem OnlyLiterals.residue_call (h : OnlyLiterals argument) (hfront : '"' ∉ front)
    (hopener : IsOpener opener) :
    residue (front ++ (opener ++ (argument ++ [')', ';']))) = residue front ++ stripLiterals argument := by
  have hcode : stripLiterals (front ++ (opener ++ (argument ++ [')', ';']))) =
      front ++ (opener ++ (stripLiterals argument ++ [')', ';'])) := by
    rw [stripLiterals, h.pieces_call hfront hopener]
    simp only [List.filterMap_append, filterMap_code_map]
    rfl
  have hclosing : '(' ∉ stripLiterals argument ++ [')', ';'] := by
    rw [List.mem_append, not_or]
    exact ⟨h.not_mem (by decide) (by decide), by decide⟩
  have hargument : (stripLiterals argument).filter (!isPunctuation ·) = stripLiterals argument := by
    rw [List.filter_eq_self]
    intro c hc
    rcases h c hc with rfl | hc
    · rfl
    · simp [not_punctuation_of_class (by decide) hc]
  rw [residue_eq, hcode, withoutOpeners_call front hopener hclosing, List.filter_append,
    List.filter_append, hargument, residue_eq, stripLiterals_of_no_quote hfront]
  simp [isPunctuation]

/-- What stands in front of a call is not taken for content of the call: it leaves no letter, and nothing
but plus signs and blanks if it leaves a plus sign or there is one between the literals. -/
def Inert (front argument : List Char) : Prop :=
  (∀ c ∈ residue front, isNameStart c = false) ∧
    ('+' ∈ residue front ∨ '+' ∈ stripLiterals argument →
      ∀ c ∈ residue front, c = '+' ∨ isBlank c = true)

instance : Decidable (Inert front argument) :=
  haveI : Decidable (∀ c ∈ residue front, isNameStart c = false) := List.decidableBAll _ _
  haveI : Decidable (∀ c ∈ residue front, c = '+' ∨ isBlank c = true) := List.decidableBAll _ _
  inferInstanceAs (Decidable (_ ∧ _))

theorem OnlyLiterals.hasDynamicContent_iff (h : OnlyLiterals argument) (hfront : '"' ∉ front)
    (hopener : IsOpener opener) :
    hasDynamicContent (front ++ (opener ++ (argument ++ [')', ';']))) = false ↔ Inert front argument := by
  have hletter : ∀ c ∈ stripLiterals argument, isNameStart c = false := by
    intro c hc
    rcases h c hc with rfl | hc
    · rfl
    · rw [Bool.eq_false_iff]
      intro hstart
      rw [isBlank_of_isAsciiWord (isAsciiWord_iff.mpr (Or.inl hstart))] at hc
      cases hc
  rw [Bool.eq_false_iff, ne_eq, Source.hasDynamicContent_iff, h.residue_call hfront hopener, not_or]
  refine and_congr ?_ ?_
  · constructor
    · intro hnone c hc
      rw [Bool.eq_false_iff]
      exact fun hstart => hnone ⟨c, List.mem_append_left _ hc, hstart⟩
    · rintro hleft ⟨c, hc, hstart⟩
      rcases List.mem_append.mp hc with hc | hc
      · rw [hleft c hc] at hstart
        cases hstart
      · rw [hletter c hc] at hstart
        cases hstart
  · rw [List.mem_append, not_and]
    refine imp_congr_right fun _ => ?_
    constructor
    · intro hnone c hc
      by_contra hother
      rw [not_or, Bool.not_eq_true] at hother
      exact hnone ⟨c, List.mem_append_left _ hc, hother⟩
    · rintro hleft ⟨c, hc, hplus, hblank⟩
      rcases List.mem_append.mp hc with hc | hc
      · rcases hleft c hc with rfl | hc
        · exact hplus rfl
        · rw [hblank] at hc
          cases hc
      · exact h.not_mem hplus hblank hc

theorem literalsReported_eq_nil_iff {rules : List Rule} {contents : List (List Char)} :
    literalsReported rules [] contents = [] ↔
      ∀ content ∈ contents, ∀ rule ∈ rules, rule.foundIn (String.ofList content) = false := by
  induction contents with
  | nil => simp [literalsReported]
  | cons content contents ih =>
    rw [literalsReported, List.forall_mem_cons]
    cases hfind : rules.find? fun rule =>
        literalKey rule ∉ ([] : List String) && rule.foundIn (String.ofList content) with
    | none =>
      have hnone : ∀ rule ∈ rules, rule.foundIn (String.ofList content) = false := by
        simpa using List.find?_eq_none.mp hfind
      simp only [ih]
      exact (and_iff_right hnone).symm
    | some rule =>
      have hfound : rule.foundIn (String.ofList content) = true := by
        simpa using List.find?_some hfind
      have hmem := List.mem_of_find?_eq_some hfind
      simp only [reduceCtorEq, false_iff, not_and]
      intro hnone
      rw [hnone rule hmem] at hfound
      cases hfound

/-- A call to which only literals are passed has no dynamic content if what stands in front of it is
inert, and only then. Its literals are reported unless this is so or no keyword is found in them. In front
of the call, openers and punctuation are not taken for content; without openers, only punctuation is left
out. -/
theorem hasDynamicContent_static_iff (hfront : '"' ∉ front) (hopener : IsOpener opener)
    (hargument : OnlyLiterals argument) :
    (hasDynamicContent (front ++ (opener ++ (argument ++ [')', ';']))) = false ↔
      Inert front argument) ∧
    (∀ (strategies : List Strategy) (keywords objectTypes : List Rule) (statement : Statement),
      statement.text.toList = front ++ (opener ++ (argument ++ [')', ';'])) →
      (literalPhase strategies keywords objectTypes statement = [] ↔
        Inert front argument ∨ ∀ content ∈ literalContents argument, ∀ rule ∈ keywords,
          rule.foundIn (String.ofList content) = false)) ∧
    ((∀ other, IsOpener other → ¬ other <:+: front) →
      residue front = front.filter (!isPunctuation ·)) := by
  have hdynamic := hargument.hasDynamicContent_iff hfront hopener
  refine ⟨hdynamic, fun strategies keywords objectTypes statement htext => ?_, fun hplain => ?_⟩
  · rw [literalPhase_eq, literalFindings, htext, hargument.literalContents_call hfront hopener,
      ← hdynamic]
    cases hasDynamicContent (front ++ (opener ++ (argument ++ [')', ';']))) with
    | false => simp
    | true => simp [literalsReported_eq_nil_iff]
  · rw [residue_eq, stripLiterals_of_no_quote hfront, withoutOpeners_of_absent hplain]

/-- A call with literals only stays static behind a closing brace. -/
theorem hasDynamicContent_static_iff_brace :
    hasDynamicContent ("\x7d ".toList ++ ("log.info(".toList ++ ("\"password\"".toList ++ [')', ';']))) =
        false ∧
      literalPhase Strategy.all [.literal "password"] []
        ⟨"T.java", 1, "\x7d log.info(\"password\");", []⟩ = [] := by
  have hinert : Inert "\x7d ".toList "\"password\"".toList := by decide
  have hstatic := hasDynamicContent_static_iff (by decide : '"' ∉ "\x7d ".toList)
    (by decide : IsOpener "log.info(".toList) (by decide : OnlyLiterals "\"password\"".toList)
  exact ⟨hstatic.1.mpr hinert, (hstatic.2.1 _ _ _ _ (by decide)).mpr (Or.inl hinert)⟩

/-- Behind a condition, the names of the condition are taken for content of the call. -/
theorem hasDynamicContent_behind_condition :
    '"' ∉ "if (debug) ".toList ∧ IsOpener "log.info(".toList ∧ OnlyLiterals "\"password\"".toList ∧
      hasDynamicContent
        ("if (debug) ".toList ++ ("log.info(".toList ++ ("\"password\"".toList ++ [')', ';']))) = true ∧
      (literalPhase Strategy.all [.literal "password"] []
        ⟨"T.java", 1, "if (debug) log.info(\"password\");", []⟩).map (·.label) =
          ["password (in string literal)"] := by
  refine ⟨by decide, by decide, by decide, by decide, ?_⟩
  rw [literalPhase_eq]
  decide

end LogAudit
