import LogAudit.Proofs.Contents
import LogAudit.Proofs.Layout
import LogAudit.Proofs.Reporting

/-! # Called names among whole names

The names that are called are read from runs of ASCII word characters, and whole names from runs of word
characters of every script. A called name is a whole name too, unless the longer run begins before it: a
digit stands in front of it, or a letter of another script.

* `placesPicked`: the names of a pass with the offsets at which they begin.
* `mem_wholePlaces_iff_of_call`: the called names that are whole ones.
* `namesReported_skip`: candidates that were there before change nothing.
* `methodCalls_dispensable`: when a statement reports the same without its called names. -/

namespace LogAudit.Source
set_option autoImplicit false

open Text

/-! ## Places of names -/

/-- The names that a pass over the runs of a class picks, with the offsets at which they begin. -/
def placesPicked (inClass : Char → Bool) (pick : Run → Option (Nat × String)) (text : List Char) :
    List (Nat × String) :=
  (runs inClass text).filterMap fun run => (pick run).bind fun found =>
    if inLiteral (literalRanges text) (run.start + found.1 : Nat) then none
    else some (run.start + found.1, found.2)

/-- The whole names of a text with their places. -/
def wholePlaces (text : List Char) : List (Nat × String) := placesPicked isWord pickWhole text

/-- The called names of a text with their places. -/
def callPlaces (text : List Char) : List (Nat × String) := placesPicked isAsciiWord pickCall text

variable {inClass : Char → Bool} {pick : Run → Option (Nat × String)} {text : List Char} {start : Nat}
  {name : String}

theorem map_placesPicked :
    (placesPicked inClass pick text).map (·.2) = namesPicked inClass pick text := by
  rw [placesPicked, List.map_filterMap, namesPicked]
  refine List.filterMap_congr fun run _ => ?_
  rw [pickOutside, Option.map_bind]
  refine Option.bind_congr fun found _ => ?_
  simp only [Function.comp_apply]
  split <;> rfl

theorem map_wholePlaces (text : List Char) : (wholePlaces text).map (·.2) = wholeNames text := by
  rw [wholeNames_eq, wholePlaces, map_placesPicked]

theorem map_callPlaces (text : List Char) : (callPlaces text).map (·.2) = methodCalls text := by
  rw [methodCalls_eq, callPlaces, map_placesPicked]

theorem mem_placesPicked_iff :
    (start, name) ∈ placesPicked inClass pick text ↔
      ∃ run, IsRun inClass 0 text run ∧ ∃ offset, pick run = some (offset, name) ∧
        start = run.start + offset ∧ inLiteral (literalRanges text) start = false := by
  simp only [placesPicked, List.mem_filterMap, mem_runs_iff, Option.bind_eq_some_iff,
    Option.ite_none_left_eq_some, Option.some.injEq, Prod.mk.injEq, Bool.not_eq_true, Prod.exists]
  constructor
  · rintro ⟨run, hrun, offset, _, hpick, houtside, rfl, rfl⟩
    exact ⟨run, hrun, offset, hpick, rfl, houtside⟩
  · rintro ⟨run, hrun, offset, hpick, rfl, houtside⟩
    exact ⟨run, hrun, offset, name, hpick, houtside, rfl, rfl⟩

/-- A name that begins at an offset, between other parts of a text. -/
structure StandsBetween (text : List Char) (start : Nat) (name : String) (before after : List Char) :
    Prop where
  text_eq : text = before ++ (name.toList ++ after)
  length_eq : before.length = start
  isName : isName name.toList = true

theorem mem_wholePlaces_iff :
    (start, name) ∈ wholePlaces text ↔
      ∃ before after, StandsBetween text start name before after ∧
        (∀ c ∈ before.getLast?, isWord c = false) ∧ (∀ c ∈ after.head?, isWord c = false) ∧
        inLiteral (literalRanges text) start = false := by
  simp only [wholePlaces, mem_placesPicked_iff, pickWhole, Option.ite_none_right_eq_some,
    Option.some.injEq, Prod.mk.injEq]
  constructor
  · rintro ⟨run, ⟨before, htext, hstart, _, _, hlast, hhead⟩, _, ⟨hname, rfl, rfl⟩, rfl, houtside⟩
    refine ⟨before, run.after, ⟨?_, by omega, ?_⟩, hlast, hhead, houtside⟩
    · rw [String.toList_ofList]
      exact htext
    · rwa [String.toList_ofList]
  · rintro ⟨before, after, ⟨htext, rfl, hname⟩, hlast, hhead, houtside⟩
    obtain ⟨_, _, _, _, hword⟩ := isName_iff.mp hname
    exact ⟨⟨before.length, name.toList, after⟩,
      ⟨before, htext, by simp, isName_ne_nil hname,
        fun c hc => isWord_of_isAsciiWord (hword c hc), hlast, hhead⟩,
      0, ⟨hname, rfl, String.ofList_toList⟩, rfl, houtside⟩

/-- A called name stands behind the digits of a run, and blanks and a parenthesis stand behind it. -/
theorem callPlace_shape (h : (start, name) ∈ callPlaces text) :
    ∃ before digits after, StandsBetween text start name (before ++ digits) after ∧
      (∀ c ∈ before.getLast?, isAsciiWord c = false) ∧ (∀ c ∈ digits, c.isDigit = true) ∧
      (dropSpaced '(' after).isSome = true ∧ inLiteral (literalRanges text) start = false := by
  obtain ⟨run, ⟨before, htext, hstart, _, hall, hlast, hhead⟩, offset, hpick, rfl, houtside⟩ :=
    mem_placesPicked_iff.mp h
  simp only [pickCall, Option.ite_none_right_eq_some, Option.some.injEq, Prod.mk.injEq,
    Bool.and_eq_true, Bool.not_eq_true', List.isEmpty_eq_false_iff] at hpick
  obtain ⟨⟨hne, hcall⟩, rfl, rfl⟩ := hpick
  refine ⟨before, run.text.takeWhile Char.isDigit, run.after, ⟨?_, ?_, ?_⟩, hlast,
    fun c hc => List.mem_takeWhile_imp hc, hcall, houtside⟩
  · rw [String.toList_ofList, List.append_assoc, ← List.append_assoc (List.takeWhile _ _),
      List.takeWhile_append_dropWhile]
    exact htext
  · rw [List.length_append]
    omega
  · rw [String.toList_ofList]
    exact isName_dropDigits hall hne

/-! ## Called names that are whole -/

/-- A character that can stand in a word in front of a name without being a part of the name: a digit,
or a word character of another script. -/
def Clings (c : Char) : Prop := c.isDigit = true ∨ isWord c = true ∧ 128 ≤ c.toNat

instance (c : Char) : Decidable (Clings c) := by
  unfold Clings
  infer_instance

theorem clings_iff {c : Char} : Clings c ↔ isWord c = true ∧ isNameStart c = false := by
  by_cases hascii : c.toNat < 128
  · have hword : isWord c = isAsciiWord c := by rw [isWord, if_pos hascii]
    rw [Clings, hword, isAsciiWord_iff, Bool.eq_false_iff]
    constructor
    · rintro (hdigit | ⟨_, hbeyond⟩)
      · refine ⟨Or.inr hdigit, fun hstart => ?_⟩
        rw [not_digit_of_isNameStart hstart] at hdigit
        cases hdigit
      · omega
    · rintro ⟨hstart | hdigit, hnot⟩
      · exact absurd hstart hnot
      · exact Or.inl hdigit
  · rw [Clings, Bool.eq_false_iff, ne_eq, isDigit_iff, isNameStart_iff]
    constructor
    · rintro (hdigit | ⟨hword, _⟩)
      · omega
      · exact ⟨hword, by omega⟩
    · rintro ⟨hword, _⟩
      exact Or.inr ⟨hword, by omega⟩

/-- A place in a text right behind a character that clings to what follows. -/
def BehindClinging (text : List Char) (start : Nat) : Prop :=
  ∃ c ∈ (text.take start).getLast?, Clings c

theorem StandsBetween.behindClinging_iff {before after : List Char}
    (h : StandsBetween text start name before after) :
    BehindClinging text start ↔ ∃ c ∈ before.getLast?, Clings c := by
  have hfront : text.take start = before := by rw [h.text_eq, ← h.length_eq, List.take_left]
  rw [BehindClinging, hfront]

/-- What stands behind a called name ends a word. -/
theorem not_isWord_of_dropSpaced {after : List Char} (h : (dropSpaced '(' after).isSome = true) :
    ∀ c ∈ after.head?, isWord c = false := by
  obtain ⟨rest, hrest⟩ := Option.isSome_iff_exists.mp h
  obtain ⟨blanks, hblanks, rfl⟩ := dropSpaced_shape hrest
  intro c hc
  cases blanks with
  | nil =>
    obtain rfl : '(' = c := by simpa using hc
    decide
  | cons blank blanks =>
    obtain rfl : blank = c := by simpa using hc
    exact isWord_of_isBlank (hblanks _ List.mem_cons_self)

/-- A called name is a whole one just if no character in front of it clings to it. -/
theorem mem_wholePlaces_iff_of_call (h : (start, name) ∈ callPlaces text) :
    (start, name) ∈ wholePlaces text ↔ ¬ BehindClinging text start := by
  obtain ⟨before, digits, after, hstands, hlast, hdigits, hcall, houtside⟩ := callPlace_shape h
  rw [hstands.behindClinging_iff, mem_wholePlaces_iff]
  constructor
  · rintro ⟨front, back, hother, hfront, _, _⟩ ⟨c, hc, hclings⟩
    have hsame : front = before ++ digits :=
      List.append_inj_left (hother.text_eq.symm.trans hstands.text_eq)
        (hother.length_eq.trans hstands.length_eq.symm)
    have hword := (clings_iff.mp hclings).1
    rw [hfront c (hsame ▸ hc)] at hword
    cases hword
  · intro hfree
    refine ⟨before ++ digits, after, hstands, fun c hc => ?_, not_isWord_of_dropSpaced hcall, houtside⟩
    rw [Bool.eq_false_iff]
    intro hword
    have hstart : isNameStart c = true := by
      by_contra hnot
      exact hfree ⟨c, hc, clings_iff.mpr ⟨hword, Bool.eq_false_iff.mpr hnot⟩⟩
    rcases List.eq_nil_or_concat' digits with rfl | ⟨digits, digit, rfl⟩
    · rw [List.append_nil] at hc
      have hascii := hlast c hc
      rw [isAsciiWord_iff.mpr (Or.inl hstart)] at hascii
      cases hascii
    · rw [← List.append_assoc, List.getLast?_concat, Option.mem_some_iff] at hc
      have hdigit := hdigits c (by simp [hc])
      rw [not_digit_of_isNameStart hstart] at hdigit
      cases hdigit

/-- A text in which no name begins right behind a character that clings to it. -/
def NamesStandFree (text : List Char) : Prop :=
  text.IsChain fun c d => isNameStart d = true → ¬ Clings c

instance (text : List Char) : Decidable (NamesStandFree text) := by
  unfold NamesStandFree
  infer_instance

theorem NamesStandFree.not_behindClinging (hfree : NamesStandFree text)
    (h : (start, name) ∈ callPlaces text) : ¬ BehindClinging text start := by
  obtain ⟨before, digits, after, hstands, _⟩ := callPlace_shape h
  obtain ⟨d, rest, hname, hstart, _⟩ := isName_iff.mp hstands.isName
  rw [hstands.behindClinging_iff]
  rintro ⟨c, hc, hclings⟩
  obtain ⟨front, hfront⟩ := List.getLast?_eq_some_iff.mp hc
  have htext : text = front ++ c :: d :: (rest ++ after) := by
    rw [hstands.text_eq, hfront, hname]
    simp
  rw [NamesStandFree, htext, List.isChain_append_cons_cons] at hfree
  exact hfree.2.1 hstart hclings

theorem NamesStandFree.methodCalls_subset (hfree : NamesStandFree text) :
    methodCalls text ⊆ wholeNames text := by
  intro name hname
  rw [← map_callPlaces] at hname
  obtain ⟨⟨start, _⟩, hplace, rfl⟩ := List.mem_map.mp hname
  rw [← map_wholePlaces]
  exact List.mem_map_of_mem
    ((mem_wholePlaces_iff_of_call hplace).mpr (hfree.not_behindClinging hplace))

end LogAudit.Source

namespace LogAudit
set_option autoImplicit false

open Source

/-! ## Candidates that were there before -/

variable {rules : List Rule} {reported earlier later : List String}

/-- Candidates that are reported already or that no rule matches are passed over. -/
theorem namesReported_pass (h : ∀ name ∈ earlier, name ∈ reported ∨ firstMatch? rules name = none) :
    namesReported rules reported (earlier ++ later) = namesReported rules reported later := by
  induction earlier with
  | nil => rfl
  | cons name earlier ih =>
    obtain ⟨hname, hrest⟩ := List.forall_mem_cons.mp h
    rw [List.cons_append, namesReported]
    by_cases hreported : name ∈ reported
    · rw [if_pos hreported]
      exact ih hrest
    · rw [if_neg hreported, hname.resolve_left hreported]
      exact ih hrest

/-- Candidates that stood among those before them change nothing. -/
theorem namesReported_skip {candidates : List String}
    (h : ∀ name ∈ earlier, name ∈ candidates ∨ name ∈ reported ∨ firstMatch? rules name = none) :
    namesReported rules reported (candidates ++ (earlier ++ later)) =
      namesReported rules reported (candidates ++ later) := by
  -- what is reported grows along the first candidates, until all the skipped ones are settled
  induction candidates generalizing reported with
  | nil => exact namesReported_pass fun name hname => (h name hname).resolve_left List.not_mem_nil
  | cons candidate candidates ih =>
    rw [List.cons_append, List.cons_append, namesReported, namesReported]
    by_cases hreported : candidate ∈ reported
    · rw [if_pos hreported, if_pos hreported]
      refine ih fun name hname => ?_
      rcases h name hname with hmem | hrest
      · rcases List.mem_cons.mp hmem with rfl | hmem
        · exact Or.inr (Or.inl hreported)
        · exact Or.inl hmem
      · exact Or.inr hrest
    · rw [if_neg hreported, if_neg hreported]
      cases hmatch : firstMatch? rules candidate with
      | none =>
        refine ih fun name hname => ?_
        rcases h name hname with hmem | hrest
        · rcases List.mem_cons.mp hmem with rfl | hmem
          · exact Or.inr (Or.inr hmatch)
          · exact Or.inl hmem
        · exact Or.inr hrest
      | some rule =>
        refine congrArg _ (ih fun name hname => ?_)
        rcases h name hname with hmem | hmem | hnone
        · rcases List.mem_cons.mp hmem with rfl | hmem
          · exact Or.inr (Or.inl List.mem_cons_self)
          · exact Or.inl hmem
        · exact Or.inr (Or.inl (List.mem_cons_of_mem _ hmem))
        · exact Or.inr (Or.inr hnone)

theorem nameFindings_without_calls {statement : Statement}
    (hfree : NamesStandFree statement.text.toList) (keywords : List Rule) :
    nameFindings (Strategy.all.erase .methodCalls) keywords statement =
      nameFindings Strategy.all keywords statement := by
  have hrest : Strategy.all.erase .methodCalls =
      [.wholeNames, .bufferAppends, .bufferTraces, .stringJoin, .stringJoiner] := by decide
  rw [hrest, nameFindings, nameFindings, Strategy.all]
  simp only [List.flatMap_cons]
  exact (namesReported_skip fun name hname => Or.inl (hfree.methodCalls_subset hname)).symm

/-- Each called name of a text is a whole name at the same place, unless a digit or a word character of
another script stands right in front of it. Where no name begins behind such a character, a statement
reports the same without the strategy for called names. -/
theorem methodCalls_dispensable :
    (∀ text, (wholePlaces text).map (·.2) = wholeNames text ∧
      (callPlaces text).map (·.2) = methodCalls text ∧
      ∀ start name, (start, name) ∈ callPlaces text →
        (∃ before after, StandsBetween text start name before after) ∧
        ((start, name) ∈ wholePlaces text ↔ ¬ BehindClinging text start)) ∧
    ∀ keywords objectTypes statement, NamesStandFree statement.text.toList →
      detectWith (Strategy.all.erase .methodCalls) keywords objectTypes statement =
        detect keywords objectTypes statement := by
  constructor
  · refine fun text => ⟨map_wholePlaces text, map_callPlaces text, fun start name hplace => ?_⟩
    obtain ⟨before, digits, after, hstands, _⟩ := callPlace_shape hplace
    exact ⟨⟨_, _, hstands⟩, mem_wholePlaces_iff_of_call hplace⟩
  · intro keywords objectTypes statement hfree
    simp only [detect, detectWith, findings, nameFindings_without_calls hfree]

/-- An accessor is reported once, as a whole name, with the strategy for called names and without it. -/
theorem methodCalls_dispensable_accessor :
    NamesStandFree "log.info(user.token() + 2);".toList ∧
    detectWith (Strategy.all.erase .methodCalls) [.literal "token"] []
        ⟨"A.java", 1, "log.info(user.token() + 2);", []⟩ =
      detect [.literal "token"] [] ⟨"A.java", 1, "log.info(user.token() + 2);", []⟩ ∧
    detect [.literal "token"] [] ⟨"A.java", 1, "log.info(user.token() + 2);", []⟩ =
      [⟨"A.java", 1, "token", "log.info(user.token() + 2);"⟩] := by
  have hfree : NamesStandFree "log.info(user.token() + 2);".toList := by decide +kernel
  exact ⟨hfree, methodCalls_dispensable.2 _ _ _ hfree, by decide +kernel⟩

-- behind a digit, a called name is no whole name, and only its own strategy reports it
example : detectWith (Strategy.all.erase .methodCalls) [.literal "token"] []
      ⟨"A.java", 1, "log.info(2token());", []⟩ = [] ∧
    detect [.literal "token"] [] ⟨"A.java", 1, "log.info(2token());", []⟩ =
      [⟨"A.java", 1, "token", "log.info(2token());"⟩] := by
  decide +kernel

end LogAudit
