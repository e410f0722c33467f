import LogAudit.Proofs.Literals
import LogAudit.Source.Name

/-! # Where the names of a statement come from

Every name that is pulled out of a text is an identifier that stands in it and begins outside of the
literals of the text, or of the fragment that it was read from.

* `mem_wholeNames_iff`, `mem_methodCalls_iff`: the names of the two passes over a whole text.
* `mem_namesOf`: both passes together.
* `CutsOut`: a reader takes its fragment from between parentheses. -/

namespace LogAudit.Source
set_option autoImplicit false

open Text

/-! ## Characters of names -/

theorem isDigit_iff {c : Char} : c.isDigit = true ↔ 48 ≤ c.toNat ∧ c.toNat ≤ 57 := by
  simp [Char.isDigit, UInt32.le_iff_toNat_le, ← Char.toNat_val]

theorem isNameStart_iff {c : Char} :
    isNameStart c = true ↔
      65 ≤ c.toNat ∧ c.toNat ≤ 90 ∨ 97 ≤ c.toNat ∧ c.toNat ≤ 122 ∨ c.toNat = 95 := by
  have hlow : c = '_' ↔ c.toNat = 95 :=
    ⟨fun h => h ▸ rfl, fun h => Char.ext (UInt32.toNat_inj.mp h)⟩
  simp [isNameStart, Char.isAlpha, Char.isUpper, Char.isLower, UInt32.le_iff_toNat_le,
    ← Char.toNat_val, hlow, or_assoc]

theorem isAsciiWord_iff {c : Char} :
    isAsciiWord c = true ↔ isNameStart c = true ∨ c.isDigit = true := by
  simp only [isAsciiWord, isNameStart, Char.isAlphanum, Bool.or_eq_true]
  tauto

theorem not_digit_of_isNameStart {c : Char} (h : isNameStart c = true) : c.isDigit = false := by
  rw [isNameStart_iff] at h
  rw [Bool.eq_false_iff, ne_eq, isDigit_iff]
  omega

theorem isWord_of_isAsciiWord {c : Char} (h : isAsciiWord c = true) : isWord c = true := by
  have hlt : c.toNat < 128 := by
    rw [isAsciiWord_iff, isNameStart_iff, isDigit_iff] at h
    omega
  rw [isWord, if_pos hlt]
  exact h

/-- Two characters differ if only one of them is in a class. -/
theorem ne_of_class {inClass : Char → Bool} {c d : Char} (hc : inClass c = true)
    (hd : inClass d = false) : c ≠ d := by
  rintro rfl
  rw [hc] at hd
  exact absurd hd (by decide)

theorem ne_quote_of_isNameStart {c : Char} (h : isNameStart c = true) : c ≠ '"' :=
  ne_of_class h (by decide)

theorem isName_iff {text : List Char} :
    isName text = true ↔
      ∃ c rest, text = c :: rest ∧ isNameStart c = true ∧ ∀ d ∈ text, isAsciiWord d = true := by
  cases text with
  | nil => simp [isName]
  | cons c rest => simp [isName]

theorem isName_ne_nil {text : List Char} (h : isName text = true) : text ≠ [] := by
  obtain ⟨c, rest, rfl, -⟩ := isName_iff.mp h
  exact List.cons_ne_nil c rest

/-! ## The two passes -/

/-- A name that stands somewhere in a text and begins outside of its literals. -/
def StandsOutside (text name : List Char) : Prop :=
  ∃ before after, text = before ++ (name ++ after) ∧
    inLiteral (literalRanges text) before.length = false

theorem standsOutside_iff {text name : List Char} :
    StandsOutside text name ↔ ∃ place < text.length + 1,
      name.isPrefixOf (text.drop place) = true ∧ inLiteral (literalRanges text) place = false := by
  simp only [StandsOutside, List.isPrefixOf_iff_prefix]
  constructor
  · rintro ⟨before, after, rfl, houtside⟩
    exact ⟨before.length, by simp only [List.length_append]; omega, ⟨after, by simp⟩, houtside⟩
  · rintro ⟨place, hplace, ⟨after, hafter⟩, houtside⟩
    refine ⟨text.take place, after, by rw [hafter, List.take_append_drop], ?_⟩
    rwa [List.length_take_of_le (by omega)]

instance (text name : List Char) : Decidable (StandsOutside text name) :=
  decidable_of_iff' _ standsOutside_iff

theorem mem_wholeNames_iff {text : List Char} {name : String} :
    name ∈ wholeNames text ↔ isName name.toList = true ∧
      ∃ before after, text = before ++ (name.toList ++ after) ∧
        (∀ c ∈ before.getLast?, isWord c = false) ∧ (∀ c ∈ after.head?, isWord c = false) ∧
        inLiteral (literalRanges text) before.length = false := by
  simp only [wholeNames, List.mem_filterMap, Option.ite_none_right_eq_some, Bool.and_eq_true,
    Bool.not_eq_true', Option.some.injEq, mem_runs_iff]
  constructor
  · rintro ⟨run, ⟨before, htext, hstart, _, _, hlast, hhead⟩, ⟨hname, houtside⟩, rfl⟩
    rw [hstart, Nat.zero_add] at houtside
    rw [String.toList_ofList]
    exact ⟨hname, before, run.after, htext, hlast, hhead, houtside⟩
  · rintro ⟨hname, before, after, htext, hlast, hhead, houtside⟩
    refine ⟨⟨before.length, name.toList, after⟩, ?_, ⟨hname, houtside⟩, String.ofList_toList⟩
    obtain ⟨_, _, _, _, hword⟩ := isName_iff.mp hname
    exact ⟨before, htext, by simp, isName_ne_nil hname,
      fun c hc => isWord_of_isAsciiWord (hword c hc), hlast, hhead⟩

theorem dropWhile_head {α : Type} {inClass : α → Bool} {text : List α} :
    ∀ c ∈ (text.dropWhile inClass).head?, inClass c = false := by
  intro c hc
  have h := List.head?_dropWhile_not inClass text
  rw [hc] at h
  exact h

/-- Behind its leading digits, a run of word characters is a name. -/
theorem isName_dropDigits {text : List Char} (hall : ∀ c ∈ text, isAsciiWord c = true)
    (hne : text.dropWhile Char.isDigit ≠ []) : isName (text.dropWhile Char.isDigit) = true := by
  obtain ⟨c, rest, hname⟩ := List.exists_cons_of_ne_nil hne
  have hword : ∀ d ∈ text.dropWhile Char.isDigit, isAsciiWord d = true := fun d hd =>
    hall d (List.dropWhile_subset Char.isDigit hd)
  refine isName_iff.mpr ⟨c, rest, hname, ?_, hword⟩
  have hdigit : c.isDigit = false := dropWhile_head c (by rw [hname]; rfl)
  have hc := isAsciiWord_iff.mp (hword c (by rw [hname]; exact List.mem_cons_self))
  rw [hdigit] at hc
  simpa using hc

theorem mem_methodCalls_iff {text : List Char} {name : String} :
    name ∈ methodCalls text ↔ isName name.toList = true ∧
      ∃ before digits after, text = before ++ (digits ++ (name.toList ++ after)) ∧
        (∀ c ∈ digits, c.isDigit = true) ∧
        (∀ c ∈ before.getLast?, isAsciiWord c = false) ∧ (∀ c ∈ after.head?, isAsciiWord c = false) ∧
        (dropSpaced '(' after).isSome = true ∧
        inLiteral (literalRanges text) (before ++ digits).length = false := by
  simp only [methodCalls, List.mem_filterMap, Option.ite_none_right_eq_some, Bool.and_eq_true,
    Bool.not_eq_true', Option.some.injEq, mem_runs_iff, List.isEmpty_eq_false_iff]
  constructor
  · rintro ⟨run, ⟨before, htext, hstart, _, hall, hlast, hhead⟩, ⟨⟨hne, hcall⟩, houtside⟩, rfl⟩
    rw [hstart, Nat.zero_add, ← List.length_append] at houtside
    rw [String.toList_ofList]
    refine ⟨isName_dropDigits hall hne, before, run.text.takeWhile Char.isDigit, run.after, ?_,
      fun c hc => List.mem_takeWhile_imp hc, hlast, hhead, hcall, houtside⟩
    rw [← List.append_assoc (List.takeWhile _ _), List.takeWhile_append_dropWhile]
    exact htext
  · rintro ⟨hname, before, digits, after, htext, hdigits, hlast, hhead, hcall, houtside⟩
    obtain ⟨c, rest, hcons, hc, hword⟩ := isName_iff.mp hname
    have hsplit : (digits ++ name.toList).takeWhile Char.isDigit ++
        (digits ++ name.toList).dropWhile Char.isDigit = digits ++ name.toList :=
      List.takeWhile_append_dropWhile
    obtain ⟨htake, hdrop⟩ := split_unique Char.isDigit (fun _ => List.mem_takeWhile_imp)
      dropWhile_head hdigits (by rw [hcons]; simpa using not_digit_of_isNameStart hc) hsplit
    refine ⟨⟨before.length, digits ++ name.toList, after⟩,
      ⟨before, by simpa using htext, by simp, ?_, ?_, hlast, hhead⟩, ?_, ?_⟩
    · simp [isName_ne_nil hname]
    · intro d hd
      rcases List.mem_append.mp hd with hd | hd
      · exact isAsciiWord_iff.mpr (Or.inr (hdigits d hd))
      · exact hword d hd
    · rw [htake, hdrop, ← List.length_append]
      exact ⟨⟨isName_ne_nil hname, hcall⟩, houtside⟩
    · rw [hdrop]
      exact String.ofList_toList

theorem mem_namesOf {fragment : List Char} {name : String} (h : name ∈ namesOf fragment) :
    isName name.toList = true ∧ StandsOutside fragment name.toList := by
  rcases List.mem_append.mp h with h | h
  · obtain ⟨hname, before, after, htext, _, _, houtside⟩ := mem_wholeNames_iff.mp h
    exact ⟨hname, before, after, htext, houtside⟩
  · obtain ⟨hname, before, digits, after, htext, _, _, _, _, houtside⟩ := mem_methodCalls_iff.mp h
    exact ⟨hname, before ++ digits, after, by rw [List.append_assoc]; exact htext, houtside⟩

/-! ## Arguments -/

theorem readArgument_shape {text argument rest : List Char}
    (h : readArgument text = some (argument, rest)) :
    text = argument ++ ')' :: rest ∧ argument ≠ [] ∧ ')' ∉ argument := by
  have hsplit : text.takeWhile (· != ')') ++ text.dropWhile (· != ')') = text :=
    List.takeWhile_append_dropWhile
  have hfree : ')' ∉ text.takeWhile (· != ')') := fun hmem => by
    simpa using List.mem_takeWhile_imp hmem
  have hhead : ∀ c ∈ (text.dropWhile (· != ')')).head?, (c != ')') = false := dropWhile_head
  cases htake : text.takeWhile (· != ')') with
  | nil => simp [readArgument, htake] at h
  | cons c front =>
    cases hdrop : text.dropWhile (· != ')') with
    | nil => simp [readArgument, htake, hdrop] at h
    | cons d back =>
      simp only [readArgument, htake, hdrop, Option.some.injEq, Prod.mk.injEq] at h
      obtain ⟨rfl, rfl⟩ := h
      rw [hdrop] at hhead
      have hd : d = ')' := by simpa using hhead d rfl
      rw [htake, hdrop, hd] at hsplit
      rw [htake] at hfree
      exact ⟨hsplit.symm, List.cons_ne_nil c front, hfree⟩

theorem readParenthesised_shape {text argument rest : List Char}
    (h : readParenthesised text = some (argument, rest)) :
    ∃ blanks, (∀ c ∈ blanks, isBlank c = true) ∧
      text = blanks ++ '(' :: (argument ++ ')' :: rest) ∧ argument ≠ [] ∧ ')' ∉ argument := by
  obtain ⟨inside, hinside, hargument⟩ := Option.bind_eq_some_iff.mp h
  obtain ⟨blanks, hblanks, htext⟩ := dropSpaced_shape hinside
  obtain ⟨hargument, hne, hfree⟩ := readArgument_shape hargument
  exact ⟨blanks, hblanks, by rw [htext, hargument], hne, hfree⟩

/-- A call of `append` on some receiver, with blanks behind the dot and before the parenthesis. -/
theorem readAppend_shape {text argument rest : List Char}
    (h : readAppend text = some (argument, rest)) :
    ∃ gap blanks, (∀ c ∈ gap, isBlank c = true) ∧ (∀ c ∈ blanks, isBlank c = true) ∧
      text = '.' :: (gap ++ ("append".toList ++ (blanks ++ '(' :: (argument ++ ')' :: rest)))) ∧
      argument ≠ [] ∧ ')' ∉ argument := by
  obtain ⟨behind, hdot, h⟩ := Option.bind_eq_some_iff.mp h
  obtain ⟨inside, hword, hargument⟩ := Option.bind_eq_some_iff.mp h
  obtain ⟨gap, hgap, hbehind⟩ := dropBlanks_shape behind
  obtain ⟨blanks, hblanks, hopen, hne, hfree⟩ := readParenthesised_shape hargument
  refine ⟨gap, blanks, hgap, hblanks, ?_, hne, hfree⟩
  rw [dropWord_eq_some.mp hdot, hbehind, dropWord_eq_some.mp hword, hopen]
  rfl

/-! ## Fragments -/

/-- A reader that takes its fragment from behind an opening parenthesis and in front of a closing one,
and goes on behind that. -/
def CutsOut (read : Reader (List Char)) : Prop :=
  ∀ text fragment rest, read text = some (fragment, rest) →
    ∃ before, text = before ++ (fragment ++ ')' :: rest) ∧ '(' ∈ before

theorem cutsOut_parenthesised : CutsOut readParenthesised := by
  intro text fragment rest h
  obtain ⟨blanks, _, htext, _⟩ := readParenthesised_shape h
  exact ⟨blanks ++ ['('], by simpa using htext, by simp⟩

/-- A reader that first drops a word cuts out what the reader behind it cuts out. -/
theorem CutsOut.behind_word {read : Reader (List Char)} (hread : CutsOut read) (word : String) :
    CutsOut fun text => (dropWord word text).bind read := by
  intro text fragment rest h
  obtain ⟨behind, hword, hfragment⟩ := Option.bind_eq_some_iff.mp h
  obtain ⟨before, hbehind, hopen⟩ := hread behind fragment rest hfragment
  exact ⟨word.toList ++ before, by rw [dropWord_eq_some.mp hword, hbehind, List.append_assoc],
    List.mem_append_right _ hopen⟩

theorem cutsOut_inlineAppend : CutsOut readInlineAppend :=
  cutsOut_parenthesised.behind_word ".append"

theorem cutsOut_lastAdd : CutsOut readLastAdd := by
  intro text fragment rest h
  induction text with
  | nil => simp [readLastAdd] at h
  | cons c text ih =>
    unfold readLastAdd at h
    split at h
    · simp at h
    · rcases Option.or_eq_some_iff.mp h with h | ⟨_, h⟩
      · obtain ⟨before, htext, hopen⟩ := ih h
        exact ⟨c :: before, by rw [htext, List.cons_append], List.mem_cons_of_mem c hopen⟩
      · exact cutsOut_parenthesised.behind_word ".add" _ _ _ h

theorem cutsOut_joiner : CutsOut readJoiner :=
  cutsOut_lastAdd.behind_word "StringJoiner"

theorem splitLastClosing_shape {line behind fragment rest : List Char}
    (h : splitLastClosing line behind = some (fragment, rest)) :
    line ++ behind = fragment ++ ')' :: rest := by
  obtain ⟨passed, hpassed⟩ : ∃ passed, line.reverse = passed ++ line.reverse.dropWhile (· != ')') :=
    ⟨_, List.takeWhile_append_dropWhile.symm⟩
  have hhead : ∀ c ∈ (line.reverse.dropWhile (· != ')')).head?, (c != ')') = false := dropWhile_head
  unfold splitLastClosing at h
  cases hdrop : line.reverse.dropWhile (· != ')') with
  | nil => simp [hdrop] at h
  | cons c inside =>
    rw [hdrop] at h hhead hpassed
    have hc : c = ')' := by simpa using hhead c rfl
    have hline : line = inside.reverse ++ ')' :: passed.reverse := by
      rw [← List.reverse_inj, hpassed, hc]
      simp
    cases inside with
    | nil => simp at h
    | cons d inside =>
      simp only [Option.some.injEq, Prod.mk.injEq] at h
      obtain ⟨rfl, rfl⟩ := h
      have hdrop : line.drop ((d :: inside).length + 1) = passed.reverse := by
        rw [hline, ← List.length_reverse, List.drop_length_add_append]
        rfl
      rw [hdrop]
      conv_lhs => rw [hline]
      simp

theorem readToLastClosing_shape {text fragment rest : List Char}
    (h : readToLastClosing text = some (fragment, rest)) : text = fragment ++ ')' :: rest := by
  have hsplit : text.takeWhile (· != '\n') ++ text.dropWhile (· != '\n') = text :=
    List.takeWhile_append_dropWhile
  rw [← hsplit, splitLastClosing_shape h]

theorem readJoined_shape {passed text fragment rest : List Char}
    (h : readJoined passed text = some (fragment, rest)) :
    ∃ before, passed.reverse ++ text = before ++ (fragment ++ ')' :: rest) := by
  induction passed generalizing text with
  | nil => exact ⟨[], readToLastClosing_shape h⟩
  | cons blank passed ih =>
    rcases Option.or_eq_some_iff.mp h with h | ⟨_, h⟩
    · exact ⟨(blank :: passed).reverse, by rw [readToLastClosing_shape h]⟩
    · obtain ⟨before, htext⟩ := ih h
      exact ⟨before, by rw [← htext]; simp⟩

theorem cutsOut_join : CutsOut readJoin := by
  refine CutsOut.behind_word ?_ "String.join"
  intro text fragment rest h
  obtain ⟨inside, hopen, h⟩ := Option.bind_eq_some_iff.mp h
  obtain ⟨blanks, _, htext⟩ := dropSpaced_shape hopen
  have hsplit : inside.takeWhile (· != ',') ++ inside.dropWhile (· != ',') = inside :=
    List.takeWhile_append_dropWhile
  cases htake : inside.takeWhile (· != ',') with
  | nil => simp [htake] at h
  | cons c separator =>
    cases hdrop : inside.dropWhile (· != ',') with
    | nil => simp [htake, hdrop] at h
    | cons comma joined =>
      rw [htake, hdrop] at h
      obtain ⟨before, hjoined⟩ := readJoined_shape h
      have hblanks : joined.takeWhile isBlank ++ dropBlanks joined = joined :=
        List.takeWhile_append_dropWhile
      rw [List.reverse_reverse, hblanks] at hjoined
      rw [htake, hdrop, hjoined] at hsplit
      exact ⟨blanks ++ '(' :: (c :: separator ++ comma :: before), by rw [htext, ← hsplit]; simp,
        by simp⟩

theorem mem_namesFound_iff {read : Reader (List Char)} {text : List Char} {name : String} :
    name ∈ namesFound read text ↔
      ∃ fragment ∈ findAll read text, name ∈ namesOf (trimmed fragment) := by
  rw [namesFound, List.mem_flatMap]

/-- A name read from a fragment that was cut out of a text stands in the text. -/
theorem infix_of_mem_namesFound {read : Reader (List Char)} (hread : CutsOut read)
    {text : List Char} {name : String} (h : name ∈ namesFound read text) :
    isName name.toList = true ∧ name.toList <:+: text := by
  obtain ⟨fragment, hfragment, hname⟩ := mem_namesFound_iff.mp h
  obtain ⟨before, here, after, htext, hhere⟩ := mem_findAll hfragment
  obtain ⟨passed, hcut, _⟩ := hread here fragment after hhere
  obtain ⟨hname, front, back, htrimmed, _⟩ := mem_namesOf hname
  have hinside : name.toList <:+: trimmed fragment := ⟨front, back, by rw [htrimmed]; simp⟩
  have hfragment : fragment <:+: text := ⟨before ++ passed, ')' :: after, by rw [htext, hcut]; simp⟩
  exact ⟨hname, hinside.trans ((isInfix_trimmed fragment).trans hfragment)⟩

end LogAudit.Source
