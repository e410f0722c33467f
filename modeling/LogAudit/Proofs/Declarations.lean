import LogAudit.Proofs.Openers
import LogAudit.Proofs.Segments

/-! # Declarations and calls

What counts as a declaration is told by a grammar with much choice: modifiers and blanks in any order, a
type that may hold blanks and names itself, blanks, a name, blanks, and a list of parameters. The test
follows one way through a line, and that way is found if there is any.

All that stands before the first parenthesis of a declaration is made of the characters of types, and a
dot is none of them. So a call that opens at the first parenthesis of a line is never taken for a
declaration, and a walk over the lines of a file that gets to it makes a statement of it.

* `Modifying`, `ReturnType`, `IsDeclaration`: the grammar.
* `declaresMethod_iff`: the test accepts exactly the grammar.
* `OpensFirst`: a line with a call at its first parenthesis.
* `Reaches`: the lines that a walk looks at on their own.
* `declaresMethod_spares_calls`: such a call is not lost. -/

namespace LogAudit.Source
set_option autoImplicit false

open Text

/-! ## The grammar of declarations -/

/-- Modifiers and blanks in any order. -/
inductive Modifying : List Char → Prop
  | done : Modifying []
  | blank {c : Char} {more : List Char} : isBlank c = true → Modifying more → Modifying (c :: more)
  | word {word : String} {more : List Char} : word ∈ modifiers → Modifying more →
      Modifying (word.toList ++ more)

/-- A primitive type, or a capital letter and characters of types. -/
inductive ReturnType : List Char → Prop
  | primitive {word : String} : word ∈ primitiveTypes → ReturnType word.toList
  | named {c : Char} {more : List Char} : c.isUpper = true → (∀ d ∈ more, isTypePart d = true) →
      ReturnType (c :: more)

/-- A list of parameters, and anything behind it. -/
def ParametersThen (text : List Char) : Prop :=
  ∃ parameters behind, ')' ∉ parameters ∧ text = '(' :: (parameters ++ ')' :: behind)

/-- At least one blank, a name, blanks, a list of parameters, and anything behind it. -/
def NamedParameters (text : List Char) : Prop :=
  ∃ gap name blanks rest, gap ≠ [] ∧ AllBlank gap ∧ isName name = true ∧ AllBlank blanks ∧
    ParametersThen rest ∧ text = gap ++ (name ++ (blanks ++ rest))

/-- A declaration. -/
def IsDeclaration (text : List Char) : Prop :=
  ∃ front type rest, Modifying front ∧ ReturnType type ∧ NamedParameters rest ∧
    text = front ++ (type ++ rest)

/-! ## Modifiers -/

/-- Where one of two words ends, the other one has ended or goes on. -/
theorem comparable_of_append_eq {xs ys zs ws : List Char} (h : xs ++ ys = zs ++ ws) :
    xs <+: zs ∨ zs <+: xs := by
  rcases List.append_eq_append_iff.mp h with ⟨more, rfl, _⟩ | ⟨more, rfl, _⟩
  · exact Or.inl (List.prefix_append xs more)
  · exact Or.inr (List.prefix_append zs more)

theorem exists_cons_of_head {p : Char → Bool} {text : List Char} (h : text.head?.any p = true) :
    ∃ c rest, text = c :: rest ∧ p c = true := by
  cases text with
  | nil => simp at h
  | cons c rest => exact ⟨c, rest, rfl, by simpa using h⟩

theorem isAsciiWord_of_isUpper {c : Char} (h : c.isUpper = true) : isAsciiWord c = true := by
  simp [isAsciiWord, Char.isAlphanum, Char.isAlpha, h]

theorem modifiers_apart : ∀ word ∈ modifiers, ∀ other ∈ modifiers,
    word.toList.isPrefixOf other.toList = true → word = other := by
  decide

theorem modifiers_apart_primitive : ∀ word ∈ modifiers, ∀ type ∈ primitiveTypes,
    word.toList.isPrefixOf type.toList = false ∧ type.toList.isPrefixOf word.toList = false := by
  decide

/-- No modifier is found at the front of a text, and no blank. -/
def StartsBehind (text : List Char) : Prop :=
  (∀ c ∈ text.head?, isBlank c = false) ∧ ∀ word ∈ modifiers, dropWord word text = none

theorem ReturnType.startsBehind {type : List Char} (h : ReturnType type) (rest : List Char) :
    StartsBehind (type ++ rest) := by
  cases h with
  | @primitive type htype =>
    constructor
    · have hheads : ∀ type ∈ primitiveTypes, type.toList.head?.any isNameStart = true := by decide
      obtain ⟨c, chars, hchars, hc⟩ := exists_cons_of_head (hheads type htype)
      rw [hchars]
      simpa using isBlank_of_isAsciiWord (isAsciiWord_iff.mpr (Or.inl hc))
    · intro word hword
      rw [Option.eq_none_iff_forall_ne_some]
      intro after hafter
      obtain ⟨hless, hmore⟩ := modifiers_apart_primitive word hword type htype
      rcases comparable_of_append_eq (dropWord_eq_some.mp hafter) with hfront | hfront
      · rw [List.isPrefixOf_iff_prefix.mpr hfront] at hmore
        cases hmore
      · rw [List.isPrefixOf_iff_prefix.mpr hfront] at hless
        cases hless
  | @named c more hupper _ =>
    constructor
    · simpa using isBlank_of_isAsciiWord (isAsciiWord_of_isUpper hupper)
    · intro word hword
      have hheads : ∀ word ∈ modifiers, word.toList.head?.any (!·.isUpper) = true := by decide
      obtain ⟨d, chars, hchars, hd⟩ := exists_cons_of_head (hheads word hword)
      rw [Option.eq_none_iff_forall_ne_some]
      intro after hafter
      have htext := dropWord_eq_some.mp hafter
      rw [hchars] at htext
      obtain ⟨rfl, _⟩ := List.cons.inj htext
      simp [hupper] at hd

theorem findSome?_modifiers {word : String} (hword : word ∈ modifiers) (rest : List Char) :
    modifiers.findSome? (dropWord · (word.toList ++ rest)) = some rest := by
  have hsome : (modifiers.findSome? (dropWord · (word.toList ++ rest))).isSome = true := by
    rw [List.findSome?_isSome_iff]
    exact ⟨word, hword, by rw [dropWord_eq_some.mpr rfl]; rfl⟩
  obtain ⟨after, hafter⟩ := Option.isSome_iff_exists.mp hsome
  obtain ⟨other, hother, hdrop⟩ := List.exists_of_findSome?_eq_some hafter
  have htext := dropWord_eq_some.mp hdrop
  have hsame : other = word := by
    rcases comparable_of_append_eq htext with hfront | hfront
    · exact (modifiers_apart word hword other hother (List.isPrefixOf_iff_prefix.mpr hfront)).symm
    · exact modifiers_apart other hother word hword (List.isPrefixOf_iff_prefix.mpr hfront)
  rw [hsame] at htext
  rw [hafter, List.append_cancel_left htext]

theorem dropModifiersFrom_of_startsBehind {text : List Char} (h : StartsBehind text) (steps : Nat) :
    dropModifiersFrom steps text = text := by
  cases steps with
  | zero => rfl
  | succ steps =>
    cases text with
    | nil => rfl
    | cons c rest =>
      have hblank := h.1 c rfl
      have hnone : modifiers.findSome? (dropWord · (c :: rest)) = none :=
        List.findSome?_eq_none_iff.mpr h.2
      simp [dropModifiersFrom, hblank, hnone]

theorem head_modifier {word : String} (h : word ∈ modifiers) :
    ∃ c chars, word.toList = c :: chars ∧ isBlank c = false := by
  have hheads : ∀ word ∈ modifiers, word.toList.head?.any (!isBlank ·) = true := by decide
  obtain ⟨c, chars, hchars, hc⟩ := exists_cons_of_head (hheads word h)
  exact ⟨c, chars, hchars, by simpa using hc⟩

/-- Each step drops at least one character, so that there are enough steps. -/
theorem dropModifiersFrom_append {front : List Char} (h : Modifying front) {rest : List Char}
    (hrest : StartsBehind rest) {steps : Nat} (hsteps : front.length ≤ steps) :
    dropModifiersFrom steps (front ++ rest) = rest := by
  induction h generalizing steps with
  | done => exact dropModifiersFrom_of_startsBehind hrest steps
  | @blank c more hc _ ih =>
    cases steps with
    | zero => simp at hsteps
    | succ steps =>
      rw [List.cons_append, dropModifiersFrom, if_pos hc]
      exact ih (by simpa using hsteps)
  | @word word more hword _ ih =>
    obtain ⟨c, chars, hchars, hc⟩ := head_modifier hword
    cases steps with
    | zero => simp [hchars] at hsteps
    | succ steps =>
      have hfound := findSome?_modifiers hword (more ++ rest)
      rw [hchars, List.cons_append] at hfound
      have hfewer : more.length ≤ steps := by
        rw [hchars, List.length_append, List.length_cons] at hsteps
        omega
      rw [List.append_assoc, hchars, List.cons_append, dropModifiersFrom, hc]
      simp only [Bool.false_eq_true, if_false, hfound]
      exact ih hfewer

theorem dropModifiersFrom_shape (steps : Nat) (text : List Char) :
    ∃ front, Modifying front ∧ text = front ++ dropModifiersFrom steps text := by
  induction steps generalizing text with
  | zero => exact ⟨[], .done, rfl⟩
  | succ steps ih =>
    cases text with
    | nil => exact ⟨[], .done, rfl⟩
    | cons c rest =>
      rw [dropModifiersFrom]
      split
      · next hc =>
        obtain ⟨front, hfront, hrest⟩ := ih rest
        exact ⟨c :: front, .blank hc hfront, by rw [List.cons_append, ← hrest]⟩
      · split
        · next after hafter =>
          obtain ⟨word, hword, hdrop⟩ := List.exists_of_findSome?_eq_some hafter
          obtain ⟨front, hfront, hrest⟩ := ih after
          refine ⟨word.toList ++ front, .word hword hfront, ?_⟩
          rw [dropWord_eq_some.mp hdrop, List.append_assoc, ← hrest]
        · exact ⟨[], .done, rfl⟩

/-! ## Names and parameters -/

theorem startsParameters_iff {text : List Char} :
    startsParameters text = true ↔ ParametersThen text := by
  cases text with
  | nil => simp [startsParameters, ParametersThen]
  | cons c rest =>
    rw [startsParameters, Bool.and_eq_true, beq_iff_eq, List.contains_iff_mem]
    constructor
    · rintro ⟨rfl, hmem⟩
      obtain ⟨parameters, behind, rfl, hfirst⟩ := List.eq_append_cons_of_mem hmem
      exact ⟨parameters, behind, hfirst, rfl⟩
    · rintro ⟨parameters, behind, _, htext⟩
      obtain ⟨rfl, rfl⟩ := List.cons.inj htext
      exact ⟨rfl, by simp⟩

theorem ParametersThen.head {text : List Char} (h : ParametersThen text) {p : Char → Bool}
    (hp : p '(' = false) : ∀ c ∈ text.head?, p c = false := by
  obtain ⟨_, _, _, rfl⟩ := h
  simpa using hp

/-- Behind a name come blanks or a parenthesis, but no character of a name. -/
theorem head_blanks_parameters {blanks rest : List Char} (hblanks : AllBlank blanks)
    (hrest : ParametersThen rest) : ∀ c ∈ (blanks ++ rest).head?, isAsciiWord c = false := by
  cases blanks with
  | nil => exact hrest.head (by decide)
  | cons b blanks => simpa using isAsciiWord_of_isBlank (hblanks b List.mem_cons_self)

theorem startsNamedParameters_iff {text : List Char} :
    startsNamedParameters text = true ↔ NamedParameters text := by
  constructor
  · intro h
    cases text with
    | nil => simp [startsNamedParameters] at h
    | cons b rest =>
      rw [startsNamedParameters, Bool.and_eq_true] at h
      obtain ⟨hb, h⟩ := h
      obtain ⟨gap, hgap, hrest⟩ := dropBlanks_shape rest
      cases hdrop : dropBlanks rest with
      | nil => simp [hdrop] at h
      | cons first more =>
        simp only [hdrop, Bool.and_eq_true, startsParameters_iff] at h
        obtain ⟨blanks, hblanks, hmore⟩ := dropBlanks_shape (more.dropWhile isAsciiWord)
        have hname : isName (first :: more.takeWhile isAsciiWord) = true := by
          refine isName_iff.mpr ⟨first, _, rfl, h.1, List.forall_mem_cons.mpr ⟨?_, ?_⟩⟩
          · exact isAsciiWord_iff.mpr (Or.inl h.1)
          · exact fun c hc => List.mem_takeWhile_imp hc
        refine ⟨b :: gap, first :: more.takeWhile isAsciiWord, blanks, _, by simp,
          List.forall_mem_cons.mpr ⟨hb, hgap⟩, hname, hblanks, h.2, ?_⟩
        rw [hrest, hdrop, ← hmore, List.cons_append, List.cons_append, List.takeWhile_append_dropWhile]
  · rintro ⟨gap, name, blanks, rest, hgap, hblank, hname, hblanks, hrest, rfl⟩
    obtain ⟨b, gap, rfl⟩ := List.exists_cons_of_ne_nil hgap
    obtain ⟨hb, hmore⟩ := List.forall_mem_cons.mp hblank
    obtain ⟨first, chars, rfl, hfirst, hall⟩ := isName_iff.mp hname
    have hword := isAsciiWord_iff.mpr (Or.inl hfirst)
    have hdrop : dropBlanks (gap ++ (first :: chars ++ (blanks ++ rest))) =
        first :: (chars ++ (blanks ++ rest)) :=
      dropBlanks_padded hmore (by simpa using isBlank_of_isAsciiWord hword)
    have hstop : (chars ++ (blanks ++ rest)).dropWhile isAsciiWord = blanks ++ rest :=
      dropWhile_append_stop (fun c hc => hall c (List.mem_cons_of_mem _ hc))
        (head_blanks_parameters hblanks hrest)
    have hopen : dropBlanks (blanks ++ rest) = rest :=
      dropBlanks_padded hblanks (hrest.head (by decide))
    rw [List.cons_append, startsNamedParameters, hb, hdrop]
    simp [hfirst, hstop, hopen, startsParameters_iff.mpr hrest]

/-! ## Types -/

theorem isTypePart_of_isAsciiWord {c : Char} (h : isAsciiWord c = true) : isTypePart c = true := by
  simp [isTypePart, h]

theorem isTypePart_of_isBlank {c : Char} (h : isBlank c = true) : isTypePart c = true := by
  simp [isTypePart, h]

/-- What a run of characters of types with a name at its end looks like. -/
theorem endsWithName_iff {run : List Char} :
    endsWithName run = true ↔ ∃ front b name blanks, isBlank b = true ∧ isName name = true ∧
      AllBlank blanks ∧ run = front ++ b :: (name ++ blanks) := by
  constructor
  · intro h
    simp only [endsWithName, Bool.and_eq_true] at h
    obtain ⟨hstart, hblank⟩ := h
    have hreverse : run.reverse = run.reverse.takeWhile isBlank ++
        ((run.reverse.dropWhile isBlank).takeWhile isAsciiWord ++
          (run.reverse.dropWhile isBlank).dropWhile isAsciiWord) := by
      rw [List.takeWhile_append_dropWhile, List.takeWhile_append_dropWhile]
    cases hbefore : (run.reverse.dropWhile isBlank).dropWhile isAsciiWord with
    | nil => simp [hbefore] at hblank
    | cons b before =>
      rw [hbefore] at hreverse hblank
      refine ⟨before.reverse, b, ((run.reverse.dropWhile isBlank).takeWhile isAsciiWord).reverse,
        (run.reverse.takeWhile isBlank).reverse, by simpa using hblank, ?_, ?_, ?_⟩
      · rw [isName, Bool.and_eq_true, List.all_reverse, List.all_eq_true]
        exact ⟨hstart, fun c hc => List.mem_takeWhile_imp hc⟩
      · exact fun c hc => List.mem_takeWhile_imp (List.mem_reverse.mp hc)
      · have hrun := congrArg List.reverse hreverse
        simpa only [List.reverse_reverse, List.reverse_append, List.reverse_cons, List.append_assoc,
          List.singleton_append, List.cons_append, List.nil_append] using hrun
  · rintro ⟨front, b, name, blanks, hb, hname, hblanks, rfl⟩
    obtain ⟨c, chars, hchars, hstart, hall⟩ := isName_iff.mp hname
    have hdrop : (front ++ b :: (name ++ blanks)).reverse.dropWhile isBlank =
        name.reverse ++ b :: front.reverse := by
      have hreverse : (front ++ b :: (name ++ blanks)).reverse =
          blanks.reverse ++ (name.reverse ++ b :: front.reverse) := by simp
      rw [hreverse]
      refine dropWhile_append_stop (fun d hd => hblanks d (List.mem_reverse.mp hd)) fun d hd => ?_
      refine isBlank_of_isAsciiWord (hall d (List.mem_reverse.mp (List.mem_of_mem_head? ?_)))
      rwa [List.head?_append_of_ne_nil _ (by simp [hchars])] at hd
    have hword : ∀ d ∈ name.reverse, isAsciiWord d = true :=
      fun d hd => hall d (List.mem_reverse.mp hd)
    have hstop : ∀ d ∈ (b :: front.reverse).head?, isAsciiWord d = false := by
      simpa using isAsciiWord_of_isBlank hb
    simp only [endsWithName, hdrop, takeWhile_append_stop hword hstop, dropWhile_append_stop hword hstop,
      List.reverse_reverse]
    simp [hchars, hstart, hb]

theorem NamedParameters.of_named {c : Char} {run rest : List Char} (hupper : c.isUpper = true)
    (hrun : ∀ d ∈ run, isTypePart d = true) (hends : endsWithName run = true)
    (hrest : ParametersThen rest) :
    ∃ type more, ReturnType type ∧ NamedParameters more ∧ c :: (run ++ rest) = type ++ more := by
  obtain ⟨front, b, name, blanks, hb, hname, hblanks, rfl⟩ := endsWithName_iff.mp hends
  refine ⟨c :: front, b :: (name ++ (blanks ++ rest)), ?_, ?_, by simp⟩
  · exact .named hupper fun d hd => hrun d (List.mem_append_left _ hd)
  · exact ⟨[b], name, blanks, rest, by simp, by simpa [AllBlank] using hb, hname, hblanks, hrest, rfl⟩

/-- A type that is not primitive, the blanks and the name behind it are one run of characters of types
that ends with the name. -/
theorem startsSignature_named {c : Char} {more rest : List Char} (hupper : c.isUpper = true)
    (hmore : ∀ d ∈ more, isTypePart d = true) (h : NamedParameters rest) :
    startsSignature (c :: (more ++ rest)) = true := by
  obtain ⟨gap, name, blanks, parameters, hgap, hblank, hname, hblanks, hparameters, rfl⟩ := h
  obtain ⟨_, _, _, _, hall⟩ := isName_iff.mp hname
  have hrun : ∀ d ∈ more ++ (gap ++ (name ++ blanks)), isTypePart d = true := by
    simp only [List.forall_mem_append]
    exact ⟨hmore, fun d hd => isTypePart_of_isBlank (hblank d hd),
      fun d hd => isTypePart_of_isAsciiWord (hall d hd),
      fun d hd => isTypePart_of_isBlank (hblanks d hd)⟩
  have hstop : ∀ d ∈ parameters.head?, isTypePart d = false := hparameters.head (by decide)
  have hends : endsWithName (more ++ (gap ++ (name ++ blanks))) = true := by
    obtain rfl | ⟨front, b, rfl⟩ := List.eq_nil_or_concat gap
    · exact absurd rfl hgap
    refine endsWithName_iff.mpr ⟨more ++ front, b, name, blanks, hblank b (by simp), hname, hblanks, ?_⟩
    simp
  have htext : more ++ (gap ++ (name ++ (blanks ++ parameters))) =
      more ++ (gap ++ (name ++ blanks)) ++ parameters := by simp
  rw [htext, startsSignature, if_pos hupper, takeWhile_append_stop hrun hstop,
    dropWhile_append_stop hrun hstop, hends, startsParameters_iff.mpr hparameters]
  rfl

theorem startsSignature_primitive {type : String} {rest : List Char} (htype : type ∈ primitiveTypes)
    (h : NamedParameters rest) : startsSignature (type.toList ++ rest) = true := by
  have hheads : ∀ type ∈ primitiveTypes, type.toList.head?.any (!·.isUpper) = true := by decide
  obtain ⟨c, chars, hchars, hc⟩ := exists_cons_of_head (hheads type htype)
  have hlower : ¬ c.isUpper = true := by simpa using hc
  have hdrop : dropWord type (c :: (chars ++ rest)) = some rest :=
    dropWord_eq_some.mpr (by rw [hchars, List.cons_append])
  rw [hchars, List.cons_append, startsSignature, if_neg hlower, List.any_eq_true]
  exact ⟨type, htype, by rw [hdrop]; exact startsNamedParameters_iff.mpr h⟩

theorem startsSignature_iff {text : List Char} :
    startsSignature text = true ↔
      ∃ type rest, ReturnType type ∧ NamedParameters rest ∧ text = type ++ rest := by
  constructor
  · intro h
    cases text with
    | nil => simp [startsSignature] at h
    | cons c rest =>
      rw [startsSignature] at h
      split at h
      · next hupper =>
        rw [Bool.and_eq_true, startsParameters_iff] at h
        have hnamed := NamedParameters.of_named hupper
          (fun d hd => List.mem_takeWhile_imp hd) h.1 h.2
        rwa [List.takeWhile_append_dropWhile] at hnamed
      · obtain ⟨type, htype, hany⟩ := List.any_eq_true.mp h
        cases hdrop : dropWord type (c :: rest) with
        | none => simp [hdrop] at hany
        | some after =>
          rw [hdrop] at hany
          exact ⟨type.toList, after, .primitive htype, startsNamedParameters_iff.mp hany,
            dropWord_eq_some.mp hdrop⟩
  · rintro ⟨type, rest, htype, hrest, rfl⟩
    cases htype with
    | primitive htype => exact startsSignature_primitive htype hrest
    | named hupper hmore => exact startsSignature_named hupper hmore hrest

/-- A line declares a method exactly if it can be taken apart as the grammar says. -/
theorem declaresMethod_iff {line : String} :
    declaresMethod line = true ↔ IsDeclaration (trimmed line.toList) := by
  rw [declaresMethod]
  constructor
  · intro h
    obtain ⟨type, rest, htype, hrest, hbehind⟩ := startsSignature_iff.mp h
    obtain ⟨front, hfront, htext⟩ :=
      dropModifiersFrom_shape (trimmed line.toList).length (trimmed line.toList)
    exact ⟨front, type, rest, hfront, htype, hrest, by rw [← hbehind]; exact htext⟩
  · rintro ⟨front, type, rest, hfront, htype, hrest, htext⟩
    have hdrop : dropModifiers (front ++ (type ++ rest)) = type ++ rest :=
      dropModifiersFrom_append hfront (htype.startsBehind rest) (by simp)
    rw [htext, hdrop]
    exact startsSignature_iff.mpr ⟨type, rest, htype, hrest, rfl⟩

/-! ## In front of the first parenthesis -/

theorem Modifying.typeParts {front : List Char} (h : Modifying front) :
    ∀ c ∈ front, isTypePart c = true := by
  induction h with
  | done => simp
  | blank hc _ ih => exact List.forall_mem_cons.mpr ⟨isTypePart_of_isBlank hc, ih⟩
  | word hword _ ih =>
    have hall : ∀ word ∈ modifiers, word.toList.all isTypePart = true := by decide
    exact List.forall_mem_append.mpr ⟨List.all_eq_true.mp (hall _ hword), ih⟩

theorem ReturnType.typeParts {type : List Char} (h : ReturnType type) :
    ∀ c ∈ type, isTypePart c = true := by
  cases h with
  | primitive htype =>
    have hall : ∀ type ∈ primitiveTypes, type.toList.all isTypePart = true := by decide
    exact List.all_eq_true.mp (hall _ htype)
  | named hupper hmore =>
    exact List.forall_mem_cons.mpr ⟨isTypePart_of_isAsciiWord (isAsciiWord_of_isUpper hupper), hmore⟩

/-- Up to its first parenthesis a declaration is made of the characters of types, whichever way it is
taken apart. -/
theorem IsDeclaration.front {text : List Char} (h : IsDeclaration text) :
    ∃ before after, text = before ++ '(' :: after ∧ (∀ c ∈ before, isTypePart c = true) ∧
      ')' ∈ after := by
  obtain ⟨front, type, _, hfront, htype, hnamed, rfl⟩ := h
  obtain ⟨gap, name, blanks, _, _, hgap, hname, hblanks, hrest, rfl⟩ := hnamed
  obtain ⟨parameters, behind, _, rfl⟩ := hrest
  obtain ⟨_, _, _, _, hall⟩ := isName_iff.mp hname
  refine ⟨front ++ (type ++ (gap ++ (name ++ blanks))), parameters ++ ')' :: behind, by simp, ?_,
    by simp⟩
  simp only [List.forall_mem_append]
  exact ⟨hfront.typeParts, htype.typeParts, fun c hc => isTypePart_of_isBlank (hgap c hc),
    fun c hc => isTypePart_of_isAsciiWord (hall c hc), fun c hc => isTypePart_of_isBlank (hblanks c hc)⟩

theorem not_mem_of_typeParts {text : List Char} {mark : Char} (h : ∀ c ∈ text, isTypePart c = true)
    (hmark : isTypePart mark = false) : mark ∉ text :=
  not_mem_of_class h hmark

/-! ## Calls at the first parenthesis -/

/-- A line with an opener that starts where a word begins and ends with the first parenthesis. -/
def OpensFirst (text : List Char) : Prop :=
  ∃ before after front opener, text = before ++ '(' :: after ∧ '(' ∉ before ∧
    before ++ ['('] = front ++ opener ∧ IsOpener opener ∧ ∀ c ∈ front.getLast?, isWord c = false

theorem IsOpener.dot_mem {opener : List Char} (h : IsOpener opener) : '.' ∈ opener := by
  rcases h with ⟨_, _, _, ⟨front, back, rest, _, _, _, rfl⟩, rfl⟩ |
    ⟨_, _, _, ⟨front, back, rest, _, _, _, rfl⟩, rfl⟩ <;> simp

theorem OpensFirst.opensCall {line : String} (h : OpensFirst line.toList) : opensCall line = true := by
  obtain ⟨before, after, front, opener, htext, _, hsplit, hopener, hfront⟩ := h
  have hline : line.toList = front ++ (opener ++ after) := by
    rw [htext, ← List.append_assoc, ← hsplit]
    simp
  exact opensCall_iff_isOpener.mpr ⟨front, opener, after, hline, hopener, hfront⟩

/-- The dot of the opener stands before the first parenthesis, where a declaration has none. -/
theorem OpensFirst.not_declaresMethod {line : String} (h : OpensFirst line.toList) :
    declaresMethod line = false := by
  rw [Bool.eq_false_iff]
  intro hdeclares
  obtain ⟨before, after, front, opener, htext, hfirst, hsplit, hopener, _⟩ := h
  obtain ⟨before', after', htrimmed, hparts, _⟩ := (declaresMethod_iff.mp hdeclares).front
  obtain ⟨lead, trail, hlead, _, hline⟩ := trimmed_shape line.toList
  have hparts' : ∀ c ∈ lead ++ before', isTypePart c = true :=
    List.forall_mem_append.mpr ⟨fun c hc => isTypePart_of_isBlank (hlead c hc), hparts⟩
  have hline' : line.toList = (lead ++ before') ++ '(' :: (after' ++ trail) := by
    rw [hline, htrimmed]
    simp
  have hunopened : ∀ {text : List Char}, '(' ∉ text → ∀ c ∈ text, (c != '(') = true := by
    intro text hnone c hc
    rw [bne_iff_ne]
    rintro rfl
    exact hnone hc
  have hsame : before = lead ++ before' :=
    (split_unique (· != '(') (hunopened hfirst) (by simp)
      (hunopened (not_mem_of_typeParts hparts' (by decide))) (by simp) (htext.symm.trans hline')).1
  have hdot : '.' ∈ before := by
    have hmem : '.' ∈ before ++ ['('] := hsplit ▸ List.mem_append_right front hopener.dot_mem
    simpa using hmem
  exact not_mem_of_typeParts hparts' (by decide) (hsame ▸ hdot)

/-! ## The lines that a walk reaches -/

/-- The lines that a walk over a file looks at on their own: the first one, the one behind a line that
opens no statement, and the one behind the last line of a statement. -/
inductive Reaches (lines : List String) : Nat → Prop
  | start : Reaches lines 0
  | skip {index : Nat} {line : String} : Reaches lines index → lines[index]? = some line →
      opensStatement line = false → Reaches lines (index + 1)
  | past {index last : Nat} {line : String} : Reaches lines index → lines[index]? = some line →
      opensStatement line = true → statementEnd? lines index = some last → Reaches lines (last + 1)

variable {lines : List String} (file : String) (buffers : Buffers)

theorem statementsFrom_inside (number inside : Nat) (lines : List String) :
    statementsFrom file buffers number inside lines =
      statementsFrom file buffers (number + inside) 0 (lines.drop inside) := by
  induction inside generalizing number lines with
  | zero => rfl
  | succ inside ih =>
    cases lines with
    | nil => simp [statementsFrom]
    | cons line rest =>
      rw [statementsFrom, ih, List.drop_succ_cons, Nat.add_right_comm, Nat.add_assoc]

theorem drop_eq_cons_of_getElem? {index : Nat} {line : String} (h : lines[index]? = some line) :
    lines.drop index = line :: lines.drop (index + 1) := by
  obtain ⟨hindex, rfl⟩ := List.getElem?_eq_some_iff.mp h
  exact List.drop_eq_getElem_cons hindex

/-- What is emitted at a line that opens a statement, and where the walk goes on. -/
theorem statementsFrom_at {index : Nat} {line : String} (hline : lines[index]? = some line)
    (hopens : opensStatement line = true) :
    ∃ last, IsSpan lines ⟨index, last⟩ ∧
      statementsFrom file buffers (index + 1) 0 (lines.drop index) =
        Span.statement ⟨index, last⟩ file buffers lines ::
          statementsFrom file buffers (last + 2) 0 (lines.drop (last + 1)) := by
  have hrest := drop_eq_cons_of_getElem? hline
  refine ⟨index + furtherLines (line :: lines.drop (index + 1)), isSpan_of_opens hrest hopens, ?_⟩
  rw [hrest, statementsFrom_of_opens hopens, statementsFrom_inside, List.drop_drop, Span.statement,
    taken_of_drop hrest]
  generalize furtherLines (line :: lines.drop (index + 1)) = further
  rw [Nat.add_right_comm index 1 further, Nat.add_assoc index 1 1, Nat.add_right_comm index 2 further]
  rfl

/-- When a walk reaches a line, what it still emits is what the lines from there on make. -/
theorem Reaches.statements_eq {index : Nat} (h : Reaches lines index) :
    ∃ earlier, statements file buffers lines =
      earlier ++ statementsFrom file buffers (index + 1) 0 (lines.drop index) := by
  induction h with
  | start => exact ⟨[], rfl⟩
  | skip _ hline hopens ih =>
    obtain ⟨earlier, hearlier⟩ := ih
    refine ⟨earlier, ?_⟩
    rw [hearlier, drop_eq_cons_of_getElem? hline, statementsFrom_of_not_opens hopens]
  | @past index last _ _ hline hopens hend ih =>
    obtain ⟨earlier, hearlier⟩ := ih
    obtain ⟨last', hspan, hat⟩ := statementsFrom_at file buffers hline hopens
    obtain rfl : last' = last := Option.some.inj (hspan.ends.symm.trans hend)
    refine ⟨earlier ++ [Span.statement ⟨index, last'⟩ file buffers lines], ?_⟩
    rw [hearlier, hat, List.append_assoc, List.singleton_append]

/-- A line that declares a method has a parenthesis, no dot before the first one, and a closing one
behind it. So a line with a call at its first parenthesis declares none. Whatever file it is a line of,
it is in a statement of that file, and if the walk reaches the line then that statement starts there. -/
theorem declaresMethod_spares_calls (line : String) :
    (declaresMethod line = true → ∃ before after, trimmed line.toList = before ++ '(' :: after ∧
      '(' ∉ before ∧ '.' ∉ before ∧ ')' ∈ after) ∧
    (OpensFirst line.toList → declaresMethod line = false ∧ opensCall line = true ∧
      ∀ file buffers (lines : List String) index, lines[index]? = some line →
        ∃ span, IsSpan lines span ∧ span.first ≤ index ∧ index ≤ span.last ∧
          span.statement file buffers lines ∈ statements file buffers lines ∧
          (Reaches lines index → span.first = index)) := by
  refine ⟨fun h => ?_, fun h => ⟨h.not_declaresMethod, h.opensCall, ?_⟩⟩
  · obtain ⟨before, after, htext, hparts, hclose⟩ := (declaresMethod_iff.mp h).front
    exact ⟨before, after, htext, not_mem_of_typeParts hparts (by decide),
      not_mem_of_typeParts hparts (by decide), hclose⟩
  · intro file buffers lines index hline
    by_cases hreaches : Reaches lines index
    · have hopens : opensStatement line = true := by
        rw [opensStatement, h.opensCall, h.not_declaresMethod]
        rfl
      obtain ⟨earlier, hearlier⟩ := hreaches.statements_eq file buffers
      obtain ⟨last, hspan, hat⟩ := statementsFrom_at file buffers hline hopens
      refine ⟨⟨index, last⟩, hspan, Nat.le_refl _, hspan.ordered, ?_, fun _ => rfl⟩
      rw [hearlier, hat]
      simp
    · obtain ⟨spans, hspans, hstatements⟩ := statementsFrom_spans file buffers lines 0 0
      obtain ⟨span, hspan, hfirst, hlast⟩ :=
        hspans.covers index line (Nat.zero_le _) hline h.opensCall h.not_declaresMethod
      refine ⟨span, hspans.isSpan span hspan, hfirst, hlast, ?_, fun h => absurd h hreaches⟩
      have hall : statements file buffers lines =
          spans.map fun span => span.statement file buffers lines := hstatements
      rw [hall]
      exact List.mem_map_of_mem hspan

/-- A call behind the front of a declaration: only the dot tells them apart. -/
theorem declaresMethod_spares_calls_behind_front :
    declaresMethod "public Result LOG (ssn)" = true ∧
    declaresMethod "public Result LOG . info (ssn)" = false ∧
    ∃ span, IsSpan ["int n;", "public Result LOG . info (ssn)"] span ∧ span.first = 1 ∧
      span.statement "A.java" [] ["int n;", "public Result LOG . info (ssn)"] ∈
        statements "A.java" [] ["int n;", "public Result LOG . info (ssn)"] := by
  have hword : ∀ c ∈ "public Result ".toList.getLast?, isWord c = false := by
    intro c hc
    obtain rfl : ' ' = c := Option.some.inj hc
    exact isWord_of_isBlank (by decide)
  have hopens : OpensFirst "public Result LOG . info (ssn)".toList :=
    ⟨"public Result LOG . info ".toList, "ssn)".toList, "public Result ".toList,
      "LOG . info (".toList, by decide, by decide, by decide, by decide +kernel, hword⟩
  have hreaches : Reaches ["int n;", "public Result LOG . info (ssn)"] 1 :=
    .skip .start rfl (by decide +kernel)
  obtain ⟨hno, _, hall⟩ := (declaresMethod_spares_calls "public Result LOG . info (ssn)").2 hopens
  obtain ⟨span, hspan, _, _, hmem, hfirst⟩ :=
    hall "A.java" [] ["int n;", "public Result LOG . info (ssn)"] 1 rfl
  exact ⟨by decide +kernel, hno, span, hspan, hfirst hreaches, hmem⟩

end LogAudit.Source
