import LogAudit.Proofs.Layout

/-! # Buffers told by the shape of their lines

Tracking goes through a file with two searches, for declarations and for calls of `append`. Both look for
a fixed shape from left to right. Once it is settled what they find in a line, the buffers of a file are
told line by line: which names there are, and which arguments each of them gets.

* `Finds`: the finds of a shape in a text, from left to right and without overlap.
* `findAll_eq_iff`: a search gives the finds of the shape that its reader knows.
* `knows_readDeclaration`, `knows_readAppend`, `receives_iff`: the shapes looked for in a line.
* `trackBuffers_reference`: the names of the buffers of a file and their histories. -/

namespace LogAudit.Text
set_option autoImplicit false

variable {α : Type} {shape : List Char → α → List Char → Prop} {read : Reader α}

/-! ## Searches -/

/-- The finds of a shape in a text, from left to right: behind a find the search goes on, and a character
is passed only if nothing of the shape begins with it. In `shape text value rest`, the `rest` of the text
stands behind what gives the `value`. -/
inductive Finds (shape : List Char → α → List Char → Prop) : List Char → List α → Prop
  | done : Finds shape [] []
  | found {text rest : List Char} {value : α} {values : List α} :
      shape text value rest → Finds shape rest values → Finds shape text (value :: values)
  | passed {c : Char} {text : List Char} {values : List α} :
      (∀ value rest, ¬ shape (c :: text) value rest) → Finds shape text values →
      Finds shape (c :: text) values

/-- A reader that finds a shape wherever a text begins with it. A find takes at least one character. -/
structure Knows (read : Reader α) (shape : List Char → α → List Char → Prop) : Prop where
  reads : ∀ text value rest, read text = some (value, rest) ↔ shape text value rest
  takes : ∀ text value rest, shape text value rest → ∃ taken, taken ≠ [] ∧ text = taken ++ rest

theorem findAll_of_found {taken rest : List Char} {value : α} (hne : taken ≠ [])
    (h : read (taken ++ rest) = some (value, rest)) :
    findAll read (taken ++ rest) = value :: findAll read rest :=
  sweepFrom_of_found hne h

theorem findAll_of_none {c : Char} {text : List Char} (h : read (c :: text) = none) :
    findAll read (c :: text) = findAll read text :=
  sweepFrom_of_none h

theorem Knows.finds_findAll (h : Knows read shape) (text : List Char) :
    Finds shape text (findAll read text) := by
  -- behind a find the rest is shorter, but it need not be the tail
  induction hlength : text.length using Nat.strong_induction_on generalizing text with
  | _ length ih =>
    cases text with
    | nil => exact .done
    | cons c text =>
      cases hread : read (c :: text) with
      | none =>
        have hnone : ∀ value rest, ¬ shape (c :: text) value rest := by
          intro value rest hshape
          rw [(h.reads _ _ _).mpr hshape] at hread
          simp at hread
        rw [findAll_of_none hread]
        exact .passed hnone (ih text.length (by simp [← hlength]) text rfl)
      | some found =>
        obtain ⟨value, rest⟩ := found
        have hshape := (h.reads _ _ _).mp hread
        obtain ⟨taken, hne, htext⟩ := h.takes _ _ _ hshape
        have hshort : rest.length < length := by
          have htaken := List.length_pos_of_ne_nil hne
          rw [← hlength, htext, List.length_append]
          omega
        rw [htext] at hread hshape ⊢
        rw [findAll_of_found hne hread]
        exact .found hshape (ih rest.length hshort rest rfl)

theorem Knows.eq_findAll (h : Knows read shape) {text : List Char} {values : List α}
    (hfinds : Finds shape text values) : findAll read text = values := by
  induction hfinds with
  | done => rfl
  | found hshape _ ih =>
    obtain ⟨taken, hne, rfl⟩ := h.takes _ _ _ hshape
    rw [findAll_of_found hne ((h.reads _ _ _).mpr hshape), ih]
  | @passed c text values hnone _ ih =>
    have hread : read (c :: text) = none := by
      rw [Option.eq_none_iff_forall_ne_some]
      rintro ⟨value, rest⟩ hread
      exact hnone value rest ((h.reads _ _ _).mp hread)
    rw [findAll_of_none hread, ih]

theorem findAll_eq_iff (h : Knows read shape) {text : List Char} {values : List α} :
    findAll read text = values ↔ Finds shape text values :=
  ⟨fun hvalues => hvalues ▸ h.finds_findAll text, h.eq_findAll⟩

end LogAudit.Text

namespace LogAudit.Source
set_option autoImplicit false

open Text

/-! ## Shapes in a line -/

/-- A declaration of a buffer with an initial value, up to the equals sign. -/
def DeclaresAt (text : List Char) (name : String) (rest : List Char) : Prop :=
  isName name.toList = true ∧
    ∃ type gap blanks, type ∈ ["StringBuilder", "StringBuffer"] ∧
      gap ≠ [] ∧ AllBlank gap ∧ AllBlank blanks ∧
      text = type.toList ++ (gap ++ (name.toList ++ (blanks ++ '=' :: rest)))

/-- A call of `append` with its argument, up to the first closing parenthesis. -/
def AppendsAt (text argument rest : List Char) : Prop :=
  ∃ gap blanks, AllBlank gap ∧ AllBlank blanks ∧
    text = '.' :: (gap ++ ("append".toList ++ (blanks ++ '(' :: (argument ++ ')' :: rest)))) ∧
    argument ≠ [] ∧ ')' ∉ argument

theorem readSetName_of_shape {name : String} {blanks rest : List Char}
    (hname : isName name.toList = true) (hblanks : AllBlank blanks) :
    readSetName (name.toList ++ (blanks ++ '=' :: rest)) = some (name, rest) := by
  obtain ⟨c, more, hcons, hc, hword⟩ := isName_iff.mp hname
  have hstop : ∀ d ∈ (blanks ++ '=' :: rest).head?, isAsciiWord d = false := by
    cases blanks with
    | nil => simp; decide
    | cons b blanks => simpa using isAsciiWord_of_isBlank (hblanks b List.mem_cons_self)
  obtain ⟨htake, hdrop⟩ := split_unique isAsciiWord (fun _ => List.mem_takeWhile_imp) dropWhile_head
    hword hstop (List.takeWhile_append_dropWhile
      (p := isAsciiWord) (l := name.toList ++ (blanks ++ '=' :: rest)))
  have hstart : name.toList.head?.any isNameStart = true := by simp [hcons, hc]
  rw [readSetName, htake, hdrop, if_pos hstart, dropSpaced_append hblanks (by decide),
    String.ofList_toList]
  rfl

theorem readSetNameSpaced_of_shape {name : String} {gap blanks rest : List Char}
    (hname : isName name.toList = true) (hne : gap ≠ []) (hgap : AllBlank gap)
    (hblanks : AllBlank blanks) :
    readSetNameSpaced (gap ++ (name.toList ++ (blanks ++ '=' :: rest))) = some (name, rest) := by
  obtain ⟨b, gap, rfl⟩ := List.exists_cons_of_ne_nil hne
  obtain ⟨c, more, hcons, hc, -⟩ := isName_iff.mp hname
  have hspaced : (b :: gap ++ (name.toList ++ (blanks ++ '=' :: rest))).head?.any isBlank = true := by
    simpa using hgap b List.mem_cons_self
  have hhead : ∀ d ∈ (name.toList ++ (blanks ++ '=' :: rest)).head?, isBlank d = false := by
    rw [hcons]
    simpa using isBlank_of_isAsciiWord (isAsciiWord_iff.mpr (Or.inl hc))
  rw [readSetNameSpaced, if_pos hspaced, dropBlanks_padded hgap hhead, readSetName_of_shape hname hblanks]

theorem knows_readDeclaration : Knows readDeclaration DeclaresAt := by
  refine ⟨fun text name rest => ⟨readDeclaration_shape, ?_⟩, ?_⟩
  · rintro ⟨hname, type, gap, blanks, htype, hne, hgap, hblanks, rfl⟩
    have hset : readSetNameSpaced (gap ++ (name.toList ++ (blanks ++ '=' :: rest))) = some (name, rest) :=
      readSetNameSpaced_of_shape hname hne hgap hblanks
    rw [readDeclaration_eq]
    dsimp only
    simp only [List.mem_cons, List.not_mem_nil, or_false] at htype
    rcases htype with rfl | rfl
    · rw [List.findSome?_cons, dropWord_eq_some.mpr rfl, Option.bind_some, hset]
    · have hother : dropWord "StringBuilder" ("StringBuffer".toList ++
          (gap ++ (name.toList ++ (blanks ++ '=' :: rest)))) = none := rfl
      rw [List.findSome?_cons, hother, Option.bind_none, List.findSome?_cons,
        dropWord_eq_some.mpr rfl, Option.bind_some, hset]
  · rintro text name rest ⟨hname, type, gap, blanks, htype, hne, hgap, hblanks, rfl⟩
    exact ⟨type.toList ++ (gap ++ (name.toList ++ (blanks ++ ['=']))), by simp [hne], by simp⟩

theorem readArgument_of_shape {argument rest : List Char} (hne : argument ≠ [])
    (hfree : ')' ∉ argument) : readArgument (argument ++ ')' :: rest) = some (argument, rest) := by
  have hinside : ∀ c ∈ argument, (c != ')') = true := fun c hc =>
    bne_iff_ne.mpr (ne_of_mem_of_not_mem hc hfree)
  have htake : (argument ++ ')' :: rest).takeWhile (· != ')') = argument := by
    rw [List.takeWhile_append_of_pos hinside]
    simp
  have hdrop : (argument ++ ')' :: rest).dropWhile (· != ')') = ')' :: rest := by
    rw [List.dropWhile_append_of_pos hinside]
    simp
  obtain ⟨c, more, rfl⟩ := List.exists_cons_of_ne_nil hne
  simp only [readArgument, htake, hdrop]

theorem knows_readAppend : Knows readAppend AppendsAt := by
  refine ⟨fun text argument rest => ⟨readAppend_shape, ?_⟩, ?_⟩
  · rintro ⟨gap, blanks, hgap, hblanks, rfl, hne, hfree⟩
    have hword : dropBlanks (gap ++ ("append".toList ++ (blanks ++ '(' :: (argument ++ ')' :: rest)))) =
        "append".toList ++ (blanks ++ '(' :: (argument ++ ')' :: rest)) :=
      dropBlanks_padded hgap (by simp; decide)
    have hopen : readParenthesised (blanks ++ '(' :: (argument ++ ')' :: rest)) =
        some (argument, rest) := by
      rw [readParenthesised, dropSpaced_append hblanks (by decide)]
      exact readArgument_of_shape hne hfree
    have hdot : dropWord "." ('.' :: (gap ++ ("append".toList ++
        (blanks ++ '(' :: (argument ++ ')' :: rest))))) =
        some (gap ++ ("append".toList ++ (blanks ++ '(' :: (argument ++ ')' :: rest)))) := rfl
    rw [readAppend, hdot, Option.bind_some, hword, dropWord_eq_some.mpr rfl, Option.bind_some, hopen]
  · rintro text argument rest ⟨gap, blanks, -, -, rfl, -, -⟩
    exact ⟨'.' :: (gap ++ ("append".toList ++ (blanks ++ '(' :: (argument ++ [')'])))),
      by simp, by simp⟩

theorem receivesFrom_of_shape {call before after : List Char} {inWord : Bool} (hcall : call ≠ [])
    (hfirst : before = [] → inWord = false) (hlast : ∀ c ∈ before.getLast?, isAsciiWord c = false) :
    receivesFrom call inWord (before ++ (call ++ after)) = true := by
  induction before generalizing inWord with
  | nil =>
    obtain ⟨c, call, rfl⟩ := List.exists_cons_of_ne_nil hcall
    simp [receivesFrom, hfirst rfl]
  | cons c before ih =>
    rw [List.cons_append, receivesFrom, Bool.or_eq_true]
    right
    cases before with
    | nil => exact ih (fun _ => hlast c rfl) (by simp)
    | cons d before => exact ih (by simp) (by simpa [List.getLast?_cons_cons] using hlast)

theorem receives_iff {name line : String} : receives name line = true ↔ CallsAppend name line := by
  refine ⟨callsAppend_of_receives, ?_⟩
  rintro ⟨before, after, hline, hlast⟩
  rw [receives, hline]
  exact receivesFrom_of_shape (by simp) (fun _ => rfl) hlast

instance (name line : String) : Decidable (CallsAppend name line) :=
  decidable_of_iff _ receives_iff

/-! ## Lines -/

theorem declaredBuffers_eq_iff {line : String} {names : List String} :
    declaredBuffers line = names ↔ Finds DeclaresAt line.toList names :=
  findAll_eq_iff knows_readDeclaration

theorem appendArguments_eq_iff {line : String} {arguments : List String} :
    appendArguments line = arguments ↔ Finds AppendsAt line.toList (arguments.map String.toList) := by
  rw [← findAll_eq_iff knows_readAppend, appendArguments]
  constructor
  · rintro rfl
    simp [Function.comp_def]
  · intro h
    rw [h]
    simp [Function.comp_def]

/-! ## Files -/

/-- The lines of a file from the first one on that declares a buffer. -/
theorem exists_declaring {lines : List String} {name : String}
    (h : name ∈ lines.flatMap declaredBuffers) :
    ∃ earlier declaring later, lines = earlier ++ declaring :: later ∧
      (∀ line ∈ earlier, name ∉ declaredBuffers line) ∧ name ∈ declaredBuffers declaring ∧
      historyOf lines name = (declaring :: later).flatMap (addedBy name) := by
  obtain ⟨declaring, later, hdrop⟩ := List.exists_cons_of_ne_nil
    (mt dropWhile_undeclared.mp (not_not.mpr h))
  have hsplit := List.takeWhile_append_dropWhile
    (p := fun line => !(declaredBuffers line).contains name) (l := lines)
  have hhead := dropWhile_head declaring (by rw [hdrop]; rfl)
  rw [hdrop] at hsplit
  refine ⟨_, declaring, later, hsplit.symm, fun line hline => ?_, by simpa using hhead, ?_⟩
  · simpa using List.mem_takeWhile_imp hline
  · rw [historyOf, hdrop]

/-- The arguments of the lines that append to a buffer. -/
theorem flatMap_addedBy (lines : List String) (name : String) :
    lines.flatMap (addedBy name) =
      (lines.filter fun line => decide (CallsAppend name line)).flatMap appendArguments := by
  induction lines with
  | nil => rfl
  | cons line lines ih =>
    by_cases h : CallsAppend name line
    · simp [addedBy, receives_iff.mpr h, h, ih]
    · simp [addedBy, receives_iff, h, ih]

/-- The buffers of a file. Their names are the names found in declarations, each once, in the order in
which they are first found. The history of a buffer holds the arguments found on the lines with a call of
`append` on the buffer, from the first line on that declares it, in order; so earlier lines add nothing,
and neither do later declarations or calls on other buffers by themselves. An argument is not empty and
goes from the parenthesis of a call of `append` on its line to the first closing one. -/
theorem trackBuffers_reference (lines : List String) :
    (∀ line names, declaredBuffers line = names ↔ Finds DeclaresAt line.toList names) ∧
    (∀ line arguments, appendArguments line = arguments ↔
      Finds AppendsAt line.toList (arguments.map String.toList)) ∧
    (trackBuffers lines).map (·.name) = (lines.flatMap declaredBuffers).eraseDups ∧
    ∀ buffer ∈ trackBuffers lines, ∃ earlier declaring later,
      lines = earlier ++ declaring :: later ∧
      (∀ line ∈ earlier, buffer.name ∉ declaredBuffers line) ∧
      buffer.name ∈ declaredBuffers declaring ∧
      buffer.history = ((declaring :: later).filter fun line =>
        decide (CallsAppend buffer.name line)).flatMap appendArguments ∧
      ∀ argument ∈ buffer.history, ∃ line ∈ declaring :: later,
        CallsAppend buffer.name line ∧ AppendsArgument argument line := by
  refine ⟨fun _ _ => declaredBuffers_eq_iff, fun _ _ => appendArguments_eq_iff, ?_, ?_⟩
  · rw [trackBuffers_eq, List.map_map]
    exact List.map_id' _
  · intro buffer hbuffer
    rw [trackBuffers_eq] at hbuffer
    obtain ⟨name, hname, rfl⟩ := List.mem_map.mp hbuffer
    obtain ⟨earlier, declaring, later, hlines, hearlier, hdeclares, hhistory⟩ :=
      exists_declaring (List.mem_eraseDups.mp hname)
    dsimp only
    rw [hhistory, flatMap_addedBy]
    refine ⟨earlier, declaring, later, hlines, hearlier, hdeclares, rfl, fun argument hargument => ?_⟩
    obtain ⟨line, hline, happends⟩ := List.mem_flatMap.mp hargument
    obtain ⟨hmem, hcalls⟩ := List.mem_filter.mp hline
    exact ⟨line, hmem, of_decide_eq_true hcalls, appendsArgument_of_mem happends⟩

end LogAudit.Source
