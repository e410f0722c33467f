import LogAudit.Proofs.Names
import LogAudit.Source.Buffer

/-! # What the buffers of a file hold

Tracking reads a file line by line, but what it comes to can be said at once: every declared name in
order of its first declaration, with the arguments of the lines from there on that append to it.

* `declares_of_mem`, `callsAppend_of_receives`, `appendsArgument_of_mem`: what a line looks like on
  which something is found.
* `trackBuffers_eq`: the buffers of a file.
* `mem_history`: every argument in a history comes from a line of the file. -/

namespace LogAudit.Source
set_option autoImplicit false

open Text

/-! ## Lines -/

/-- A line on which a buffer of a given name is declared and set. -/
def DeclaresBuffer (name line : String) : Prop :=
  isName name.toList = true ∧
    ∃ before type gap blanks after, type ∈ ["StringBuilder", "StringBuffer"] ∧
      gap ≠ [] ∧ (∀ c ∈ gap, isBlank c = true) ∧ (∀ c ∈ blanks, isBlank c = true) ∧
      line.toList = before ++ (type.toList ++ (gap ++ (name.toList ++ (blanks ++ '=' :: after))))

/-- A line with a call of `append` on the variable of a given name, not in the middle of a word. -/
def CallsAppend (name line : String) : Prop :=
  ∃ before after, line.toList = before ++ ((name ++ ".append").toList ++ after) ∧
    ∀ c ∈ before.getLast?, isAsciiWord c = false

/-- A line with a call of `append` that has a given argument, up to the first closing parenthesis. -/
def AppendsArgument (argument line : String) : Prop :=
  ∃ before gap blanks after, (∀ c ∈ gap, isBlank c = true) ∧ (∀ c ∈ blanks, isBlank c = true) ∧
    line.toList = before ++ '.' ::
      (gap ++ ("append".toList ++ (blanks ++ '(' :: (argument.toList ++ ')' :: after)))) ∧
    argument.toList ≠ [] ∧ ')' ∉ argument.toList

theorem isName_takeWhile {text : List Char}
    (h : (text.takeWhile isAsciiWord).head?.any isNameStart = true) :
    isName (text.takeWhile isAsciiWord) = true := by
  rw [isName, h, Bool.true_and, List.all_eq_true]
  exact fun c hc => List.mem_takeWhile_imp hc

theorem readDeclaration_shape {text rest : List Char} {name : String}
    (h : readDeclaration text = some (name, rest)) :
    isName name.toList = true ∧
      ∃ type gap blanks, type ∈ ["StringBuilder", "StringBuffer"] ∧
        gap ≠ [] ∧ (∀ c ∈ gap, isBlank c = true) ∧ (∀ c ∈ blanks, isBlank c = true) ∧
        text = type.toList ++ (gap ++ (name.toList ++ (blanks ++ '=' :: rest))) := by
  obtain ⟨type, htype, h⟩ := List.exists_of_findSome?_eq_some h
  obtain ⟨behind, hword, h⟩ := Option.bind_eq_some_iff.mp h
  dsimp only at h
  split_ifs at h with hblank hstart
  obtain ⟨after, hset, hsame⟩ := Option.map_eq_some_iff.mp h
  obtain ⟨rfl, rfl⟩ := Prod.mk.injEq .. ▸ hsame
  obtain ⟨blanks, hblanks, hequal⟩ := dropSpaced_shape hset
  have hgap : behind.takeWhile isBlank ++ dropBlanks behind = behind :=
    List.takeWhile_append_dropWhile
  have hsplit : (dropBlanks behind).takeWhile isAsciiWord ++
      (dropBlanks behind).dropWhile isAsciiWord = dropBlanks behind :=
    List.takeWhile_append_dropWhile
  rw [String.toList_ofList]
  refine ⟨isName_takeWhile hstart, type, behind.takeWhile isBlank, blanks, htype, ?_,
    fun c hc => List.mem_takeWhile_imp hc, hblanks, ?_⟩
  · cases behind with
    | nil => simp at hblank
    | cons c behind =>
      have hc : isBlank c = true := by simpa using hblank
      simp [hc]
  · rw [← hequal, hsplit, hgap]
    exact dropWord_eq_some.mp hword

theorem declares_of_mem {name line : String} (h : name ∈ declaredBuffers line) :
    DeclaresBuffer name line := by
  obtain ⟨before, here, after, hline, hhere⟩ := mem_findAll h
  obtain ⟨hname, type, gap, blanks, htype, hne, hgap, hblanks, rfl⟩ := readDeclaration_shape hhere
  exact ⟨hname, before, type, gap, blanks, after, htype, hne, hgap, hblanks, hline⟩

theorem receivesFrom_shape {call text : List Char} {inWord : Bool}
    (h : receivesFrom call inWord text = true) :
    ∃ before after, text = before ++ (call ++ after) ∧
      (before = [] → inWord = false) ∧ ∀ c ∈ before.getLast?, isAsciiWord c = false := by
  induction text generalizing inWord with
  | nil => simp [receivesFrom] at h
  | cons c text ih =>
    simp only [receivesFrom, Bool.or_eq_true, Bool.and_eq_true, Bool.not_eq_true',
      List.isPrefixOf_iff_prefix] at h
    rcases h with ⟨hword, after, hhere⟩ | hlater
    · exact ⟨[], after, hhere.symm, fun _ => hword, by simp⟩
    · obtain ⟨before, after, rfl, hfirst, hlast⟩ := ih hlater
      refine ⟨c :: before, after, rfl, by simp, ?_⟩
      cases before with
      | nil => simpa using hfirst rfl
      | cons d before => simpa [List.getLast?_cons_cons] using hlast

theorem callsAppend_of_receives {name line : String} (h : receives name line = true) :
    CallsAppend name line := by
  obtain ⟨before, after, hline, _, hlast⟩ := receivesFrom_shape h
  exact ⟨before, after, hline, hlast⟩

theorem appendsArgument_of_mem {argument line : String} (h : argument ∈ appendArguments line) :
    AppendsArgument argument line := by
  obtain ⟨fragment, hfragment, hargument⟩ := List.mem_map.mp h
  obtain ⟨before, here, after, hline, hhere⟩ := mem_findAll hfragment
  obtain ⟨gap, blanks, hgap, hblanks, rfl, hne, hfree⟩ := readAppend_shape hhere
  obtain rfl : fragment = argument.toList := by rw [← hargument, String.toList_ofList]
  exact ⟨before, gap, blanks, after, hgap, hblanks, hline, hne, hfree⟩

/-! ## Histories -/

/-- The arguments that a line adds to the history of a buffer. -/
def addedBy (name line : String) : List String :=
  if receives name line then appendArguments line else []

/-- The arguments appended to a buffer from the line of its first declaration on. -/
def historyOf (lines : List String) (name : String) : List String :=
  (lines.dropWhile fun line => !(declaredBuffers line).contains name).flatMap (addedBy name)

theorem dropWhile_undeclared {lines : List String} {name : String} :
    (lines.dropWhile fun line => !(declaredBuffers line).contains name) = [] ↔
      name ∉ lines.flatMap declaredBuffers := by
  simp [List.dropWhile_eq_nil_iff]

theorem historyOf_undeclared {lines : List String} {name : String}
    (h : name ∉ lines.flatMap declaredBuffers) : historyOf lines name = [] := by
  rw [historyOf, dropWhile_undeclared.mpr h, List.flatMap_nil]

/-- One more line adds to the history of each buffer that it or an earlier line declares. -/
theorem historyOf_append_line {lines : List String} {line name : String}
    (h : name ∈ (lines ++ [line]).flatMap declaredBuffers) :
    historyOf (lines ++ [line]) name = historyOf lines name ++ addedBy name line := by
  rw [historyOf, historyOf, List.dropWhile_append]
  by_cases hearlier : name ∈ lines.flatMap declaredBuffers
  · have hsome := mt dropWhile_undeclared.mp (not_not.mpr hearlier)
    rw [if_neg (by simpa using hsome), List.flatMap_append, List.flatMap_singleton]
  · have hhere : name ∈ declaredBuffers line := by
      rw [List.flatMap_append, List.flatMap_singleton] at h
      exact (List.mem_append.mp h).resolve_left hearlier
    rw [dropWhile_undeclared.mpr hearlier]
    simp [hhere]

/-! ## Tracking -/

theorem declare_eq (buffers : Buffers) (name : String) :
    buffers.declare name =
      if name ∈ buffers.map (·.name) then buffers else buffers ++ [⟨name, []⟩] := by
  simp [Buffers.declare]

theorem foldl_declare (buffers : Buffers) (names : List String) :
    names.foldl Buffers.declare buffers =
      buffers ++ (names.removeAll (buffers.map (·.name))).eraseDups.map (⟨·, []⟩) := by
  induction names generalizing buffers with
  | nil => simp
  | cons name names ih =>
    rw [List.foldl_cons, ih, declare_eq, List.cons_removeAll]
    by_cases h : name ∈ buffers.map (·.name)
    · simp [h]
    · have hleft : names.removeAll ((buffers ++ [Buffer.mk name []]).map Buffer.name) =
          (names.removeAll (buffers.map (·.name))).filter (!· == name) := by
        simp only [List.removeAll, List.filter_filter]
        congr 1
        funext other
        simp [Bool.and_comm, beq_eq_decide]
      have hfresh : (buffers.map (·.name)).contains name = false := by simpa using h
      rw [if_neg h, hleft, if_pos hfresh, List.eraseDups_cons, List.map_cons, List.append_assoc,
        List.singleton_append]

theorem step_eq (buffers : Buffers) (line : String) :
    buffers.step line =
      ((declaredBuffers line).foldl Buffers.declare buffers).map fun buffer =>
        ⟨buffer.name, buffer.history ++ addedBy buffer.name line⟩ := by
  refine List.map_congr_left fun buffer _ => ?_
  by_cases h : receives buffer.name line = true <;> simp [addedBy, h]

/-- The buffers of a file: every declared name once, in order of its first declaration, with the
arguments appended to it from there on. -/
theorem trackBuffers_eq (lines : List String) :
    trackBuffers lines =
      (lines.flatMap declaredBuffers).eraseDups.map fun name => ⟨name, historyOf lines name⟩ := by
  induction lines using List.reverseRecOn with
  | nil => rfl
  | append_singleton lines line ih =>
    have hstep : trackBuffers (lines ++ [line]) = (trackBuffers lines).step line := by
      rw [trackBuffers, List.foldl_append]
      rfl
    have hnames : (trackBuffers lines).map (·.name) = (lines.flatMap declaredBuffers).eraseDups := by
      rw [ih, List.map_map]
      exact List.map_id' _
    have hnew : (declaredBuffers line).removeAll (lines.flatMap declaredBuffers).eraseDups =
        (declaredBuffers line).removeAll (lines.flatMap declaredBuffers) := by
      simp only [List.removeAll, List.elem_eq_contains, List.contains_eq_mem, List.mem_eraseDups]
    have hempty : ((declaredBuffers line).removeAll
          (lines.flatMap declaredBuffers)).eraseDups.map (Buffer.mk · []) =
        ((declaredBuffers line).removeAll (lines.flatMap declaredBuffers)).eraseDups.map
          fun name => ⟨name, historyOf lines name⟩ := by
      refine List.map_congr_left fun name hname => ?_
      have hfresh : name ∉ lines.flatMap declaredBuffers := by
        simp only [List.mem_eraseDups, List.removeAll, List.mem_filter] at hname
        simpa using hname.2
      rw [historyOf_undeclared hfresh]
    rw [hstep, step_eq, foldl_declare, hnames, hnew, hempty, ih, ← List.map_append,
      ← List.eraseDups_append, List.map_map]
    have hall : lines.flatMap declaredBuffers ++ declaredBuffers line =
        (lines ++ [line]).flatMap declaredBuffers := by
      rw [List.flatMap_append, List.flatMap_singleton]
    rw [hall]
    refine List.map_congr_left fun name hname => ?_
    rw [historyOf_append_line (List.mem_eraseDups.mp hname)]
    rfl

/-! ## Provenance -/

/-- From the first declaration of a name on, no line is reached before it. -/
theorem declared_up_to {lines front later : List String} {line name : String}
    (h : (lines.dropWhile fun line => !(declaredBuffers line).contains name) =
      front ++ line :: later) :
    ∃ declaration ∈ front ++ [line], name ∈ declaredBuffers declaration := by
  obtain ⟨declaration, rest, hcons⟩ : ∃ declaration rest, front ++ [line] = declaration :: rest :=
    List.exists_cons_of_ne_nil (by simp)
  have hhead : (front ++ line :: later).head? = some declaration := by
    rw [List.append_cons, hcons]
    rfl
  have hdeclares := dropWhile_head declaration (h ▸ hhead)
  exact ⟨declaration, by rw [hcons]; exact List.mem_cons_self, by simpa using hdeclares⟩

/-- Every argument in the history of a buffer comes from a line that appends to the buffer, and the
buffer is declared on that line or on an earlier one. -/
theorem mem_history {lines : List String} {buffer : Buffer} {argument : String}
    (hbuffer : buffer ∈ trackBuffers lines) (hargument : argument ∈ buffer.history) :
    ∃ earlier line later, lines = earlier ++ line :: later ∧
      (∃ declaration ∈ earlier ++ [line], DeclaresBuffer buffer.name declaration) ∧
      CallsAppend buffer.name line ∧ AppendsArgument argument line := by
  rw [trackBuffers_eq] at hbuffer
  obtain ⟨name, -, rfl⟩ := List.mem_map.mp hbuffer
  obtain ⟨line, hline, hadded⟩ := List.mem_flatMap.mp hargument
  obtain ⟨hreceives, happends⟩ : receives name line = true ∧ argument ∈ appendArguments line := by
    simpa [addedBy] using hadded
  obtain ⟨undeclared, hundeclared⟩ : ∃ undeclared, undeclared ++
      (lines.dropWhile fun line => !(declaredBuffers line).contains name) = lines :=
    ⟨_, List.takeWhile_append_dropWhile⟩
  obtain ⟨front, later, hsplit⟩ := List.append_of_mem hline
  obtain ⟨declaration, hdeclaration, hdeclares⟩ := declared_up_to hsplit
  rw [hsplit] at hundeclared
  refine ⟨undeclared ++ front, line, later, by rw [← hundeclared, List.append_assoc],
    ⟨declaration, ?_, declares_of_mem hdeclares⟩, callsAppend_of_receives hreceives,
    appendsArgument_of_mem happends⟩
  rw [List.append_assoc]
  exact List.mem_append_right undeclared hdeclaration

end LogAudit.Source
