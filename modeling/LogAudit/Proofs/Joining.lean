import LogAudit.Proofs.Phases
import LogAudit.Proofs.Segments

/-! # Files put together

A file is put in front of another one. Buffers are tracked over both, so that a statement of either one
can see more appended arguments than before, but never fewer. If the first file ends with a semicolon,
its last statement does not reach into the second.

* `grows_of_infix`: tracking more lines leaves out no buffer and no argument.
* `detectLines_append`: what is detected in two files is detected in the file that they make up. -/

namespace LogAudit
set_option autoImplicit false

open Source

/-! ## Buffers -/

/-- Every buffer of the first list is in the second one, with all of its arguments. -/
def Source.Buffers.Grows (less more : Buffers) : Prop :=
  ∀ buffer ∈ less, ∃ other ∈ more, other.name = buffer.name ∧ buffer.history ⊆ other.history

theorem mem_trackBuffers_iff {lines : List String} {buffer : Buffer} :
    buffer ∈ trackBuffers lines ↔
      buffer.name ∈ lines.flatMap declaredBuffers ∧ buffer.history = historyOf lines buffer.name := by
  rw [trackBuffers_eq, List.mem_map]
  constructor
  · rintro ⟨name, hname, rfl⟩
    exact ⟨List.mem_eraseDups.mp hname, rfl⟩
  · rintro ⟨hname, hhistory⟩
    exact ⟨buffer.name, List.mem_eraseDups.mpr hname, by rw [← hhistory]⟩

theorem dropWhile_subset_of_infix {α : Type} {p : α → Bool} {less more : List α} (h : less <:+: more) :
    less.dropWhile p ⊆ more.dropWhile p := by
  obtain ⟨before, after, rfl⟩ := h
  intro x hx
  have hmiddle : x ∈ (less ++ after).dropWhile p := by
    rw [List.dropWhile_append]
    split
    · next hempty => simp [List.isEmpty_iff.mp hempty] at hx
    · exact List.mem_append_left _ hx
  rw [List.append_assoc, List.dropWhile_append]
  split
  · exact hmiddle
  · exact List.mem_append_right _ (List.dropWhile_subset p hmiddle)

theorem historyOf_subset {less more : List String} (h : less <:+: more) (name : String) :
    historyOf less name ⊆ historyOf more name := by
  intro argument hargument
  obtain ⟨line, hline, hadded⟩ := List.mem_flatMap.mp hargument
  exact List.mem_flatMap.mpr ⟨line, dropWhile_subset_of_infix h hline, hadded⟩

theorem grows_of_infix {less more : List String} (h : less <:+: more) :
    (trackBuffers less).Grows (trackBuffers more) := by
  intro buffer hbuffer
  obtain ⟨hname, hhistory⟩ := mem_trackBuffers_iff.mp hbuffer
  have hdeclared : buffer.name ∈ more.flatMap declaredBuffers := by
    obtain ⟨line, hline, hdeclares⟩ := List.mem_flatMap.mp hname
    exact List.mem_flatMap.mpr ⟨line, h.subset hline, hdeclares⟩
  refine ⟨⟨buffer.name, historyOf more buffer.name⟩,
    mem_trackBuffers_iff.mpr ⟨hdeclared, rfl⟩, rfl, ?_⟩
  rw [hhistory]
  exact historyOf_subset h buffer.name

theorem names_tracing_subset {less more : Buffers} (h : less.Grows more) (statement : Statement) :
    Strategy.bufferTraces.names (statement.tracing less) ⊆
      Strategy.bufferTraces.names (statement.tracing more) := by
  intro name hname
  obtain ⟨buffer, hbuffer, hname⟩ := List.mem_flatMap.mp hname
  obtain ⟨argument, hargument, hname⟩ := List.mem_flatMap.mp hname
  obtain ⟨hless, hoccurs⟩ := List.mem_filter.mp hbuffer
  obtain ⟨other, hother, hsame, hhistory⟩ := h buffer hless
  have hrelated : other ∈ more.related statement.text :=
    List.mem_filter.mpr ⟨hother, by rw [hsame]; exact hoccurs⟩
  exact List.mem_flatMap.mpr ⟨other, hrelated,
    List.mem_flatMap.mpr ⟨argument, hhistory hargument, hname⟩⟩

/-! ## Detections -/

/-- A detection a number of lines further down. -/
def Detection.movedDown (count : Nat) (detection : Detection) : Detection :=
  { detection with line := detection.line + count }

theorem detect_movedDown (keywords objectTypes : List Rule) (count : Nat) (statement : Statement) :
    detect keywords objectTypes (statement.movedDown count) =
      (detect keywords objectTypes statement).map (Detection.movedDown count) := by
  rw [detect, detect, detectWith, detectWith, List.map_map]
  rfl

theorem subperm_flatMap {α β : Type} {f g : α → List β} (items : List α)
    (h : ∀ item ∈ items, (f item).Subperm (g item)) :
    (items.flatMap f).Subperm (items.flatMap g) := by
  induction items with
  | nil => exact List.nil_subperm
  | cons item items ih =>
    rw [List.flatMap_cons, List.flatMap_cons]
    exact (h item List.mem_cons_self).append
      (ih fun other hother => h other (List.mem_cons_of_mem _ hother))

theorem detect_tracing_subperm {less more : Buffers} (h : less.Grows more)
    (keywords objectTypes : List Rule) (file : String) (lines : List String) :
    ((statements file less lines).flatMap (detect keywords objectTypes)).Subperm
      ((statements file more lines).flatMap (detect keywords objectTypes)) := by
  have hbare : ∀ buffers, statements file buffers lines =
      (statements file [] lines).map (Statement.tracing buffers) := fun _ => statementsFrom_tracing
  rw [hbare less, hbare more, List.flatMap_map, List.flatMap_map]
  exact subperm_flatMap _ fun statement _ => detect_subperm (names_tracing_subset h statement)

/-- Whatever is detected in two files, the first of which ends with a semicolon, is detected in the file
that they make up, at least as many times. The second file is moved down by the length of the first. -/
theorem detectLines_append (rules : RuleSet) (file : String) (first second : List String)
    (hends : ∀ line ∈ first.getLast?, endsStatement line = true) :
    (detectLines rules file first ++
        (detectLines rules file second).map (Detection.movedDown first.length)).Subperm
      (detectLines rules file (first ++ second)) := by
  have hbuffers : statements file (trackBuffers (first ++ second)) (first ++ second) =
      statements file (trackBuffers (first ++ second)) first ++
        (statements file (trackBuffers (first ++ second)) second).map
          (Statement.movedDown first.length) := by
    rw [statements, statementsFrom_append hends (Nat.zero_le _), statementsFrom_movedDown]
    rfl
  have hfirst : (trackBuffers first).Grows (trackBuffers (first ++ second)) :=
    grows_of_infix (List.infix_append' [] first second)
  have hsecond : (trackBuffers second).Grows (trackBuffers (first ++ second)) :=
    grows_of_infix (List.suffix_append first second).isInfix
  rw [detectLines, detectLines, detectLines, fileStatements, fileStatements, fileStatements, hbuffers,
    List.flatMap_append, List.flatMap_map]
  simp only [detect_movedDown]
  rw [← List.map_flatMap]
  exact (detect_tracing_subperm hfirst _ _ _ _).append
    (subperm_map (detect_tracing_subperm hsecond _ _ _ _) _)

/-- A password that the second file appends to a buffer of the first comes to light beside the token
that each of them logs. -/
theorem detectLines_append_buffer :
    detectLines { keywords := [.literal "password", .literal "token"] } "A.java"
        ["StringBuilder b = new StringBuilder();", "log.info(b + token);"] =
      [⟨"A.java", 2, "token", "log.info(b + token);"⟩] ∧
    detectLines { keywords := [.literal "password", .literal "token"] } "A.java"
        ["b.append(password);", "log.info(token);"] =
      [⟨"A.java", 2, "token", "log.info(token);"⟩] ∧
    List.Subperm
      [⟨"A.java", 2, "token", "log.info(b + token);"⟩, ⟨"A.java", 4, "token", "log.info(token);"⟩]
      (detectLines { keywords := [.literal "password", .literal "token"] } "A.java"
        ["StringBuilder b = new StringBuilder();", "log.info(b + token);", "b.append(password);",
          "log.info(token);"]) ∧
    (detectLines { keywords := [.literal "password", .literal "token"] } "A.java"
        ["StringBuilder b = new StringBuilder();", "log.info(b + token);", "b.append(password);",
          "log.info(token);"]).length = 3 := by
  have hfirst : detectLines { keywords := [.literal "password", .literal "token"] } "A.java"
      ["StringBuilder b = new StringBuilder();", "log.info(b + token);"] =
      [⟨"A.java", 2, "token", "log.info(b + token);"⟩] := by decide +kernel
  have hsecond : detectLines { keywords := [.literal "password", .literal "token"] } "A.java"
      ["b.append(password);", "log.info(token);"] =
      [⟨"A.java", 2, "token", "log.info(token);"⟩] := by decide +kernel
  have happend := detectLines_append { keywords := [.literal "password", .literal "token"] } "A.java"
    ["StringBuilder b = new StringBuilder();", "log.info(b + token);"]
    ["b.append(password);", "log.info(token);"] (by decide +kernel)
  rw [hfirst, hsecond] at happend
  exact ⟨hfirst, hsecond, happend, by decide +kernel⟩

end LogAudit
