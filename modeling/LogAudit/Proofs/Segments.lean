import LogAudit.Proofs.Statements

/-! # Statements divide a file

The statements of a file take spans of its lines. The spans come one behind the other and leave out no
line that opens a call, so that a file falls apart into statements and lines that open none.

* `IsSpan`: what a span of a statement looks like.
* `statementsFrom_spans`: the spans from a line on, by the recursion of the scan.
* `statements_segment`: the spans of a whole file.
* `statementsFrom_append`: behind a line that ends with a semicolon the scan starts anew.
* `statements_append`: what that means for the statements of a file. -/

namespace LogAudit.Source
set_option autoImplicit false

/-- A statement with the histories of the buffers it names. -/
def Statement.tracing (buffers : Buffers) (statement : Statement) : Statement :=
  { statement with traces := buffers.related statement.text }

variable {file : String} {buffers : Buffers} {number inside : Nat} {line : String}
  {lines rest first second : List String}

/-! ## The scan, case by case -/

theorem statementsFrom_of_opens (h : opensStatement line = true) :
    statementsFrom file buffers number 0 (line :: rest) =
      Statement.tracing buffers ⟨file, number,
        joinLines ((line :: rest).take (furtherLines (line :: rest) + 1)), []⟩ ::
      statementsFrom file buffers (number + 1) (furtherLines (line :: rest)) rest :=
  if_pos h

theorem statementsFrom_of_not_opens (h : opensStatement line = false) :
    statementsFrom file buffers number 0 (line :: rest) =
      statementsFrom file buffers (number + 1) 0 rest :=
  if_neg (by simp [h])

/-! ## Spans -/

/-- Consecutive lines of a file, by the indices of the first and the last one. -/
structure Span where
  first : Nat
  last : Nat
deriving Repr, DecidableEq

/-- The lines in a span. -/
def Span.taken (span : Span) (lines : List String) : List String :=
  (lines.drop span.first).take (span.last + 1 - span.first)

/-- The statement in a span: its line is counted from one, and its text has single spaces between the
trimmed lines. -/
def Span.statement (span : Span) (file : String) (buffers : Buffers) (lines : List String) :
    Statement :=
  let text := " ".intercalate ((span.taken lines).map Text.trim)
  ⟨file, span.first + 1, text, buffers.related text⟩

/-- A span that starts at a line that opens a call and declares no method, and goes on to the end of
that statement. -/
structure IsSpan (lines : List String) (span : Span) : Prop where
  ordered : span.first ≤ span.last
  inside : span.last < lines.length
  ends : statementEnd? lines span.first = some span.last
  opens : ∃ line, lines[span.first]? = some line ∧ opensCall line = true ∧
    declaresMethod line = false
  terminated : Terminated (span.taken lines) (lines.drop (span.last + 1))

theorem furtherLines_lt (h : lines ≠ []) : furtherLines lines < lines.length := by
  rw [furtherLines]
  cases hend : lines.findIdx? endsStatement with
  | none => exact List.length_pos_iff.mpr h
  | some further => exact (List.findIdx?_eq_some_iff_getElem.mp hend).1

theorem taken_of_drop {index : Nat} (h : lines.drop index = rest) (further : Nat) :
    Span.taken ⟨index, index + further⟩ lines = rest.take (further + 1) := by
  rw [Span.taken, h, Nat.add_assoc, Nat.add_sub_cancel_left]

theorem isSpan_of_opens {index : Nat} (hrest : lines.drop index = line :: rest)
    (hopens : opensStatement line = true) :
    IsSpan lines ⟨index, index + furtherLines (line :: rest)⟩ := by
  have hlength : lines.length - index = rest.length + 1 := by
    rw [← List.length_drop, hrest, List.length_cons]
  have hindex : index < lines.length := by omega
  have hfurther : furtherLines (line :: rest) < rest.length + 1 := furtherLines_lt (by simp)
  refine ⟨Nat.le_add_right _ _, ?_, ?_, ⟨line, ?_, ?_⟩, ?_⟩
  · dsimp only
    omega
  · rw [statementEnd?, if_pos hindex, hrest]
  · rw [← List.head?_drop, hrest, List.head?_cons]
  · simpa [opensStatement] using hopens
  · have hbehind : lines.drop (index + furtherLines (line :: rest) + 1) =
        rest.drop (furtherLines (line :: rest)) := by
      rw [Nat.add_assoc, ← List.drop_drop, hrest, List.drop_succ_cons]
    rw [taken_of_drop hrest, List.take_succ_cons, hbehind]
    exact terminated_furtherLines line rest

/-! ## Segments -/

/-- Spans of statements, one behind the other, that leave out no line from an index on that opens a
statement. -/
structure Segments (lines : List String) (start : Nat) (spans : List Span) : Prop where
  isSpan : ∀ span ∈ spans, IsSpan lines span
  behind : ∀ span ∈ spans, start ≤ span.first
  ordered : spans.Pairwise fun one other => one.last < other.first
  covers : ∀ index line, start ≤ index → lines[index]? = some line → opensCall line = true →
    declaresMethod line = false → ∃ span ∈ spans, span.first ≤ index ∧ index ≤ span.last

theorem Segments.nil {start : Nat} (h : lines.length ≤ start) :
    Segments lines start [] := by
  refine ⟨by simp, by simp, List.Pairwise.nil, fun index line hstart hline => ?_⟩
  rw [List.getElem?_eq_none (by omega)] at hline
  exact absurd hline (by simp)

theorem Segments.skip {start : Nat} {spans : List Span} (h : Segments lines (start + 1) spans)
    (hline : lines[start]? = some line) (hopens : opensStatement line = false) :
    Segments lines start spans := by
  refine ⟨h.isSpan, fun span hspan => ?_, h.ordered, fun index other hstart hother hcall hno => ?_⟩
  · have hbehind := h.behind span hspan
    omega
  · by_cases hindex : index = start
    · subst hindex
      obtain rfl : line = other := Option.some.inj (hline.symm.trans hother)
      simp [opensStatement, hcall, hno] at hopens
    · exact h.covers index other (by omega) hother hcall hno

theorem Segments.take {spans : List Span} {span : Span} (h : Segments lines (span.last + 1) spans)
    (hspan : IsSpan lines span) : Segments lines span.first (span :: spans) := by
  have hordered := hspan.ordered
  refine ⟨?_, ?_, ?_, fun index line hstart hline hcall hno => ?_⟩
  · simpa using ⟨hspan, h.isSpan⟩
  · intro other hother
    rcases List.mem_cons.mp hother with rfl | hother
    · exact Nat.le_refl _
    · have hbehind := h.behind other hother
      omega
  · exact List.pairwise_cons.mpr ⟨h.behind, h.ordered⟩
  · by_cases hlast : index ≤ span.last
    · exact ⟨span, List.mem_cons_self, hstart, hlast⟩
    · obtain ⟨other, hother, hcovers⟩ := h.covers index line (by omega) hline hcall hno
      exact ⟨other, List.mem_cons_of_mem _ hother, hcovers⟩

/-- The scan from an index on gives the statements of spans that segment the lines from there on, less
those still inside an earlier statement. -/
theorem statementsFrom_spans (file : String) (buffers : Buffers) (lines : List String)
    (index inside : Nat) :
    ∃ spans, Segments lines (index + inside) spans ∧
      statementsFrom file buffers (index + 1) inside (lines.drop index) =
        spans.map fun span => span.statement file buffers lines := by
  induction hrest : lines.drop index generalizing index inside with
  | nil =>
    have hlength : lines.length ≤ index := List.drop_eq_nil_iff.mp hrest
    exact ⟨[], Segments.nil (by omega), by simp [statementsFrom]⟩
  | cons line rest ih =>
    have hnext : lines.drop (index + 1) = rest := by
      rw [← List.drop_drop, hrest, List.drop_succ_cons, List.drop_zero]
    have hline : lines[index]? = some line := by rw [← List.head?_drop, hrest, List.head?_cons]
    cases inside with
    | succ inside =>
      obtain ⟨spans, hspans, hstatements⟩ := ih (index + 1) inside hnext
      rw [Nat.add_assoc, Nat.add_comm 1] at hspans
      exact ⟨spans, hspans, hstatements⟩
    | zero =>
      by_cases hopens : opensStatement line = true
      · -- the rest of the scan starts inside this statement, and so gives the spans behind it
        obtain ⟨spans, hspans, hstatements⟩ := ih (index + 1) (furtherLines (line :: rest)) hnext
        have hspan := isSpan_of_opens hrest hopens
        refine ⟨⟨index, index + furtherLines (line :: rest)⟩ :: spans, ?_, ?_⟩
        · rw [Nat.add_right_comm] at hspans
          exact hspans.take hspan
        · rw [statementsFrom_of_opens hopens, List.map_cons, hstatements, Span.statement,
            taken_of_drop hrest]
          rfl
      · rw [Bool.not_eq_true] at hopens
        obtain ⟨spans, hspans, hstatements⟩ := ih (index + 1) 0 hnext
        refine ⟨spans, hspans.skip hline hopens, ?_⟩
        rw [statementsFrom_of_not_opens hopens, hstatements]

/-- The statements of a file take spans of its lines: in order, without overlap and within the file,
each from a line that opens a call to the first one that ends with a semicolon. No line that opens a
call and declares no method is left out. -/
theorem statements_segment (file : String) (buffers : Buffers) (lines : List String) :
    ∃ spans : List Span,
      statements file buffers lines = spans.map (fun span => span.statement file buffers lines) ∧
      (statements file buffers lines).Pairwise (fun one other => one.line < other.line) ∧
      spans.Pairwise (fun one other => one.last < other.first) ∧
      (∀ span ∈ spans, IsSpan lines span) ∧
      ∀ index line, lines[index]? = some line → opensCall line = true →
        declaresMethod line = false → ∃ span ∈ spans, span.first ≤ index ∧ index ≤ span.last := by
  obtain ⟨spans, hspans, hstatements⟩ := statementsFrom_spans file buffers lines 0 0
  have hall : statements file buffers lines =
      spans.map fun span => span.statement file buffers lines := hstatements
  refine ⟨spans, hall, ?_, hspans.ordered, hspans.isSpan,
    fun index line => hspans.covers index line (Nat.zero_le _)⟩
  rw [hall, List.pairwise_map]
  refine hspans.ordered.imp_of_mem fun {one other} hone _ hlt => ?_
  have hordered := (hspans.isSpan one hone).ordered
  simp only [Span.statement]
  omega

/-! ## Files put together -/

/-- A statement a number of lines further down. -/
def Statement.movedDown (count : Nat) (statement : Statement) : Statement :=
  { statement with line := statement.line + count }

/-- Which lines are taken depends neither on the buffers nor on the number of the first line. -/
theorem statementsFrom_bare (count : Nat) :
    statementsFrom file buffers (number + count) inside lines =
      (statementsFrom file [] number inside lines).map fun statement =>
        (statement.tracing buffers).movedDown count := by
  induction lines generalizing number inside with
  | nil => simp [statementsFrom]
  | cons line rest ih =>
    have hnext : ∀ inside, statementsFrom file buffers (number + count + 1) inside rest =
        (statementsFrom file [] (number + 1) inside rest).map fun statement =>
          (statement.tracing buffers).movedDown count := by
      intro inside
      rw [Nat.add_right_comm]
      exact ih
    cases inside with
    | succ inside => exact hnext inside
    | zero =>
      by_cases hopens : opensStatement line = true
      · rw [statementsFrom_of_opens hopens, statementsFrom_of_opens hopens, List.map_cons, hnext]
        rfl
      · rw [Bool.not_eq_true] at hopens
        rw [statementsFrom_of_not_opens hopens, statementsFrom_of_not_opens hopens, hnext]

theorem statementsFrom_tracing :
    statementsFrom file buffers number inside lines =
      (statementsFrom file [] number inside lines).map (Statement.tracing buffers) := by
  have hstay : ∀ statement : Statement, statement.movedDown 0 = statement := fun statement => by
    simp [Statement.movedDown]
  have hbare : statementsFrom file buffers number inside lines =
      (statementsFrom file [] number inside lines).map fun statement =>
        (statement.tracing buffers).movedDown 0 := statementsFrom_bare 0
  simpa only [hstay] using hbare

theorem statementsFrom_movedDown (count : Nat) :
    statementsFrom file buffers (number + count) inside lines =
      (statementsFrom file buffers number inside lines).map (Statement.movedDown count) := by
  have hbare : statementsFrom file buffers number inside lines = _ := statementsFrom_tracing
  rw [statementsFrom_bare, hbare, List.map_map]
  rfl

theorem furtherLines_append {line : String} (hline : line ∈ first)
    (hends : endsStatement line = true) : furtherLines (first ++ second) = furtherLines first := by
  have hsome : (first.findIdx? endsStatement).isSome = true := by
    rw [List.findIdx?_isSome]
    exact List.any_eq_true.mpr ⟨line, hline, hends⟩
  obtain ⟨further, hfurther⟩ := Option.isSome_iff_exists.mp hsome
  rw [furtherLines, furtherLines, List.findIdx?_append, hfurther]
  rfl

theorem statementsFrom_append (hends : ∀ line ∈ first.getLast?, endsStatement line = true)
    (hinside : inside ≤ first.length) :
    statementsFrom file buffers number inside (first ++ second) =
      statementsFrom file buffers number inside first ++
        statementsFrom file buffers (number + first.length) 0 second := by
  induction first generalizing number inside with
  | nil =>
    obtain rfl : inside = 0 := Nat.le_zero.mp hinside
    simp [statementsFrom]
  | cons line rest ih =>
    have hrest : ∀ other ∈ rest.getLast?, endsStatement other = true := by
      intro other hother
      refine hends other ?_
      rw [List.getLast?_cons, hother]
      rfl
    have hnext : ∀ {inside}, inside ≤ rest.length →
        statementsFrom file buffers (number + 1) inside (rest ++ second) =
          statementsFrom file buffers (number + 1) inside rest ++
            statementsFrom file buffers (number + (line :: rest).length) 0 second := by
      intro inside hinside
      rw [ih hrest hinside, List.length_cons, Nat.add_assoc, Nat.add_comm 1]
    cases inside with
    | succ inside => exact hnext (Nat.le_of_succ_le_succ hinside)
    | zero =>
      have hlast : (line :: rest).getLast (by simp) ∈ line :: rest := List.getLast_mem _
      have hfurther : furtherLines (line :: (rest ++ second)) = furtherLines (line :: rest) :=
        furtherLines_append hlast (hends _ (List.getLast?_eq_some_getLast _))
      have hbound : furtherLines (line :: rest) ≤ rest.length :=
        Nat.le_of_lt_succ (furtherLines_lt (by simp))
      have htaken : (line :: (rest ++ second)).take (furtherLines (line :: rest) + 1) =
          (line :: rest).take (furtherLines (line :: rest) + 1) := by
        rw [List.take_succ_cons, List.take_succ_cons, List.take_append_of_le_length hbound]
      rw [List.cons_append]
      by_cases hopens : opensStatement line = true
      · rw [statementsFrom_of_opens hopens, statementsFrom_of_opens hopens, hfurther, htaken,
          hnext hbound, List.cons_append]
      · rw [Bool.not_eq_true] at hopens
        rw [statementsFrom_of_not_opens hopens, statementsFrom_of_not_opens hopens,
          hnext (Nat.zero_le _)]

/-- Behind a line that ends with a semicolon the statements of a file are those of the lines from there
on, taken as a file of their own and moved down. No statement goes across. -/
theorem statements_append (file : String) (buffers : Buffers) (first second : List String)
    (hends : ∀ line ∈ first.getLast?, endsStatement line = true) :
    statements file buffers (first ++ second) =
      statements file buffers first ++
        (statements file buffers second).map (Statement.movedDown first.length) := by
  rw [statements, statementsFrom_append hends (Nat.zero_le _), statementsFrom_movedDown]
  rfl

/-- A call over two lines, the second of which has blanks behind its semicolon. -/
theorem statements_append_wrapped :
    statements "A.java" [⟨"b", ["token"]⟩] ["log.info(a", "  + b); ", "log.warn(c"] =
      [⟨"A.java", 1, "log.info(a + b);", [⟨"b", ["token"]⟩]⟩, ⟨"A.java", 3, "log.warn(c", []⟩] := by
  have happend := statements_append "A.java" [⟨"b", ["token"]⟩] ["log.info(a", "  + b); "]
    ["log.warn(c"] (by decide +kernel)
  have hfirst : statements "A.java" [⟨"b", ["token"]⟩] ["log.info(a", "  + b); "] =
      [⟨"A.java", 1, "log.info(a + b);", [⟨"b", ["token"]⟩]⟩] := by decide +kernel
  have hsecond : statements "A.java" [⟨"b", ["token"]⟩] ["log.warn(c"] =
      [⟨"A.java", 1, "log.warn(c", []⟩] := by decide +kernel
  rw [hfirst, hsecond] at happend
  exact happend

end LogAudit.Source
