import LogAudit.Proofs.Names
import LogAudit.Detection

/-! # What a statement reports

The names reported so far are carried through the strategies and from one phase to the next. What comes
of it can be said without them: each phase reports every distinct name that its rules match once, in
order of first occurrence and under the first rule that matches.

* `ReportsOnce`: what a phase that looks at names reports.
* `reportsOnce_namesReported`: both phases that look at names report so.
* `mem_literalsReported`: what the phase that looks at literals reports.
* `detectWith_phases`: the detections of a statement. -/

namespace LogAudit
set_option autoImplicit false

open Source

/-! ## Names -/

/-- Findings that report the candidates that some rule matches and that are not excluded: each once, in
order of first occurrence, under the first rule that matches it. -/
structure ReportsOnce (rules : List Rule) (excluded candidates : List String)
    (findings : List Finding) : Prop where
  nodup : (findings.map (·.key)).Nodup
  mem_iff : ∀ name, name ∈ findings.map (·.key) ↔
    name ∈ candidates ∧ name ∉ excluded ∧ ∃ rule ∈ rules, rule.matchesName name = true
  ordered : (findings.map (·.key)).Pairwise fun name other =>
    candidates.idxOf name < candidates.idxOf other
  labelled : ∀ finding ∈ findings, ∃ before rule after, rules = before ++ rule :: after ∧
    rule.matchesName finding.key = true ∧
    (∀ earlier ∈ before, earlier.matchesName finding.key = false) ∧ finding.label = rule.text

variable {rules : List Rule} {excluded candidates : List String} {findings : List Finding}
  {name : String}

theorem firstMatch?_eq_some {rule : Rule} (h : firstMatch? rules name = some rule) :
    ∃ before after, rules = before ++ rule :: after ∧ rule.matchesName name = true ∧
      ∀ earlier ∈ before, earlier.matchesName name = false := by
  obtain ⟨hmatches, before, after, hrules, hbefore⟩ := List.find?_eq_some_iff_append.mp h
  exact ⟨before, after, hrules, hmatches, by simpa using hbefore⟩

theorem firstMatch?_eq_none (h : firstMatch? rules name = none) :
    ¬ ∃ rule ∈ rules, rule.matchesName name = true := by
  simpa [firstMatch?] using h

/-- Behind a candidate that is not reported, places move on by one. -/
theorem pairwise_idxOf_cons {names : List String} (hname : name ∉ names)
    (h : names.Pairwise fun one other => candidates.idxOf one < candidates.idxOf other) :
    names.Pairwise fun one other =>
      (name :: candidates).idxOf one < (name :: candidates).idxOf other := by
  refine h.imp_of_mem fun {one other} hone hother hlt => ?_
  rw [List.idxOf_cons_ne _ (ne_of_mem_of_not_mem hone hname).symm,
    List.idxOf_cons_ne _ (ne_of_mem_of_not_mem hother hname).symm]
  exact Nat.succ_lt_succ hlt

/-- A candidate that is excluded or that no rule matches changes nothing. -/
theorem ReportsOnce.skip (h : ReportsOnce rules excluded candidates findings)
    (hskip : name ∈ excluded ∨ ¬ ∃ rule ∈ rules, rule.matchesName name = true) :
    ReportsOnce rules excluded (name :: candidates) findings where
  nodup := h.nodup
  mem_iff other := by
    rw [h.mem_iff, List.mem_cons]
    constructor
    · exact fun ⟨hmem, hrest⟩ => ⟨Or.inr hmem, hrest⟩
    · rintro ⟨rfl | hmem, hfresh, hmatched⟩
      · exact (hskip.elim hfresh (fun h => h hmatched)).elim
      · exact ⟨hmem, hfresh, hmatched⟩
  ordered := by
    refine pairwise_idxOf_cons (fun hmem => ?_) h.ordered
    obtain ⟨_, hfresh, hmatched⟩ := (h.mem_iff name).mp hmem
    exact hskip.elim hfresh (fun h => h hmatched)
  labelled := h.labelled

/-- A candidate that a rule matches is reported, and excluded from then on. -/
theorem ReportsOnce.report {rule : Rule}
    (h : ReportsOnce rules (name :: excluded) candidates findings)
    (hfresh : name ∉ excluded) (hrule : firstMatch? rules name = some rule) :
    ReportsOnce rules excluded (name :: candidates) (⟨name, rule.text⟩ :: findings) := by
  obtain ⟨before, after, hrules, hmatches, hbefore⟩ := firstMatch?_eq_some hrule
  have hmatched : ∃ rule ∈ rules, rule.matchesName name = true := ⟨rule, by simp [hrules], hmatches⟩
  have hname : name ∉ findings.map (·.key) := fun hmem =>
    ((h.mem_iff name).mp hmem).2.1 List.mem_cons_self
  refine ⟨List.nodup_cons.mpr ⟨hname, h.nodup⟩, fun other => ?_, ?_, ?_⟩
  · rw [List.map_cons, List.mem_cons, h.mem_iff, List.mem_cons, List.mem_cons]
    by_cases hother : other = name
    · simp [hother, hfresh, hmatched]
    · simp [hother]
  · refine List.pairwise_cons.mpr ⟨fun other hother => ?_, pairwise_idxOf_cons hname h.ordered⟩
    rw [List.idxOf_cons_self, List.idxOf_cons_ne _ (ne_of_mem_of_not_mem hother hname).symm]
    exact Nat.succ_pos _
  · intro finding hfinding
    rcases List.mem_cons.mp hfinding with rfl | hfinding
    · exact ⟨before, rule, after, hrules, hmatches, hbefore, rfl⟩
    · exact h.labelled finding hfinding

theorem reportsOnce_namesReported (rules : List Rule) (excluded candidates : List String) :
    ReportsOnce rules excluded candidates (namesReported rules excluded candidates) := by
  induction candidates generalizing excluded with
  | nil => exact ⟨by simp [namesReported], by simp [namesReported], by simp [namesReported],
      by simp [namesReported]⟩
  | cons name candidates ih =>
    rw [namesReported]
    split
    · next hreported => exact (ih excluded).skip (Or.inl hreported)
    · next hfresh =>
      split
      · next rule hrule => exact (ih (name :: excluded)).report hfresh hrule
      · next hnone => exact (ih excluded).skip (Or.inr (firstMatch?_eq_none hnone))

/-- A reported name is a candidate, and its label is the text of a rule that matches it. -/
theorem ReportsOnce.source (h : ReportsOnce rules excluded candidates findings) {finding : Finding}
    (hfinding : finding ∈ findings) :
    finding.key ∈ candidates ∧
      ∃ rule ∈ rules, rule.matchesName finding.key = true ∧ finding.label = rule.text := by
  obtain ⟨before, rule, after, hrules, hmatches, _, hlabel⟩ := h.labelled finding hfinding
  exact ⟨((h.mem_iff _).mp (List.mem_map_of_mem hfinding)).1, rule, by simp [hrules], hmatches, hlabel⟩

/-! ## Literals -/

theorem mem_literalsReported {reported : List String} {contents : List (List Char)}
    {finding : Finding} (h : finding ∈ literalsReported rules reported contents) :
    ∃ rule ∈ rules, ∃ content ∈ contents, rule.foundIn (String.ofList content) = true ∧
      finding = ⟨literalKey rule, rule.text ++ " (in string literal)"⟩ := by
  induction contents generalizing reported with
  | nil => simp [literalsReported] at h
  | cons content contents ih =>
    rw [literalsReported] at h
    split at h
    · next rule hrule =>
      rcases List.mem_cons.mp h with rfl | h
      · have hfound := List.find?_some hrule
        rw [Bool.and_eq_true] at hfound
        exact ⟨rule, List.mem_of_find?_eq_some hrule, content, List.mem_cons_self, hfound.2, rfl⟩
      · obtain ⟨other, hother, further, hfurther, hrest⟩ := ih h
        exact ⟨other, hother, further, List.mem_cons_of_mem _ hfurther, hrest⟩
    · obtain ⟨other, hother, further, hfurther, hrest⟩ := ih h
      exact ⟨other, hother, further, List.mem_cons_of_mem _ hfurther, hrest⟩

/-- A finding of a keyword in a literal of a text that has dynamic content. -/
def IsLiteralFinding (keywords : List Rule) (text : List Char) (finding : Finding) : Prop :=
  hasDynamicContent text = true ∧
    ∃ rule ∈ keywords, ∃ content ∈ literalContents text, rule.foundIn (String.ofList content) = true ∧
      finding = ⟨literalKey rule, rule.text ++ " (in string literal)"⟩

theorem isLiteralFinding_of_mem {keywords : List Rule} {reported : List String}
    {statement : Statement} {finding : Finding}
    (h : finding ∈ literalFindings keywords reported statement) :
    IsLiteralFinding keywords statement.text.toList finding := by
  rw [literalFindings] at h
  split at h
  · next hdynamic => exact ⟨hdynamic, mem_literalsReported h⟩
  · simp at h

/-! ## Statements -/

/-- The detections of a statement are the findings of three phases, all under the file, line and text
of the statement. -/
theorem detectWith_phases (strategies : List Strategy) (keywords objectTypes : List Rule)
    (statement : Statement) :
    ∃ named objects literals : List Finding,
      detectWith strategies keywords objectTypes statement =
        (named ++ objects ++ literals).map (fun finding =>
          ⟨statement.file, statement.line, finding.label, statement.text⟩) ∧
      ReportsOnce keywords [] (strategies.flatMap (·.names statement)) named ∧
      ReportsOnce objectTypes (named.map (·.key)) (Source.wholeNames statement.text.toList) objects ∧
      ∀ finding ∈ literals, IsLiteralFinding keywords statement.text.toList finding :=
  ⟨_, _, _, rfl, reportsOnce_namesReported _ _ _, reportsOnce_namesReported _ _ _,
    fun _ => isLiteralFinding_of_mem⟩

end LogAudit
