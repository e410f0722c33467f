import LogAudit.Proofs.Provenance

/-! # How the phases of a detection depend on each other

The keys reported so far go from one phase to the next. The phase for object types looks only at names
that the first phase has looked at too, and the phase for literals has keys that are no names. So what
the first phase finds beyond the text of the statement changes nothing in the other two.

* `mem_namesReported_iff`: which findings the phases for names report.
* `namesReported_subperm`: more candidates, more findings.
* `objectFindings_congr`, `literalFindings_of_names`: what the later phases depend on.
* `objectPhase`, `literalPhase`: what the later phases report in a statement.
* `detect_subperm`: more arguments in the traces of a statement, more detections. -/

namespace LogAudit
set_option autoImplicit false

open Source

variable {rules keywords objectTypes : List Rule} {excluded candidates : List String}
  {strategies : List Strategy} {statement : Statement} {name : String}

/-! ## Names -/

theorem firstMatch?_of_labelled {rule : Rule} {before after : List Rule}
    (hrules : rules = before ++ rule :: after) (hmatches : rule.matchesName name = true)
    (hbefore : ∀ earlier ∈ before, earlier.matchesName name = false) :
    firstMatch? rules name = some rule :=
  List.find?_eq_some_iff_append.mpr ⟨hmatches, before, after, hrules, by simpa using hbefore⟩

theorem firstMatch?_isSome_iff :
    (firstMatch? rules name).isSome = true ↔ ∃ rule ∈ rules, rule.matchesName name = true :=
  List.find?_isSome

/-- A finding is reported if its key is a candidate that is not excluded, under the first rule that
matches it. -/
theorem mem_namesReported_iff {finding : Finding} :
    finding ∈ namesReported rules excluded candidates ↔
      finding.key ∈ candidates ∧ finding.key ∉ excluded ∧
        ∃ rule, firstMatch? rules finding.key = some rule ∧ finding.label = rule.text := by
  have hreports := reportsOnce_namesReported rules excluded candidates
  have labelled : ∀ {finding}, finding ∈ namesReported rules excluded candidates →
      ∃ rule, firstMatch? rules finding.key = some rule ∧ finding.label = rule.text := by
    intro finding hfinding
    obtain ⟨before, rule, after, hrules, hmatches, hbefore, hlabel⟩ :=
      hreports.labelled finding hfinding
    exact ⟨rule, firstMatch?_of_labelled hrules hmatches hbefore, hlabel⟩
  constructor
  · intro hfinding
    obtain ⟨hcandidate, hfresh, _⟩ := (hreports.mem_iff _).mp (List.mem_map_of_mem hfinding)
    exact ⟨hcandidate, hfresh, labelled hfinding⟩
  · rintro ⟨hcandidate, hfresh, rule, hrule, hlabel⟩
    have hmatched : ∃ rule ∈ rules, rule.matchesName finding.key = true :=
      (firstMatch?_isSome_iff.mp (by rw [hrule]; rfl))
    obtain ⟨other, hother, hkey⟩ :=
      List.mem_map.mp ((hreports.mem_iff _).mpr ⟨hcandidate, hfresh, hmatched⟩)
    obtain ⟨rule', hrule', hlabel'⟩ := labelled hother
    rw [hkey, hrule, Option.some.injEq] at hrule'
    have hsame : other = finding := by
      cases other
      cases finding
      simp_all
    exact hsame ▸ hother

theorem nodup_namesReported (rules : List Rule) (excluded candidates : List String) :
    (namesReported rules excluded candidates).Nodup :=
  (reportsOnce_namesReported rules excluded candidates).nodup.of_map _

theorem namesReported_subperm {more : List String} (h : candidates ⊆ more) :
    (namesReported rules excluded candidates).Subperm (namesReported rules excluded more) := by
  refine (nodup_namesReported rules excluded candidates).subperm fun finding hfinding => ?_
  obtain ⟨hcandidate, hrest⟩ := mem_namesReported_iff.mp hfinding
  exact mem_namesReported_iff.mpr ⟨h hcandidate, hrest⟩

theorem namesReported_congr {other : List String}
    (h : ∀ name ∈ candidates, name ∈ excluded ↔ name ∈ other) :
    namesReported rules excluded candidates = namesReported rules other candidates := by
  induction candidates generalizing excluded other with
  | nil => rfl
  | cons name candidates ih =>
    have hrest : ∀ name ∈ candidates, name ∈ excluded ↔ name ∈ other :=
      fun name hname => h name (List.mem_cons_of_mem _ hname)
    have hname := h name List.mem_cons_self
    rw [namesReported, namesReported]
    by_cases hreported : name ∈ excluded
    · rw [if_pos hreported, if_pos (hname.mp hreported), ih hrest]
    · rw [if_neg hreported, if_neg (mt hname.mpr hreported)]
      cases firstMatch? rules name with
      | none => exact ih hrest
      | some rule =>
        have hnext : ∀ one ∈ candidates, one ∈ name :: excluded ↔ one ∈ name :: other := by
          intro one hone
          rw [List.mem_cons, List.mem_cons, hrest one hone]
        exact congrArg _ (ih hnext)

theorem isName_of_mem_names {strategy : Strategy} (h : name ∈ strategy.names statement) :
    isName name.toList = true := by
  by_cases hstrategy : strategy = .bufferTraces
  · subst hstrategy
    obtain ⟨buffer, _, h⟩ := List.mem_flatMap.mp h
    obtain ⟨argument, _, h⟩ := List.mem_flatMap.mp h
    exact (mem_namesOf h).1
  · exact (infix_of_mem_names hstrategy h).1

theorem isName_of_mem_nameFindings {finding : Finding}
    (h : finding ∈ nameFindings strategies keywords statement) : isName finding.key.toList = true := by
  obtain ⟨hcandidate, _⟩ := mem_namesReported_iff.mp h
  obtain ⟨strategy, _, hname⟩ := List.mem_flatMap.mp hcandidate
  exact isName_of_mem_names hname

theorem isName_of_mem_objectFindings {reported : List String} {finding : Finding}
    (h : finding ∈ objectFindings objectTypes reported statement) :
    isName finding.key.toList = true := by
  obtain ⟨hcandidate, _⟩ := mem_namesReported_iff.mp h
  exact (mem_wholeNames_iff.mp hcandidate).1

/-- A variable of the statement is reported by the first phase just if a keyword matches it. -/
theorem mem_nameFindings_iff_matched (strategies : List Strategy) (keywords : List Rule)
    (statement : Statement) (hstrategy : .wholeNames ∈ strategies)
    (hname : name ∈ wholeNames statement.text.toList) :
    name ∈ (nameFindings strategies keywords statement).map (·.key) ↔
      ∃ rule ∈ keywords, rule.matchesName name = true := by
  have hcandidate : name ∈ strategies.flatMap (·.names statement) :=
    List.mem_flatMap.mpr ⟨.wholeNames, hstrategy, hname⟩
  rw [nameFindings, (reportsOnce_namesReported _ _ _).mem_iff]
  simp [hcandidate]

/-! ## Object types -/

/-- The phase for object types depends on what was reported only as far as variables of the statement
are concerned. -/
theorem objectFindings_congr {reported other : List String}
    (h : ∀ name ∈ wholeNames statement.text.toList, name ∈ reported ↔ name ∈ other) :
    objectFindings objectTypes reported statement = objectFindings objectTypes other statement :=
  namesReported_congr h

/-! ## Literals -/

theorem literalKey_ne_of_isName (rule : Rule) (h : isName name.toList = true) :
    literalKey rule ≠ name := by
  rintro rfl
  obtain ⟨_, _, _, _, hword⟩ := isName_iff.mp h
  have hcolon : ':' ∈ (literalKey rule).toList := by simp [literalKey]
  exact absurd (hword ':' hcolon) (by decide)

theorem literalsReported_congr {reported other : List String} {contents : List (List Char)}
    (h : ∀ rule, literalKey rule ∈ reported ↔ literalKey rule ∈ other) :
    literalsReported rules reported contents = literalsReported rules other contents := by
  induction contents generalizing reported other with
  | nil => rfl
  | cons content contents ih =>
    have hfound : (rules.find? fun rule =>
          literalKey rule ∉ reported && rule.foundIn (String.ofList content)) =
        rules.find? fun rule =>
          literalKey rule ∉ other && rule.foundIn (String.ofList content) := by
      congr 1
      funext rule
      rw [decide_eq_decide.mpr (not_congr (h rule))]
    rw [literalsReported, literalsReported, hfound]
    split
    · next found _ =>
      have hnext : ∀ rule, literalKey rule ∈ literalKey found :: reported ↔
          literalKey rule ∈ literalKey found :: other := by
        intro rule
        rw [List.mem_cons, List.mem_cons, h rule]
      rw [ih hnext]
    · exact ih h

/-- The phase for literals does not depend on the names that were reported. -/
theorem literalFindings_of_names {reported : List String}
    (h : ∀ name ∈ reported, isName name.toList = true) :
    literalFindings keywords reported statement = literalFindings keywords [] statement := by
  have hkeys : ∀ rule, literalKey rule ∈ reported ↔ literalKey rule ∈ [] := by
    intro rule
    refine ⟨fun hmem => absurd rfl (literalKey_ne_of_isName rule (h _ hmem)), by simp⟩
  rw [literalFindings, literalFindings, literalsReported_congr hkeys]

/-! ## Statements -/

/-- What the phase for object types reports behind the phase for names. -/
def objectPhase (strategies : List Strategy) (keywords objectTypes : List Rule)
    (statement : Statement) : List Finding :=
  objectFindings objectTypes ((nameFindings strategies keywords statement).map (·.key)) statement

/-- What the phase for literals reports behind the other two. -/
def literalPhase (strategies : List Strategy) (keywords objectTypes : List Rule)
    (statement : Statement) : List Finding :=
  literalFindings keywords ((nameFindings strategies keywords statement ++
    objectPhase strategies keywords objectTypes statement).map (·.key)) statement

/-- A finding of a statement as a detection. -/
def Finding.detection (statement : Statement) (finding : Finding) : Detection :=
  ⟨statement.file, statement.line, finding.label, statement.text⟩

theorem detectWith_eq_phases (strategies : List Strategy) (keywords objectTypes : List Rule)
    (statement : Statement) :
    detectWith strategies keywords objectTypes statement =
      (nameFindings strategies keywords statement ++
        objectPhase strategies keywords objectTypes statement ++
        literalPhase strategies keywords objectTypes statement).map (Finding.detection statement) :=
  rfl

/-- The first two phases report names, which are never keys of the third. -/
theorem literalPhase_eq (strategies : List Strategy) (keywords objectTypes : List Rule)
    (statement : Statement) :
    literalPhase strategies keywords objectTypes statement = literalFindings keywords [] statement := by
  refine literalFindings_of_names ?_
  intro name hname
  obtain ⟨finding, hfinding, rfl⟩ := List.mem_map.mp hname
  rcases List.mem_append.mp hfinding with hfinding | hfinding
  · exact isName_of_mem_nameFindings hfinding
  · exact isName_of_mem_objectFindings hfinding

theorem subperm_map {α β : Type} {less more : List α} (h : less.Subperm more) (f : α → β) :
    (less.map f).Subperm (more.map f) := by
  obtain ⟨middle, hperm, hsublist⟩ := h
  exact ⟨middle.map f, hperm.map f, hsublist.map f⟩

/-- A statement with more in its traces reports what it reports with less. -/
theorem detect_subperm {file text : String} {line : Int} {less more : Buffers}
    (h : Strategy.bufferTraces.names ⟨file, line, text, less⟩ ⊆
      Strategy.bufferTraces.names ⟨file, line, text, more⟩) :
    (detect keywords objectTypes ⟨file, line, text, less⟩).Subperm
      (detect keywords objectTypes ⟨file, line, text, more⟩) := by
  have hcandidates : Strategy.all.flatMap (·.names ⟨file, line, text, less⟩) ⊆
      Strategy.all.flatMap (·.names ⟨file, line, text, more⟩) := by
    intro name hname
    obtain ⟨strategy, hstrategy, hname⟩ := List.mem_flatMap.mp hname
    refine List.mem_flatMap.mpr ⟨strategy, hstrategy, ?_⟩
    cases strategy with
    | bufferTraces => exact h hname
    | _ => exact hname
  have hobjects : objectPhase Strategy.all keywords objectTypes ⟨file, line, text, less⟩ =
      objectPhase Strategy.all keywords objectTypes ⟨file, line, text, more⟩ := by
    refine objectFindings_congr fun name hname => ?_
    have hless := mem_nameFindings_iff_matched Strategy.all keywords ⟨file, line, text, less⟩
      (by decide) hname
    have hmore := mem_nameFindings_iff_matched Strategy.all keywords ⟨file, line, text, more⟩
      (by decide) hname
    rw [hless, hmore]
  rw [detect, detect, detectWith_eq_phases, detectWith_eq_phases, literalPhase_eq, literalPhase_eq,
    hobjects]
  refine subperm_map ?_ _
  exact (List.subperm_append_right _).mpr
    ((List.subperm_append_right _).mpr (namesReported_subperm hcandidates))

end LogAudit
