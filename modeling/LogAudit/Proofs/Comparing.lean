import LogAudit.Proofs.Choices

/-! # Detections of one statement, side by side

A statement is looked at twice: with the strategies listed in another way, or with further keywords
behind the first ones. In both cases the keys reported along the way differ between the two runs. What
is compared is which names each run reports in the end, and which texts its literals have chosen.

* `detectWith_perm`: the order of strategies and repetitions among them change only the order of names.
* `chosenTexts_append_subset`: with further keywords, literals choose at least the same texts.
* `detectWith_append_keywords`: further keywords lose no finding. -/

namespace LogAudit
set_option autoImplicit false

open Source

variable {keywords further objectTypes : List Rule} {strategies one other : List Strategy}
  {statement : Statement} {name : String}

/-! ## Strategies -/

theorem nameFindings_perm (h : ∀ strategy, strategy ∈ one ↔ strategy ∈ other) (keywords : List Rule)
    (statement : Statement) :
    (nameFindings one keywords statement).Perm (nameFindings other keywords statement) := by
  have hcandidates : ∀ name, name ∈ one.flatMap (·.names statement) ↔
      name ∈ other.flatMap (·.names statement) := by
    intro name
    simp only [List.mem_flatMap, h]
  refine (List.perm_ext_iff_of_nodup (nodup_namesReported _ _ _) (nodup_namesReported _ _ _)).mpr ?_
  intro finding
  rw [mem_namesReported_iff, mem_namesReported_iff, hcandidates]

theorem objectPhase_congr (h : ∀ strategy, strategy ∈ one ↔ strategy ∈ other)
    (keywords objectTypes : List Rule) (statement : Statement) :
    objectPhase one keywords objectTypes statement =
      objectPhase other keywords objectTypes statement := by
  have hkeys := (nameFindings_perm h keywords statement).map (·.key)
  exact objectFindings_congr fun name _ => hkeys.mem_iff

/-- Detections depend on which strategies there are. Their order and repetitions among them change only
the order in which names are reported under keywords. -/
theorem detectWith_perm (h : ∀ strategy, strategy ∈ one ↔ strategy ∈ other)
    (keywords objectTypes : List Rule) (statement : Statement) :
    (∀ strategies, detectWith strategies keywords objectTypes statement =
      (nameFindings strategies keywords statement ++
        objectPhase strategies keywords objectTypes statement ++
        literalPhase strategies keywords objectTypes statement).map (Finding.detection statement)) ∧
    (detectWith one keywords objectTypes statement).Perm
      (detectWith other keywords objectTypes statement) ∧
    (nameFindings one keywords statement).Perm (nameFindings other keywords statement) ∧
    objectPhase one keywords objectTypes statement =
      objectPhase other keywords objectTypes statement ∧
    literalPhase one keywords objectTypes statement =
      literalPhase other keywords objectTypes statement := by
  have hnames := nameFindings_perm h keywords statement
  have hobjects := objectPhase_congr h keywords objectTypes statement
  have hliterals : literalPhase one keywords objectTypes statement =
      literalPhase other keywords objectTypes statement := by
    rw [literalPhase_eq, literalPhase_eq]
  refine ⟨fun strategies => detectWith_eq_phases strategies keywords objectTypes statement, ?_,
    hnames, hobjects, hliterals⟩
  rw [detectWith_eq_phases, detectWith_eq_phases, hobjects, hliterals]
  exact ((hnames.append_right _).append_right _).map _

/-- Method calls are named first or last, and once or twice. -/
theorem detectWith_perm_calls :
    detectWith [.methodCalls, .wholeNames, .methodCalls] [.literal "token", .literal "reset"] []
        ⟨"A.java", 1, "log.info(token + reset());", []⟩ =
      [⟨"A.java", 1, "reset", "log.info(token + reset());"⟩,
        ⟨"A.java", 1, "token", "log.info(token + reset());"⟩] ∧
    detectWith [.wholeNames, .methodCalls] [.literal "token", .literal "reset"] []
        ⟨"A.java", 1, "log.info(token + reset());", []⟩ =
      [⟨"A.java", 1, "token", "log.info(token + reset());"⟩,
        ⟨"A.java", 1, "reset", "log.info(token + reset());"⟩] ∧
    (detectWith [.methodCalls, .wholeNames, .methodCalls] [.literal "token", .literal "reset"] []
        ⟨"A.java", 1, "log.info(token + reset());", []⟩).Perm
      (detectWith [.wholeNames, .methodCalls] [.literal "token", .literal "reset"] []
        ⟨"A.java", 1, "log.info(token + reset());", []⟩) := by
  have hsame : ∀ strategy : Strategy, strategy ∈ [.methodCalls, .wholeNames, .methodCalls] ↔
      strategy ∈ [Strategy.wholeNames, .methodCalls] := by
    intro strategy
    cases strategy <;> decide
  exact ⟨by decide +kernel, by decide +kernel, (detectWith_perm hsame _ _ _).2.1⟩

/-! ## Further keywords: names -/

theorem firstMatch?_append {rule : Rule} (h : firstMatch? keywords name = some rule) :
    firstMatch? (keywords ++ further) name = some rule := by
  rw [firstMatch?] at h ⊢
  rw [List.find?_append, h]
  rfl

theorem nameFindings_append_subperm (strategies : List Strategy) (keywords further : List Rule)
    (statement : Statement) :
    (nameFindings strategies keywords statement).Subperm
      (nameFindings strategies (keywords ++ further) statement) := by
  refine (nodup_namesReported _ _ _).subperm ?_
  intro finding hfinding
  obtain ⟨hcandidate, hfresh, rule, hrule, hlabel⟩ := mem_namesReported_iff.mp hfinding
  exact mem_namesReported_iff.mpr ⟨hcandidate, hfresh, rule, firstMatch?_append hrule, hlabel⟩

/-- A finding of an object type stays as it is unless a further keyword takes its name. -/
theorem objectPhase_append {finding : Finding}
    (h : finding ∈ objectPhase strategies keywords objectTypes statement) :
    finding ∈ objectPhase strategies (keywords ++ further) objectTypes statement ∨
      finding.key ∈ (nameFindings strategies (keywords ++ further) statement).map (·.key) := by
  obtain ⟨hvariable, _, hlabelled⟩ := mem_namesReported_iff.mp h
  by_cases htaken :
      finding.key ∈ (nameFindings strategies (keywords ++ further) statement).map (·.key)
  · exact Or.inr htaken
  · exact Or.inl (mem_namesReported_iff.mpr ⟨hvariable, htaken, hlabelled⟩)

theorem nodup_names (strategies : List Strategy) (keywords objectTypes : List Rule)
    (statement : Statement) :
    ((nameFindings strategies keywords statement ++
      objectPhase strategies keywords objectTypes statement).map (·.key)).Nodup := by
  have hobjects := reportsOnce_namesReported objectTypes
    ((nameFindings strategies keywords statement).map (·.key)) (wholeNames statement.text.toList)
  rw [List.map_append]
  refine List.nodup_append.mpr ⟨(reportsOnce_namesReported _ _ _).nodup, hobjects.nodup, ?_⟩
  rintro name hname other hother rfl
  exact ((hobjects.mem_iff name).mp hother).2.1 hname

theorem names_append_subset (strategies : List Strategy) (keywords further objectTypes : List Rule)
    (statement : Statement) :
    (nameFindings strategies keywords statement ++
        objectPhase strategies keywords objectTypes statement).map (·.key) ⊆
      (nameFindings strategies (keywords ++ further) statement ++
        objectPhase strategies (keywords ++ further) objectTypes statement).map (·.key) := by
  intro name hname
  rw [List.map_append, List.mem_append] at hname ⊢
  rcases hname with hname | hname
  · have hnames := nameFindings_append_subperm strategies keywords further statement
    exact Or.inl ((subperm_map hnames _).subset hname)
  · obtain ⟨finding, hfinding, rfl⟩ := List.mem_map.mp hname
    rcases objectPhase_append hfinding with hstays | htaken
    · exact Or.inr (List.mem_map_of_mem hstays)
    · exact Or.inl htaken

/-! ## Further keywords: literals -/

/-- One literal in both runs: what the first run chooses is chosen in the second one too, or was taken
there before. -/
theorem choice_append {fewer more : List String} (h : fewer ⊆ more) (content : List Char) :
    chosenTexts [(content, choice? keywords fewer content)] ⊆
      more ++ chosenTexts [(content, choice? (keywords ++ further) more content)] := by
  intro text htext
  obtain ⟨rule, hchoice, rfl⟩ := mem_chosenTexts_singleton.mp htext
  by_cases htaken : rule.text ∈ more
  · exact List.mem_append_left _ htaken
  · cases chooses_iff.mpr hchoice with
    | earliest before after _ hrules hfound hfree hbefore =>
      have hchooses : Chooses (keywords ++ further) more content (some rule) :=
        .earliest before (after ++ further) rule (by simp [hrules]) hfound htaken
          fun earlier hearlier hfound => h (hbefore earlier hearlier hfound)
      refine List.mem_append_right _ (mem_chosenTexts_singleton.mpr ?_)
      exact ⟨rule, chooses_iff.mp hchooses, rfl⟩

theorem chosenTexts_append_subset {fewer more : List String} (h : fewer ⊆ more)
    (contents : List (List Char)) :
    fewer ++ chosenTexts (choices keywords fewer contents) ⊆
      more ++ chosenTexts (choices (keywords ++ further) more contents) := by
  induction contents generalizing fewer more with
  | nil => simpa [choices, chosenTexts] using h
  | cons content contents ih =>
    rw [choices, choices, chosenTexts_cons, chosenTexts_cons (content, choice? _ more content),
      ← List.append_assoc, ← List.append_assoc]
    refine ih (List.append_subset.mpr ⟨?_, choice_append h content⟩)
    exact List.subset_append_of_subset_left _ h

theorem literalPhase_append_subperm (strategies : List Strategy)
    (keywords further objectTypes : List Rule) (statement : Statement) :
    (literalPhase strategies keywords objectTypes statement).Subperm
      (literalPhase strategies (keywords ++ further) objectTypes statement) := by
  rw [literalPhase_eq, literalPhase_eq]
  cases hdynamic : hasDynamicContent statement.text.toList with
  | false =>
    rw [literalFindings_of_static hdynamic]
    exact List.nil_subperm
  | true =>
    rw [literalFindings_eq hdynamic, literalFindings_eq hdynamic]
    refine subperm_map ((nodup_chosenTexts _ _).subperm ?_) _
    simpa using chosenTexts_append_subset (List.Subset.refl []) (literalContents statement.text.toList)

/-! ## Further keywords: statements -/

/-- With further keywords behind the first ones, a statement reports every name and every literal that
it has reported under a keyword, with the same label and at least as many times. A name that it has
reported under an object type is still reported, under that type or under a keyword. There are at least
as many detections. -/
theorem detectWith_append_keywords (strategies : List Strategy)
    (keywords further objectTypes : List Rule) (statement : Statement) :
    (∀ rules, detectWith strategies rules objectTypes statement =
      (nameFindings strategies rules statement ++
        objectPhase strategies rules objectTypes statement ++
        literalPhase strategies rules objectTypes statement).map (Finding.detection statement)) ∧
    (nameFindings strategies keywords statement).Subperm
      (nameFindings strategies (keywords ++ further) statement) ∧
    (∀ finding ∈ objectPhase strategies keywords objectTypes statement,
      finding ∈ objectPhase strategies (keywords ++ further) objectTypes statement ∨
        finding.key ∈ (nameFindings strategies (keywords ++ further) statement).map (·.key)) ∧
    (literalPhase strategies keywords objectTypes statement).Subperm
      (literalPhase strategies (keywords ++ further) objectTypes statement) ∧
    (detectWith strategies keywords objectTypes statement).length ≤
      (detectWith strategies (keywords ++ further) objectTypes statement).length := by
  have hliterals := literalPhase_append_subperm strategies keywords further objectTypes statement
  refine ⟨fun rules => detectWith_eq_phases strategies rules objectTypes statement,
    nameFindings_append_subperm strategies keywords further statement,
    fun finding => objectPhase_append, hliterals, ?_⟩
  have hnames := ((nodup_names strategies keywords objectTypes statement).subperm
    (names_append_subset strategies keywords further objectTypes statement)).length_le
  have hlength := hliterals.length_le
  rw [detectWith_eq_phases, detectWith_eq_phases]
  simp only [List.length_map, List.length_append] at hnames ⊢
  omega

end LogAudit
