import LogAudit.Proofs.Reporting
import LogAudit.Proofs.Statements

/-! # Every detection has a witness in its file

A detection goes back to lines of the file and to a rule: the lines give its statement, and its label
is the text of a rule that matches something that stands there.

* `Justified`: the reasons that a label can have.
* `infix_of_mem_names`: the strategies that look at a statement find names that stand in it.
* `traced_of_mem_names`: the one that looks at buffers finds names that were appended to them.
* `detectLines_justified`: every detection in a file has its lines and its reason. -/

namespace LogAudit
set_option autoImplicit false

open Source Text

/-! ## Reasons -/

/-- A name that stands in a text as a whole word. -/
def StandsWhole (text name : List Char) : Prop :=
  ∃ before after, text = before ++ (name ++ after) ∧
    (∀ c ∈ before.getLast?, isWord c = false) ∧ ∀ c ∈ after.head?, isWord c = false

/-- A name in an argument that some line of a file appends to a buffer. The buffer is declared on that
line or on an earlier one, and its name stands in the text of the statement. -/
structure TracedName (lines : List String) (text name buffer argument : String) : Prop where
  stands : name.toList <:+: argument.toList
  appended : ∃ earlier line later, lines = earlier ++ line :: later ∧
    (∃ declaration ∈ earlier ++ [line], DeclaresBuffer buffer declaration) ∧
    CallsAppend buffer line ∧ AppendsArgument argument line
  used : StandsWhole text.toList buffer.toList

/-- The reasons for a label in the statement of a given text. -/
inductive Justified (rules : RuleSet) (lines : List String) (text : String) : String → Prop
  /-- A keyword matches an identifier that stands in the statement. -/
  | named (rule : Rule) (name : String) : rule ∈ rules.keywords → rule.matchesName name = true →
      isName name.toList = true → name.toList <:+: text.toList → Justified rules lines text rule.text
  /-- A keyword matches an identifier appended to a buffer that the statement uses. -/
  | traced (rule : Rule) (name buffer argument : String) : rule ∈ rules.keywords →
      rule.matchesName name = true → isName name.toList = true →
      TracedName lines text name buffer argument → Justified rules lines text rule.text
  /-- An object type matches a variable of the statement that begins outside of every literal. -/
  | object (rule : Rule) (name : String) (before after : List Char) : rule ∈ rules.objectTypes →
      rule.matchesName name = true → isName name.toList = true →
      text.toList = before ++ (name.toList ++ after) →
      (∀ c ∈ before.getLast?, isWord c = false) → (∀ c ∈ after.head?, isWord c = false) →
      (∀ range ∈ literalRanges text.toList,
        ¬ (range.start ≤ before.length ∧ before.length < range.stop)) →
      Justified rules lines text rule.text
  /-- A keyword is found in a literal of a statement with dynamic content. -/
  | literal (rule : Rule) (before content after : List Char) : rule ∈ rules.keywords →
      rule.foundIn (String.ofList content) = true →
      text.toList = before ++ '"' :: (content ++ '"' :: after) → before.count '"' % 2 = 0 →
      '"' ∉ content → hasDynamicContent text.toList = true →
      Justified rules lines text (rule.text ++ " (in string literal)")

/-! ## Strategies -/

/-- The strategies other than the one for buffers look at the text of the statement alone. -/
theorem infix_of_mem_names {strategy : Strategy} {statement : Statement} {name : String}
    (hstrategy : strategy ≠ .bufferTraces) (h : name ∈ strategy.names statement) :
    isName name.toList = true ∧ name.toList <:+: statement.text.toList := by
  have passes : name ∈ namesOf statement.text.toList →
      isName name.toList = true ∧ name.toList <:+: statement.text.toList := by
    intro hname
    obtain ⟨hname, before, after, htext, _⟩ := mem_namesOf hname
    exact ⟨hname, before, after, by rw [htext, List.append_assoc]⟩
  cases strategy with
  | wholeNames => exact passes (List.mem_append_left _ h)
  | methodCalls => exact passes (List.mem_append_right _ h)
  | bufferAppends =>
    rw [Strategy.names, appendedNames] at h
    split at h
    · exact infix_of_mem_namesFound cutsOut_inlineAppend h
    · simp at h
  | bufferTraces => exact absurd rfl hstrategy
  | stringJoin => exact infix_of_mem_namesFound cutsOut_join h
  | stringJoiner => exact infix_of_mem_namesFound cutsOut_joiner h

theorem not_word_of_boundary {before after : Option Char} (h : isBoundary before after = true)
    (hafter : after.any isWord = true) : ∀ c ∈ before, isWord c = false := by
  rintro c rfl
  simpa [isBoundary, hafter] using h

/-- A name that occurs whole stands between characters that are no word characters. -/
theorem standsWhole_of_occursWhole {name text : String} (hname : isName name.toList = true)
    (h : occursWhole name text = true) : StandsWhole text.toList name.toList := by
  obtain ⟨before, after, htext, hfront, hback⟩ := occursWhole_shape h
  obtain ⟨c, rest, hcons, hstart, hword⟩ := isName_iff.mp hname
  refine ⟨before, after, htext, not_word_of_boundary hfront ?_, ?_⟩
  · have hc : isWord c = true := isWord_of_isAsciiWord (isAsciiWord_iff.mpr (Or.inl hstart))
    simpa [hcons] using hc
  · rw [isBoundary, bne_comm] at hback
    refine not_word_of_boundary hback ?_
    have hlast : isWord (name.toList.getLast (isName_ne_nil hname)) = true :=
      isWord_of_isAsciiWord (hword _ (List.getLast_mem _))
    rw [List.getLast?_append_of_ne_nil _ (isName_ne_nil hname),
      List.getLast?_eq_some_getLast (isName_ne_nil hname)]
    exact hlast

theorem traced_of_mem_names {lines : List String} {statement : Statement} {name : String}
    (htraces : statement.traces = (trackBuffers lines).related statement.text)
    (h : name ∈ Strategy.bufferTraces.names statement) :
    isName name.toList = true ∧
      ∃ buffer argument, TracedName lines statement.text name buffer argument := by
  obtain ⟨buffer, hbuffer, h⟩ := List.mem_flatMap.mp h
  obtain ⟨argument, hargument, h⟩ := List.mem_flatMap.mp h
  rw [htraces, Buffers.related, List.mem_filter] at hbuffer
  obtain ⟨htracked, hoccurs⟩ := hbuffer
  obtain ⟨hname, before, after, htext, _⟩ := mem_namesOf h
  obtain ⟨_, _, _, _, ⟨_, _, hdeclares⟩, _⟩ := mem_history htracked hargument
  exact ⟨hname, buffer.name, argument, ⟨before, after, by rw [htext, List.append_assoc]⟩,
    mem_history htracked hargument, standsWhole_of_occursWhole hdeclares.1 hoccurs⟩

/-! ## Phases -/

theorem justified_nameFinding {rules : RuleSet} {lines : List String} {statement : Statement}
    {strategies : List Strategy} {finding : Finding}
    (htraces : statement.traces = (trackBuffers lines).related statement.text)
    (h : finding ∈ nameFindings strategies rules.keywords statement) :
    Justified rules lines statement.text finding.label := by
  obtain ⟨hkey, rule, hrule, hmatches, hlabel⟩ := (reportsOnce_namesReported _ _ _).source h
  obtain ⟨strategy, _, hname⟩ := List.mem_flatMap.mp hkey
  rw [hlabel]
  by_cases hstrategy : strategy = .bufferTraces
  · subst hstrategy
    obtain ⟨hname, buffer, argument, htraced⟩ := traced_of_mem_names htraces hname
    exact .traced rule finding.key buffer argument hrule hmatches hname htraced
  · obtain ⟨hname, hstands⟩ := infix_of_mem_names hstrategy hname
    exact .named rule finding.key hrule hmatches hname hstands

theorem justified_objectFinding {rules : RuleSet} {lines : List String} {statement : Statement}
    {reported : List String} {finding : Finding}
    (h : finding ∈ objectFindings rules.objectTypes reported statement) :
    Justified rules lines statement.text finding.label := by
  obtain ⟨hkey, rule, hrule, hmatches, hlabel⟩ := (reportsOnce_namesReported _ _ _).source h
  obtain ⟨hname, before, after, htext, hfront, hback, houtside⟩ := mem_wholeNames_iff.mp hkey
  rw [hlabel]
  refine .object rule finding.key before after hrule hmatches hname htext hfront hback ?_
  intro range hrange hcovers
  rw [inLiteral_eq_true_iff.mpr ⟨range, hrange, hcovers⟩] at houtside
  exact absurd houtside (by decide)

theorem justified_literalFinding {rules : RuleSet} {lines : List String} {statement : Statement}
    {reported : List String} {finding : Finding}
    (h : finding ∈ literalFindings rules.keywords reported statement) :
    Justified rules lines statement.text finding.label := by
  obtain ⟨hdynamic, rule, hrule, content, hcontent, hfound, rfl⟩ := isLiteralFinding_of_mem h
  obtain ⟨_, before, after, htext, heven, hfree⟩ := mem_literalContents hcontent
  exact .literal rule before content after hrule hfound htext heven hfree hdynamic

theorem justified_finding {rules : RuleSet} {lines : List String} {statement : Statement}
    {strategies : List Strategy} {finding : Finding}
    (htraces : statement.traces = (trackBuffers lines).related statement.text)
    (h : finding ∈ findings strategies rules.keywords rules.objectTypes statement) :
    Justified rules lines statement.text finding.label := by
  rcases List.mem_append.mp h with h | h
  · rcases List.mem_append.mp h with h | h
    · exact justified_nameFinding htraces h
    · exact justified_objectFinding h
  · exact justified_literalFinding h

/-! ## Files -/

/-- Every detection in a file lies on a line that opens a call and declares no method. Its statement is
the text of that line and of those that the call goes on over, and its label has a reason there. -/
theorem detectLines_justified {rules : RuleSet} {file : String} {lines : List String}
    {detection : Detection} (h : detection ∈ detectLines rules file lines) :
    detection.file = file ∧ 1 ≤ detection.line ∧ detection.line ≤ lines.length ∧
      (∃ before line further behind, lines = before ++ (line :: further ++ behind) ∧
        detection.line = before.length + 1 ∧ opensCall line = true ∧ declaresMethod line = false ∧
        Terminated (line :: further) behind ∧
        detection.statement = " ".intercalate ((line :: further).map trim)) ∧
      Justified rules lines detection.statement detection.label := by
  obtain ⟨statement, hstatement, h⟩ := List.mem_flatMap.mp h
  obtain ⟨finding, hfinding, rfl⟩ := List.mem_map.mp h
  obtain ⟨before, line, further, behind, hlines, hopens, hend, rfl⟩ := mem_statementsFrom hstatement
  obtain ⟨hcall, hdeclares⟩ : opensCall line = true ∧ declaresMethod line = false := by
    simpa [opensStatement] using hopens
  have hlength : before.length + 1 ≤ lines.length := by
    rw [hlines, List.length_append, List.length_append, List.length_cons]
    omega
  refine ⟨rfl, ?_, ?_, ⟨before, line, further, behind, hlines, ?_, hcall, hdeclares, hend, rfl⟩,
    justified_finding rfl hfinding⟩
  · dsimp only
    omega
  · dsimp only
    omega
  · dsimp only
    omega

/-- A password that reaches a log call through a buffer is detected, and its reason is found. -/
theorem detectLines_justified_buffer :
    ∃ detection ∈ detectLines { keywords := [.literal "password"] } "A.java"
        ["StringBuilder b = new StringBuilder();", "b.append(user.password);", "log.info(b);"],
      detection.line = 3 ∧
      Justified { keywords := [.literal "password"] }
        ["StringBuilder b = new StringBuilder();", "b.append(user.password);", "log.info(b);"]
        detection.statement detection.label := by
  have h : (⟨"A.java", 3, "password", "log.info(b);"⟩ : Detection) ∈
      detectLines { keywords := [.literal "password"] } "A.java"
        ["StringBuilder b = new StringBuilder();", "b.append(user.password);", "log.info(b);"] := by
    decide +kernel
  exact ⟨_, h, rfl, (detectLines_justified h).2.2.2.2⟩

end LogAudit
