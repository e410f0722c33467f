import LogAudit.Proofs.Phases

/-! # The keywords that literals choose

The literals of a statement are gone through in order. Each one chooses the earliest keyword that is
found in it and whose text no literal before it has chosen. Choices are kept under keys that are no
names, so it does not matter which names were reported before.

* `Chooses`: what a literal chooses, given the texts that are taken.
* `choices`: the choices of literals, one behind the other.
* `literalsReported_eq`: the phase for literals reports these choices.
* `literalPhase_greedy`: the choices of the literals of a statement. -/

namespace LogAudit
set_option autoImplicit false

open Source

variable {rules keywords : List Rule} {taken : List String} {content : List Char}
  {contents : List (List Char)} {statement : Statement}

/-! ## One literal -/

/-- A literal chooses the earliest rule found in it whose text is not taken, and nothing only if the
text of every rule found in it is taken. -/
inductive Chooses (rules : List Rule) (taken : List String) (content : List Char) :
    Option Rule → Prop
  | earliest (before after : List Rule) (rule : Rule) : rules = before ++ rule :: after →
      rule.foundIn (String.ofList content) = true → rule.text ∉ taken →
      (∀ earlier ∈ before, earlier.foundIn (String.ofList content) = true → earlier.text ∈ taken) →
      Chooses rules taken content (some rule)
  | nothing : (∀ rule ∈ rules, rule.foundIn (String.ofList content) = true → rule.text ∈ taken) →
      Chooses rules taken content none

def choice? (rules : List Rule) (taken : List String) (content : List Char) : Option Rule :=
  rules.find? fun rule => rule.text ∉ taken && rule.foundIn (String.ofList content)

theorem chooses_iff {choice : Option Rule} :
    Chooses rules taken content choice ↔ choice? rules taken content = choice := by
  constructor
  · intro h
    cases h with
    | earliest before after rule hrules hfound hfree hbefore =>
      refine List.find?_eq_some_iff_append.mpr ⟨by simp [hfound, hfree], before, after, hrules, ?_⟩
      intro earlier hearlier
      have htaken := hbefore earlier hearlier
      simp only [Bool.not_eq_true', Bool.and_eq_false_imp, decide_eq_true_eq]
      intro hfree
      exact Bool.eq_false_iff.mpr (mt htaken hfree)
    | nothing hall =>
      refine List.find?_eq_none.mpr ?_
      intro rule hrule
      simp only [Bool.and_eq_true, decide_eq_true_eq, not_and]
      intro hfree hfound
      exact hfree (hall rule hrule hfound)
  · rintro rfl
    cases hchoice : choice? rules taken content with
    | none =>
      have hnone := List.find?_eq_none.mp hchoice
      simp only [Bool.and_eq_true, decide_eq_true_eq, not_and] at hnone
      refine .nothing ?_
      intro rule hrule hfound
      by_contra hfree
      exact hnone rule hrule hfree hfound
    | some rule =>
      obtain ⟨hrule, before, after, hrules, hbefore⟩ := List.find?_eq_some_iff_append.mp hchoice
      simp only [Bool.and_eq_true, decide_eq_true_eq] at hrule
      refine .earliest before after rule hrules hrule.2 hrule.1 ?_
      intro earlier hearlier hfound
      by_contra hfree
      have hskipped := hbefore earlier hearlier
      simp [hfree, hfound] at hskipped

/-! ## All literals -/

/-- The texts of the rules that literals have chosen. -/
def chosenTexts (chosen : List (List Char × Option Rule)) : List String :=
  chosen.filterMap fun literal => literal.2.map (·.text)

theorem chosenTexts_cons (literal : List Char × Option Rule)
    (chosen : List (List Char × Option Rule)) :
    chosenTexts (literal :: chosen) = chosenTexts [literal] ++ chosenTexts chosen := by
  rw [← List.singleton_append, chosenTexts, List.filterMap_append]
  rfl

theorem mem_chosenTexts_singleton {choice : Option Rule} {text : String} :
    text ∈ chosenTexts [(content, choice)] ↔ ∃ rule, choice = some rule ∧ rule.text = text := by
  cases choice <;> simp [chosenTexts, eq_comm]

/-- Each literal with its choice; the texts it chooses are taken for those behind it. -/
def choices (rules : List Rule) : List String → List (List Char) → List (List Char × Option Rule)
  | _, [] => []
  | taken, content :: rest =>
    let literal := (content, choice? rules taken content)
    literal :: choices rules (taken ++ chosenTexts [literal]) rest

theorem map_fst_choices (rules : List Rule) (taken : List String) (contents : List (List Char)) :
    (choices rules taken contents).map Prod.fst = contents := by
  induction contents generalizing taken with
  | nil => rfl
  | cons content contents ih => rw [choices, List.map_cons, ih]

theorem chooses_of_mem_choices {earlier later : List (List Char × Option Rule)}
    {choice : Option Rule} (h : choices rules taken contents = earlier ++ (content, choice) :: later) :
    Chooses rules (taken ++ chosenTexts earlier) content choice := by
  induction contents generalizing taken earlier with
  | nil => simp [choices] at h
  | cons first contents ih =>
    rw [choices] at h
    cases earlier with
    | nil =>
      obtain ⟨hliteral, _⟩ := List.cons.inj h
      obtain ⟨rfl, hchoice⟩ := Prod.mk.inj hliteral
      simpa [chosenTexts] using chooses_iff.mpr hchoice
    | cons literal earlier =>
      obtain ⟨rfl, hrest⟩ := List.cons.inj h
      rw [chosenTexts_cons, ← List.append_assoc]
      exact ih hrest

theorem choice_not_taken {text : String}
    (h : text ∈ chosenTexts [(content, choice? rules taken content)]) : text ∉ taken := by
  obtain ⟨rule, hchoice, rfl⟩ := mem_chosenTexts_singleton.mp h
  cases chooses_iff.mpr hchoice with
  | earliest before after _ hrules hfound hfree hbefore => exact hfree

theorem nodup_taken_choices (htaken : taken.Nodup) (contents : List (List Char)) :
    (taken ++ chosenTexts (choices rules taken contents)).Nodup := by
  induction contents generalizing taken with
  | nil => simpa [choices, chosenTexts] using htaken
  | cons content contents ih =>
    rw [choices, chosenTexts_cons, ← List.append_assoc]
    refine ih (List.nodup_append.mpr ⟨htaken, ?_, ?_⟩)
    · cases choice? rules taken content <;> simp [chosenTexts]
    · rintro text htext other hother rfl
      exact choice_not_taken hother htext

theorem nodup_chosenTexts (rules : List Rule) (contents : List (List Char)) :
    (chosenTexts (choices rules [] contents)).Nodup := by
  simpa using nodup_taken_choices List.nodup_nil contents

/-! ## The phase for literals -/

/-- What a literal reports that has chosen a rule of the given text. -/
def literalFinding (text : String) : Finding :=
  ⟨"literal:" ++ text, text ++ " (in string literal)"⟩

theorem literalKey_eq_iff {rule other : Rule} :
    literalKey rule = literalKey other ↔ rule.text = other.text := by
  rw [literalKey, literalKey, ← String.toList_inj, ← String.toList_inj]
  simp

theorem label_injective : Function.Injective fun text => (literalFinding text).label := by
  intro text other h
  have hlist := congrArg String.toList h
  simp only [literalFinding, String.toList_append, List.append_cancel_right_eq] at hlist
  exact String.toList_inj.mp hlist

/-- The keys reported so far stand for the texts that are taken. -/
theorem literalsReported_eq {reported : List String}
    (hreported : ∀ rule : Rule, literalKey rule ∈ reported ↔ rule.text ∈ taken) :
    literalsReported rules reported contents =
      (chosenTexts (choices rules taken contents)).map literalFinding := by
  induction contents generalizing reported taken with
  | nil => rfl
  | cons content contents ih =>
    have hchoice : (rules.find? fun rule =>
        literalKey rule ∉ reported && rule.foundIn (String.ofList content)) =
        choice? rules taken content := by
      unfold choice?
      congr 1
      funext rule
      rw [decide_eq_decide.mpr (not_congr (hreported rule))]
    rw [literalsReported, hchoice, choices, chosenTexts_cons, List.map_append]
    cases choice? rules taken content with
    | none => simpa [chosenTexts] using ih hreported
    | some rule =>
      have hnext : ∀ other : Rule, literalKey other ∈ literalKey rule :: reported ↔
          other.text ∈ taken ++ [rule.text] := by
        intro other
        rw [List.mem_cons, literalKey_eq_iff, hreported, List.mem_append, List.mem_singleton, or_comm]
      exact congrArg _ (ih hnext)

theorem literalFindings_eq (hdynamic : hasDynamicContent statement.text.toList = true) :
    literalFindings keywords [] statement =
      (chosenTexts (choices keywords [] (literalContents statement.text.toList))).map
        literalFinding := by
  rw [literalFindings, if_pos hdynamic]
  exact literalsReported_eq (by simp)

theorem literalFindings_of_static (hstatic : hasDynamicContent statement.text.toList = false) :
    literalFindings keywords [] statement = [] :=
  if_neg (by simp [hstatic])

theorem nodup_labels_literalFindings (keywords : List Rule) (statement : Statement) :
    ((literalFindings keywords [] statement).map (·.label)).Nodup := by
  cases hdynamic : hasDynamicContent statement.text.toList with
  | false =>
    rw [literalFindings_of_static hdynamic]
    exact List.nodup_nil
  | true =>
    rw [literalFindings_eq hdynamic, List.map_map]
    exact (nodup_chosenTexts _ _).map label_injective

theorem literalKey_not_mem_names (strategy : Strategy) (statement : Statement) (text : String) :
    "literal:" ++ text ∉ strategy.names statement := by
  intro hname
  exact literalKey_ne_of_isName (.literal text) (isName_of_mem_names hname) rfl

/-- In a statement with dynamic content, each literal reports the earliest keyword that is found in it
and whose text no earlier literal reports, and nothing only if there is none. No label comes twice. What
was reported under names changes nothing in it, as no strategy finds a key of a literal. A statement
without dynamic content reports no literal. -/
theorem literalPhase_greedy (strategies : List Strategy) (keywords objectTypes : List Rule)
    (statement : Statement) :
    detectWith strategies keywords objectTypes statement =
      (nameFindings strategies keywords statement ++
        objectPhase strategies keywords objectTypes statement ++
        literalPhase strategies keywords objectTypes statement).map (Finding.detection statement) ∧
    (hasDynamicContent statement.text.toList = true →
      ∃ chosen : List (List Char × Option Rule),
        chosen.map Prod.fst = literalContents statement.text.toList ∧
        (∀ earlier content choice later, chosen = earlier ++ (content, choice) :: later →
          Chooses keywords (chosenTexts earlier) content choice) ∧
        literalPhase strategies keywords objectTypes statement =
          (chosenTexts chosen).map literalFinding) ∧
    (hasDynamicContent statement.text.toList = false →
      literalPhase strategies keywords objectTypes statement = []) ∧
    ((literalPhase strategies keywords objectTypes statement).map (·.label)).Nodup ∧
    (∀ reported : List String,
      (∀ name ∈ reported, ∃ (strategy : Strategy) (other : Statement), name ∈ strategy.names other) →
      literalFindings keywords reported statement =
        literalPhase strategies keywords objectTypes statement) ∧
    ∀ (strategy : Strategy) (other : Statement) (text : String),
      "literal:" ++ text ∉ strategy.names other := by
  rw [detectWith_eq_phases, literalPhase_eq]
  refine ⟨rfl, fun hdynamic => ⟨_, map_fst_choices keywords [] _, ?_, literalFindings_eq hdynamic⟩,
    literalFindings_of_static, nodup_labels_literalFindings keywords statement, ?_,
    literalKey_not_mem_names⟩
  · intro earlier content choice later hchosen
    simpa using chooses_of_mem_choices hchosen
  · intro reported hreported
    refine literalFindings_of_names ?_
    intro name hname
    obtain ⟨strategy, other, hfound⟩ := hreported name hname
    exact isName_of_mem_names hfound

/-- The second literal passes over a keyword that the first one has chosen, the third over two. -/
theorem literalPhase_greedy_nested :
    ((literalPhase Strategy.all [.literal "pass", .literal "password", .literal "pin"] []
        ⟨"A.java", 1, "log.info(\"pass: password \" + x + \"Password\" + \"pin, password\");", []⟩).map
          (·.label) =
      ["pass (in string literal)", "password (in string literal)", "pin (in string literal)"]) ∧
    ∃ chosen : List (List Char × Option Rule),
      chosen.map Prod.fst = ["pass: password ".toList, "Password".toList, "pin, password".toList] ∧
      ∀ earlier content choice later, chosen = earlier ++ (content, choice) :: later →
        Chooses [.literal "pass", .literal "password", .literal "pin"] (chosenTexts earlier) content
          choice := by
  have hgreedy := literalPhase_greedy Strategy.all
    [.literal "pass", .literal "password", .literal "pin"] []
    ⟨"A.java", 1, "log.info(\"pass: password \" + x + \"Password\" + \"pin, password\");", []⟩
  obtain ⟨chosen, hcontents, hchooses, _⟩ := hgreedy.2.1 (by decide +kernel)
  refine ⟨by decide +kernel, chosen, ?_, hchooses⟩
  rw [hcontents]
  decide +kernel

end LogAudit
