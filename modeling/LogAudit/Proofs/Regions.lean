import LogAudit.Proofs.Openers
import LogAudit.Proofs.Reporting

/-! # Names and the literals of a statement

Three strategies cut fragments out of a statement and read names in each fragment as if it were a text
of its own. Quotes pair up afresh there, so that the inside of a literal can be taken for code.

* `mem_names_iff`: the names of a statement are those of its text and those of its fragments.
* `stands_of_uncut`: a fragment that cuts no literal has only names that stand outside of literals.
* `StaticCall`: a call to which nothing but literals is passed.
* `nameFindings_outside`: when the names reported by keywords stand outside of literals. -/

namespace LogAudit
set_option autoImplicit false

open Source Text

/-! ## Fragments -/

/-- The fragments that strategies cut out of a text, each with what follows its closing parenthesis. -/
def cutFragments (text : List Char) : List (List Char × List Char) :=
  (if occursIn "StringBuilder".toList text || occursIn "StringBuffer".toList text then
    findAll (withRest readInlineAppend) text
  else []) ++
    (findAll (withRest readJoin) text ++ findAll (withRest readJoiner) text)

/-- The names that are read in a fragment. -/
def fragmentNames (fragment : List Char × List Char) : List String :=
  namesOf (trimmed fragment.1)

/-- A fragment of a text neither of whose ends goes through a literal. -/
def Uncut (text : List Char) (fragment : List Char × List Char) : Prop :=
  let stop := text.length - (fragment.2.length + 1)
  ¬ CutsLiteral text (stop - fragment.1.length) ∧ ¬ CutsLiteral text stop

instance (text : List Char) (fragment : List Char × List Char) : Decidable (Uncut text fragment) :=
  inferInstanceAs (Decidable (¬ CutsLiteral _ _ ∧ ¬ CutsLiteral _ _))

theorem namesFound_eq (read : Reader (List Char)) (text : List Char) :
    namesFound read text = (findAll (withRest read) text).flatMap fragmentNames := by
  rw [namesFound, ← findAll_withRest, List.flatMap_map]
  rfl

theorem fragment_shape {text : List Char} {fragment : List Char × List Char}
    (h : fragment ∈ cutFragments text) :
    ∃ before, text = before ++ (fragment.1 ++ ')' :: fragment.2) ∧ '(' ∈ before := by
  obtain ⟨read, hread, hfound⟩ : ∃ read, CutsOut read ∧ fragment ∈ findAll (withRest read) text := by
    simp only [cutFragments, List.mem_append, List.mem_ite_nil_right] at h
    rcases h with ⟨_, h⟩ | h | h
    · exact ⟨_, cutsOut_inlineAppend, h⟩
    · exact ⟨_, cutsOut_join, h⟩
    · exact ⟨_, cutsOut_joiner, h⟩
  obtain ⟨before, here, rfl, hhere⟩ := mem_findAll_withRest hfound
  obtain ⟨passed, rfl, hopen⟩ := hread here fragment.1 fragment.2 hhere
  exact ⟨before ++ passed, by rw [List.append_assoc], List.mem_append_right _ hopen⟩

theorem flatMap_fragmentNames (text : List Char) :
    (cutFragments text).flatMap fragmentNames =
      appendedNames text ++ (joinedNames text ++ joinerNames text) := by
  rw [cutFragments, List.flatMap_append, List.flatMap_append, ← namesFound_eq, ← namesFound_eq,
    appendedNames, namesFound_eq readInlineAppend]
  split <;> rfl

/-- Without buffers, the names of a statement are those of its text and those of its fragments. -/
theorem mem_names_iff {statement : Statement} (htraces : statement.traces = []) {name : String} :
    name ∈ Strategy.all.flatMap (·.names statement) ↔
      name ∈ namesOf statement.text.toList ∨
        ∃ fragment ∈ cutFragments statement.text.toList, name ∈ fragmentNames fragment := by
  rw [← List.mem_flatMap, flatMap_fragmentNames]
  simp [Strategy.all, Strategy.names, htraces, namesOf, or_assoc]

/-! ## Uncut fragments -/

theorem cut_behind_plain {before passed after : List Char} (h : '"' ∉ passed) :
    CutsLiteral (before ++ (passed ++ after)) (before ++ passed).length ↔
      CutsLiteral (before ++ (passed ++ after)) before.length := by
  rw [cut_iff, ← List.append_assoc, cut_iff, List.count_append, List.count_eq_zero.mpr h]
  simp [h]

theorem uncut_iff {text before content behind : List Char}
    (h : text = before ++ (content ++ ')' :: behind)) :
    Uncut text (content, behind) ↔
      ¬ CutsLiteral text before.length ∧ ¬ CutsLiteral text (before ++ content).length := by
  have hstop : text.length - (behind.length + 1) = (before ++ content).length := by
    rw [h]
    simp
    omega
  have hstart : (before ++ content).length - content.length = before.length := by simp
  rw [Uncut, hstop, hstart]

/-- Blanks hold no quotes, so a fragment that cuts no literal cuts none when it is trimmed. -/
theorem uncut_trimmed {text before content behind : List Char}
    (htext : text = before ++ (content ++ behind)) (hstart : ¬ CutsLiteral text before.length)
    (hstop : ¬ CutsLiteral text (before ++ content).length) :
    ∃ left right, text = before ++ left ++ (trimmed content ++ right) ∧
      ¬ CutsLiteral text (before ++ left).length ∧
      ¬ CutsLiteral text (before ++ left ++ trimmed content).length := by
  obtain ⟨left, right, hleft, hright, hcontent⟩ := trimmed_shape content
  have hfront : text = before ++ (left ++ (trimmed content ++ right ++ behind)) := by
    rw [htext]
    conv_lhs => rw [hcontent]
    simp
  have hback : text = before ++ left ++ trimmed content ++ (right ++ behind) := by
    rw [hfront]
    simp
  refine ⟨left, right ++ behind, by rw [hfront]; simp, ?_, ?_⟩
  · rw [hfront, cut_behind_plain (not_mem_of_class hleft (by decide)), ← hfront]
    exact hstart
  · rw [hback, ← cut_behind_plain (not_mem_of_class hright (by decide)), ← hback]
    have hwhole : before ++ left ++ trimmed content ++ right = before ++ content := by
      conv_rhs => rw [hcontent]
      simp
    rw [hwhole]
    exact hstop

/-- A name read in a fragment that cuts no literal stands in the text, within the fragment, and begins
outside of the literals of the text. -/
theorem stands_of_uncut {text before content behind : List Char} {name : String}
    (htext : text = before ++ (content ++ ')' :: behind)) (huncut : Uncut text (content, behind))
    (hname : name ∈ fragmentNames (content, behind)) :
    ∃ front back, text = before ++ front ++ (name.toList ++ back) ∧
      inLiteral (literalRanges text) (before ++ front).length = false := by
  obtain ⟨hstart, hstop⟩ := (uncut_iff htext).mp huncut
  obtain ⟨left, right, hshape, hstart, hstop⟩ := uncut_trimmed htext hstart hstop
  obtain ⟨hname, front, back, htrimmed, houtside⟩ := mem_namesOf hname
  obtain ⟨c, rest, hcons, hc, _⟩ := isName_iff.mp hname
  have hinside : trimmed content = front ++ c :: (rest ++ back) := by
    rw [htrimmed, hcons, List.cons_append]
  rw [hinside] at hshape hstop
  rw [htrimmed, hcons, List.cons_append] at houtside
  refine ⟨left ++ front, back ++ right, by rw [hshape, hcons]; simp, ?_⟩
  rw [hshape] at hstart hstop ⊢
  rw [← List.append_assoc before]
  exact outside_of_uncut (ne_quote_of_isNameStart hc) hstart hstop houtside

/-! ## Static calls -/

/-- What may stand between the literals of a static call. -/
def isJoining (c : Char) : Bool :=
  c == '+' || c == ',' || c == '(' || c == ')' || c == ';' || isBlank c

/-- A call whose code behind the opener is only what stands between literals. -/
structure StaticCall (text opener rest : List Char) : Prop where
  text_eq : text = opener ++ rest
  opens : dropLogOpener text = some rest ∨ dropConsoleOpener text = some rest
  joins : ∀ c ∈ stripLiterals rest, isJoining c = true

theorem not_isJoining_of_isNameStart {c : Char} (h : isNameStart c = true) : isJoining c = false := by
  have hblank : isBlank c = false := by
    rw [isNameStart_iff] at h
    simp [isBlank]
    omega
  have hplus : c ≠ '+' := ne_of_class h (by decide)
  have hcomma : c ≠ ',' := ne_of_class h (by decide)
  have hopen : c ≠ '(' := ne_of_class h (by decide)
  have hclose : c ≠ ')' := ne_of_class h (by decide)
  have hsemicolon : c ≠ ';' := ne_of_class h (by decide)
  simp [isJoining, hblank, hplus, hcomma, hopen, hclose, hsemicolon]

theorem append_split_at {mark : Char} {xs ys zs ws : List Char} (h : xs ++ ys = zs ++ mark :: ws)
    (hxs : mark ∉ xs) : ∃ more, zs = xs ++ more ∧ ys = more ++ mark :: ws := by
  rcases List.append_eq_append_iff.mp h with ⟨more, hzs, hys⟩ | ⟨more, rfl, hws⟩
  · exact ⟨more, hzs, hys⟩
  · cases more with
    | nil => exact ⟨[], by simp, by simpa using hws.symm⟩
    | cons c more =>
      obtain ⟨rfl, _⟩ := List.cons.inj hws
      exact absurd (by simp) hxs

namespace StaticCall

variable {text opener rest : List Char}

theorem opener_shape (h : StaticCall text opener rest) :
    ∃ used, opener = used ++ ['('] ∧ ∀ c ∈ used, isOpening c = true := by
  obtain ⟨used, hused, hopening⟩ : ∃ used, text = used ++ '(' :: rest ∧
      ∀ c ∈ used, isOpening c = true :=
    h.opens.elim (opensWith_log text rest) (opensWith_console text rest)
  refine ⟨used, ?_, hopening⟩
  have hsame : opener ++ rest = used ++ ['('] ++ rest := by rw [← h.text_eq, hused]; simp
  exact List.append_cancel_right hsame

theorem quote_not_mem_opener (h : StaticCall text opener rest) : '"' ∉ opener := by
  obtain ⟨used, hopener, hopening⟩ := h.opener_shape
  rw [hopener]
  simpa using not_mem_of_class hopening (by decide)

/-- Behind the opener, no name begins outside of literals. -/
theorem no_name_behind (h : StaticCall text opener rest) {before after : List Char} {c : Char}
    (hc : isNameStart c = true) (hrest : rest = before ++ c :: after) :
    inLiteral (literalRanges text) (opener ++ before).length = true := by
  by_contra hinside
  have houtside := Bool.eq_false_iff.mpr hinside
  have hne := ne_quote_of_isNameStart hc
  rw [h.text_eq, hrest, ← List.append_assoc, not_inLiteral_iff hne, List.count_append,
    List.count_eq_zero.mpr h.quote_not_mem_opener, Nat.zero_add, ← not_inLiteral_iff hne] at houtside
  have hcode := mem_stripLiterals hne houtside
  rw [← hrest] at hcode
  exact absurd (h.joins c hcode) (by rw [not_isJoining_of_isNameStart hc]; decide)

/-- A name that begins outside of literals stands in the opener. -/
theorem name_in_opener (h : StaticCall text opener rest) {before name after : List Char}
    (hname : isName name = true) (htext : text = before ++ (name ++ after))
    (houtside : inLiteral (literalRanges text) before.length = false) :
    ∃ further, opener = before ++ (name ++ (further ++ ['('])) ∧ after = further ++ '(' :: rest ∧
      ∀ c ∈ before, isOpening c = true := by
  obtain ⟨used, hopener, hopening⟩ := h.opener_shape
  obtain ⟨c, tail, hcons, hc, hword⟩ := isName_iff.mp hname
  have hsplit : before ++ (name ++ after) = used ++ '(' :: rest := by
    rw [← htext, h.text_eq, hopener]
    simp
  rcases List.append_eq_append_iff.mp hsplit with ⟨inner, hused, hinner⟩ | ⟨beyond, hbefore, hbeyond⟩
  · have hopen : '(' ∉ name := not_mem_of_class hword (by decide)
    obtain ⟨further, rfl, hafter⟩ := append_split_at hinner hopen
    refine ⟨further, by rw [hopener, hused]; simp, hafter, fun d hd => hopening d ?_⟩
    rw [hused]
    exact List.mem_append_left _ hd
  · rw [hcons] at hbeyond
    cases beyond with
    | nil =>
      obtain ⟨rfl, _⟩ := List.cons.inj hbeyond
      exact absurd hc (by decide)
    | cons d inner =>
      obtain ⟨rfl, hrest⟩ := List.cons.inj hbeyond
      have hplace : before = opener ++ inner := by
        rw [hbefore, hopener]
        simp
      rw [hplace, h.no_name_behind hc hrest] at houtside
      exact absurd houtside (by decide)

theorem outside_opener (h : StaticCall text opener rest) {before after : List Char} {c : Char}
    (hc : isNameStart c = true) (hopener : opener = before ++ c :: after) :
    inLiteral (literalRanges opener) before.length = false := by
  rw [hopener, not_inLiteral_iff (ne_quote_of_isNameStart hc)]
  intro _ hmem
  exact h.quote_not_mem_opener (by rw [hopener]; simp [hmem])

/-- Whether a parenthesis follows is settled by the first parenthesis. -/
theorem calls_within {further rest : List Char}
    (h : (dropSpaced '(' (further ++ '(' :: rest)).isSome = true) :
    (dropSpaced '(' (further ++ ['('])).isSome = true := by
  obtain ⟨behind, hbehind⟩ := Option.isSome_iff_exists.mp h
  obtain ⟨blanks, hblanks, hshape⟩ := dropSpaced_shape hbehind
  have hopen : '(' ∉ blanks := not_mem_of_class hblanks (by decide)
  obtain ⟨more, rfl, hmore⟩ := append_split_at hshape.symm hopen
  cases more with
  | nil => rw [List.append_nil, dropSpaced_append hblanks (by decide)]; rfl
  | cons c more =>
    obtain ⟨rfl, _⟩ := List.cons.inj hmore
    rw [List.append_assoc, List.cons_append, dropSpaced_append hblanks (by decide)]
    rfl

/-- The names of the text of a static call are those of its opener. -/
theorem mem_namesOf_opener (h : StaticCall text opener rest) {name : String}
    (hname : name ∈ namesOf text) : name ∈ namesOf opener := by
  rcases List.mem_append.mp hname with hname | hname
  · obtain ⟨hname, before, after, htext, hfront, hback, houtside⟩ := mem_wholeNames_iff.mp hname
    obtain ⟨further, hopener, rfl, _⟩ := h.name_in_opener hname htext houtside
    obtain ⟨c, tail, hcons, hc, _⟩ := isName_iff.mp hname
    refine List.mem_append_left _ (mem_wholeNames_iff.mpr ⟨hname, before, _, hopener, hfront, ?_, ?_⟩)
    · cases further <;> simpa using hback
    · exact h.outside_opener hc (by rw [hopener, hcons]; rfl)
  · obtain ⟨hname, before, digits, after, htext, hdigits, hfront, hback, hcall, houtside⟩ :=
      mem_methodCalls_iff.mp hname
    rw [← List.append_assoc] at htext
    obtain ⟨further, hopener, rfl, _⟩ := h.name_in_opener hname htext houtside
    obtain ⟨c, tail, hcons, hc, _⟩ := isName_iff.mp hname
    refine List.mem_append_right _ (mem_methodCalls_iff.mpr ⟨hname, before, digits, _,
      by rw [hopener, List.append_assoc], hdigits, hfront, ?_, ?_, ?_⟩)
    · cases further <;> simpa using hback
    · exact calls_within hcall
    · exact h.outside_opener hc (by rw [hopener, hcons]; rfl)

/-- Fragments of a static call that cut no literal have no names. -/
theorem no_names_in_uncut (h : StaticCall text opener rest) {fragment : List Char × List Char}
    (hfragment : fragment ∈ cutFragments text) (huncut : Uncut text fragment) :
    fragmentNames fragment = [] := by
  rw [List.eq_nil_iff_forall_not_mem]
  intro name hname
  obtain ⟨before, htext, hopen⟩ := fragment_shape hfragment
  obtain ⟨front, back, hplace, houtside⟩ := stands_of_uncut htext huncut hname
  obtain ⟨_, _, _, hopening⟩ := h.name_in_opener (mem_namesOf hname).1 hplace houtside
  exact absurd (hopening '(' (List.mem_append_left _ hopen)) (by decide)

end StaticCall

/-! ## Reported names -/

/-- Nothing is reported if the rules match no candidate, and only then. -/
theorem namesReported_eq_nil_iff {rules : List Rule} {candidates : List String} :
    namesReported rules [] candidates = [] ↔
      ∀ name ∈ candidates, ∀ rule ∈ rules, rule.matchesName name = false := by
  have hkeys : namesReported rules [] candidates = [] ↔
      (namesReported rules [] candidates).map (·.key) = [] := List.map_eq_nil_iff.symm
  rw [hkeys, List.eq_nil_iff_forall_not_mem]
  simp [(reportsOnce_namesReported rules [] candidates).mem_iff]

/-- Only names of fragments can be reported from within literals. -/
theorem outside_iff_fragments {keywords : List Rule} {statement : Statement}
    (htraces : statement.traces = []) :
    (∀ finding ∈ nameFindings Strategy.all keywords statement,
        StandsOutside statement.text.toList finding.key.toList) ↔
      ∀ fragment ∈ cutFragments statement.text.toList, ∀ name ∈ fragmentNames fragment,
        (∃ rule ∈ keywords, rule.matchesName name = true) →
          StandsOutside statement.text.toList name.toList := by
  have hreports : ReportsOnce keywords [] (Strategy.all.flatMap (·.names statement))
      (nameFindings Strategy.all keywords statement) := reportsOnce_namesReported _ _ _
  constructor
  · intro houtside fragment hfragment name hname hmatched
    have hcandidate := (mem_names_iff htraces).mpr (Or.inr ⟨fragment, hfragment, hname⟩)
    obtain ⟨finding, hfinding, rfl⟩ :=
      List.mem_map.mp ((hreports.mem_iff name).mpr ⟨hcandidate, List.not_mem_nil, hmatched⟩)
    exact houtside finding hfinding
  · intro hfragments finding hfinding
    obtain ⟨hcandidate, rule, hrule, hmatches, _⟩ := hreports.source hfinding
    rcases (mem_names_iff htraces).mp hcandidate with hname | ⟨fragment, hfragment, hname⟩
    · exact (mem_namesOf hname).2
    · exact hfragments fragment hfragment _ hname ⟨rule, hrule, hmatches⟩

theorem standsOutside_of_uncut {text : List Char} {fragment : List Char × List Char} {name : String}
    (hfragment : fragment ∈ cutFragments text) (huncut : Uncut text fragment)
    (hname : name ∈ fragmentNames fragment) : StandsOutside text name.toList := by
  obtain ⟨before, htext, _⟩ := fragment_shape hfragment
  obtain ⟨front, back, hplace, houtside⟩ := stands_of_uncut htext huncut hname
  exact ⟨before ++ front, back, hplace, houtside⟩

/-- A static call whose opener the keywords do not match reports names of fragments only. -/
theorem StaticCall.silent_iff {keywords : List Rule} {statement : Statement} {opener rest : List Char}
    (h : StaticCall statement.text.toList opener rest) (htraces : statement.traces = [])
    (hopener : ∀ name ∈ namesOf opener, ∀ rule ∈ keywords, rule.matchesName name = false) :
    nameFindings Strategy.all keywords statement = [] ↔
      ∀ fragment ∈ cutFragments statement.text.toList, ∀ name ∈ fragmentNames fragment,
        ∀ rule ∈ keywords, rule.matchesName name = false := by
  rw [nameFindings, namesReported_eq_nil_iff]
  constructor
  · intro hsilent fragment hfragment name hname
    exact hsilent name ((mem_names_iff htraces).mpr (Or.inr ⟨fragment, hfragment, hname⟩))
  · intro hfragments name hcandidate
    rcases (mem_names_iff htraces).mp hcandidate with hname | ⟨fragment, hfragment, hname⟩
    · exact hopener name (h.mem_namesOf_opener hname)
    · exact hfragments fragment hfragment name hname

/-- A statement without buffers reports under keywords only names that stand outside of its literals,
provided that the keywords match no other name of a fragment. That is so if no fragment cuts a literal.
A static call whose opener the keywords do not match reports nothing, under the same conditions. -/
theorem nameFindings_outside (keywords : List Rule) (statement : Statement)
    (htraces : statement.traces = []) :
    ((∀ finding ∈ nameFindings Strategy.all keywords statement,
        StandsOutside statement.text.toList finding.key.toList) ↔
      ∀ fragment ∈ cutFragments statement.text.toList, ∀ name ∈ fragmentNames fragment,
        (∃ rule ∈ keywords, rule.matchesName name = true) →
          StandsOutside statement.text.toList name.toList) ∧
    ((∀ fragment ∈ cutFragments statement.text.toList, Uncut statement.text.toList fragment) →
      ∀ finding ∈ nameFindings Strategy.all keywords statement,
        StandsOutside statement.text.toList finding.key.toList) ∧
    ∀ opener rest, StaticCall statement.text.toList opener rest →
      (∀ name ∈ namesOf opener, ∀ rule ∈ keywords, rule.matchesName name = false) →
      (nameFindings Strategy.all keywords statement = [] ↔
        ∀ fragment ∈ cutFragments statement.text.toList, ∀ name ∈ fragmentNames fragment,
          ∀ rule ∈ keywords, rule.matchesName name = false) ∧
      ((∀ fragment ∈ cutFragments statement.text.toList, Uncut statement.text.toList fragment) →
        nameFindings Strategy.all keywords statement = []) := by
  refine ⟨outside_iff_fragments htraces, fun huncut => ?_, fun opener rest hcall hopener =>
    ⟨hcall.silent_iff htraces hopener, fun huncut => ?_⟩⟩
  · refine (outside_iff_fragments htraces).mpr fun fragment hfragment name hname _ => ?_
    exact standsOutside_of_uncut hfragment (huncut fragment hfragment) hname
  · refine (hcall.silent_iff htraces hopener).mpr fun fragment hfragment name hname => ?_
    rw [hcall.no_names_in_uncut hfragment (huncut fragment hfragment)] at hname
    exact absurd hname List.not_mem_nil

/-- A variable that is appended beside a literal is reported and stands outside of it. A static call
whose literal speaks of a password reports nothing. -/
theorem nameFindings_outside_append_and_static :
    nameFindings Strategy.all [.literal "password"]
        ⟨"A.java", 1, "log.info(new StringBuilder().append(\"password: \" + password));", []⟩ ≠ [] ∧
      (∀ finding ∈ nameFindings Strategy.all [.literal "password"]
          ⟨"A.java", 1, "log.info(new StringBuilder().append(\"password: \" + password));", []⟩,
        StandsOutside "log.info(new StringBuilder().append(\"password: \" + password));".toList
          finding.key.toList) ∧
      nameFindings Strategy.all [.literal "password"]
        ⟨"A.java", 1, "log.info(\"StringBuilder, password: \" + \"x\");", []⟩ = [] := by
  refine ⟨by decide +kernel, (nameFindings_outside _ _ rfl).2.1 (by decide +kernel),
    ((nameFindings_outside [.literal "password"] ⟨"A.java", 1, _, []⟩ rfl).2.2
      "log.info(".toList "\"StringBuilder, password: \" + \"x\");".toList ?_ ?_).2 ?_⟩
  · exact ⟨by decide +kernel, Or.inl (by decide +kernel), List.all_eq_true.mp (by decide +kernel)⟩
  · decide +kernel
  · decide +kernel

/-- Behind `append` within a literal, the literal is read as code. -/
theorem nameFindings_within_literal :
    ∃ finding ∈ nameFindings Strategy.all [.literal "password"]
        ⟨"T.java", 1, "log.info(\"StringBuilder .append(password)\");", []⟩,
      ¬ StandsOutside "log.info(\"StringBuilder .append(password)\");".toList finding.key.toList := by
  refine ⟨⟨"password", "password"⟩, by decide +kernel, by decide +kernel⟩

end LogAudit
