import LogAudit.Proofs.Names
import LogAudit.Source.Dynamic

/-! # Code does not depend on the contents of literals

A text is code with literals in between. The passes over a text see the literals, too, but no run of word
characters goes across a quote, and a run inside of a literal does not count. So a pass finds in a text
what it finds in each part of its code, whatever the literals say.

* `runs_append_mark`: runs on both sides of a character that is in no run.
* `pieces_literal`: the pieces of a text that begins with code and a literal.
* `namesPicked_literal`: what a pass picks from such a text.
* `CutInto`: a text, the parts of its code and the contents of its literals.
* `extraction_ignores_contents`: names and dynamic content of texts with the same code. -/

namespace LogAudit.Text
set_option autoImplicit false

/-! ## Runs -/

/-- A run with more text behind it. -/
def Run.before (tail : List Char) (run : Run) : Run := { run with after := run.after ++ tail }

/-- A run in a text that begins further on. -/
def Run.movedBy (count : Nat) (run : Run) : Run := { run with start := count + run.start }

variable {inClass : Char → Bool}

theorem runsFrom_movedBy (count : Nat) {offset : Nat} {opened : List Char}
    (h : opened.length ≤ offset) (text : List Char) :
    runsFrom inClass (count + offset) opened text =
      (runsFrom inClass offset opened text).map (Run.movedBy count) := by
  induction text generalizing offset opened with
  | nil =>
    cases opened with
    | nil => rfl
    | cons d opened =>
      have hstart := Nat.add_sub_assoc h count
      simp only [runsFrom, hstart]
      rfl
  | cons c rest ih =>
    by_cases hc : inClass c = true
    · have hopened : (c :: opened).length ≤ offset + 1 := Nat.succ_le_succ h
      have hrest := ih hopened
      rw [← Nat.add_assoc] at hrest
      simpa only [runsFrom, if_pos hc] using hrest
    · have hnone : ([] : List Char).length ≤ offset + 1 := Nat.zero_le _
      have hrest := ih hnone
      rw [← Nat.add_assoc] at hrest
      cases opened with
      | nil => simpa [runsFrom, hc] using hrest
      | cons d opened =>
        have hstart := Nat.add_sub_assoc h count
        simp only [runsFrom, if_neg hc, hstart, hrest]
        rfl

theorem runsFrom_append_mark {mark : Char} (hmark : inClass mark = false) (xs ys : List Char)
    (offset : Nat) (opened : List Char) :
    runsFrom inClass offset opened (xs ++ mark :: ys) =
      (runsFrom inClass offset opened xs).map (Run.before (mark :: ys)) ++
        runsFrom inClass (offset + xs.length + 1) [] ys := by
  induction xs generalizing offset opened with
  | nil => cases opened <;> simp [runsFrom, hmark, Run.before]
  | cons c xs ih =>
    have hlength : offset + (c :: xs).length + 1 = offset + 1 + xs.length + 1 := by
      simp only [List.length_cons]
      omega
    rw [List.cons_append, hlength]
    by_cases hc : inClass c = true
    · simp only [runsFrom, if_pos hc, ih]
    · cases opened <;> simp [runsFrom, hc, ih, Run.before]

/-- The runs of a text with a character in it that is in no run: those before it and those behind. -/
theorem runs_append_mark {mark : Char} (hmark : inClass mark = false) (xs ys : List Char) :
    runs inClass (xs ++ mark :: ys) =
      (runs inClass xs).map (Run.before (mark :: ys)) ++
        (runs inClass ys).map (Run.movedBy (xs.length + 1)) := by
  have hmoved : runsFrom inClass (xs.length + 1 + 0) [] ys =
      (runs inClass ys).map (Run.movedBy (xs.length + 1)) := runsFrom_movedBy _ (Nat.le_refl 0) ys
  rw [runs, runsFrom_append_mark hmark, ← hmoved, runs, Nat.zero_add, Nat.add_zero]

theorem stop_le_of_mem_runs {text : List Char} {run : Run} (h : run ∈ runs inClass text) :
    run.start + run.text.length ≤ text.length := by
  obtain ⟨before, htext, hstart, -⟩ := mem_runs_iff.mp h
  rw [hstart, htext]
  simp only [List.length_append]
  omega

end LogAudit.Text

namespace LogAudit.Source
set_option autoImplicit false

open Text

variable {code content text : List Char}

/-! ## Pieces -/

theorem pieces_append_code (hcode : '"' ∉ code) (rest : List Char) :
    pieces (code ++ rest) = code.map .code ++ pieces rest := by
  induction code with
  | nil => rfl
  | cons c code ih =>
    obtain ⟨hc, hcode⟩ : c ≠ '"' ∧ '"' ∉ code := by simpa [eq_comm] using hcode
    have hstep : pieces (c :: code ++ rest) = .code c :: pieces (code ++ rest) := if_neg hc
    rw [hstep, ih hcode]
    rfl

theorem pieces_of_no_quote (hcode : '"' ∉ code) : pieces code = code.map .code := by
  have hplain := pieces_append_code hcode []
  rw [List.append_nil] at hplain
  rw [hplain]
  exact List.append_nil _

theorem piecesFrom_content (hcontent : '"' ∉ content) (held rest : List Char) :
    piecesFrom (some held) (content ++ '"' :: rest) =
      .quoted (held.reverse ++ content) :: pieces rest := by
  induction content generalizing held with
  | nil => simp [piecesFrom, pieces]
  | cons c content ih =>
    obtain ⟨hc, hcontent⟩ : c ≠ '"' ∧ '"' ∉ content := by simpa [eq_comm] using hcontent
    rw [List.cons_append, piecesFrom, if_neg hc, ih hcontent]
    simp

/-- The pieces of code, a literal and more text. -/
theorem pieces_literal (hcode : '"' ∉ code) (hcontent : '"' ∉ content) (text : List Char) :
    pieces (code ++ '"' :: (content ++ '"' :: text)) =
      code.map .code ++ .quoted content :: pieces text := by
  have hquote : pieces ('"' :: (content ++ '"' :: text)) =
      piecesFrom (some []) (content ++ '"' :: text) := rfl
  rw [pieces_append_code hcode, hquote, piecesFrom_content hcontent]
  rfl

theorem filterMap_code_map (code : List Char) : (code.map Piece.code).filterMap Piece.code? = code := by
  rw [List.filterMap_map]
  exact List.filterMap_some

theorem filterMap_content_map (code : List Char) :
    (code.map Piece.code).filterMap Piece.content? = [] := by
  rw [List.filterMap_map, List.filterMap_eq_nil_iff]
  exact fun _ _ => rfl

theorem stripLiterals_of_no_quote (hcode : '"' ∉ code) : stripLiterals code = code := by
  rw [stripLiterals, pieces_of_no_quote hcode, filterMap_code_map]

theorem stripLiterals_append_code (hcode : '"' ∉ code) (rest : List Char) :
    stripLiterals (code ++ rest) = code ++ stripLiterals rest := by
  rw [stripLiterals, pieces_append_code hcode, List.filterMap_append, filterMap_code_map, stripLiterals]

theorem stripLiterals_literal (hcode : '"' ∉ code) (hcontent : '"' ∉ content) (text : List Char) :
    stripLiterals (code ++ '"' :: (content ++ '"' :: text)) = code ++ stripLiterals text := by
  rw [stripLiterals, pieces_literal hcode hcontent, List.filterMap_append, filterMap_code_map]
  rfl

/-! ## Ranges -/

/-- A range in a text that begins further on. -/
def Range.movedBy (count : Nat) (range : Range) : Range := ⟨count + range.start, count + range.stop⟩

theorem rangesFrom_movedBy (count offset : Nat) (pieces : List Piece) :
    rangesFrom (count + offset) pieces = (rangesFrom offset pieces).map (Range.movedBy count) := by
  induction pieces generalizing offset with
  | nil => rfl
  | cons piece pieces ih =>
    cases piece with
    | code c => exact ih (offset + 1)
    | quoted content =>
      have hrest := ih (offset + content.length + 2)
      have hstop : count + offset + content.length + 2 = count + (offset + content.length + 2) := by omega
      rw [rangesFrom, rangesFrom, hstop, hrest]
      rfl

theorem rangesFrom_append_code (offset : Nat) (code : List Char) (pieces : List Piece) :
    rangesFrom offset (code.map .code ++ pieces) = rangesFrom (offset + code.length) pieces := by
  induction code generalizing offset with
  | nil => rfl
  | cons c code ih =>
    have hrest := ih (offset + 1)
    rw [List.length_cons, Nat.add_comm code.length, ← Nat.add_assoc]
    exact hrest

theorem literalRanges_literal (hcode : '"' ∉ code) (hcontent : '"' ∉ content) (text : List Char) :
    literalRanges (code ++ '"' :: (content ++ '"' :: text)) =
      ⟨code.length, code.length + content.length + 2⟩ ::
        (literalRanges text).map (Range.movedBy (code.length + content.length + 2)) := by
  have hmoved := rangesFrom_movedBy (code.length + content.length + 2) 0 (pieces text)
  rw [Nat.add_zero] at hmoved
  rw [literalRanges, pieces_literal hcode hcontent, rangesFrom_append_code, Nat.zero_add, rangesFrom,
    hmoved, literalRanges]

theorem literalRanges_code (hcode : '"' ∉ code) : literalRanges code = [] := by
  rw [literalRanges, pieces_of_no_quote hcode]
  exact rangesFrom_code 0 code

theorem inLiteral_movedBy (ranges : List Range) (count place : Nat) :
    inLiteral (ranges.map (Range.movedBy count)) (count + place : Nat) = inLiteral ranges place := by
  rw [Bool.eq_iff_iff, inLiteral_eq_true_iff, inLiteral_eq_true_iff]
  simp [Range.movedBy]

/-- Places in code, in the first literal and behind it. -/
theorem inLiteral_literal (hcode : '"' ∉ code) (hcontent : '"' ∉ content) (text : List Char)
    (place : Nat) :
    (place < code.length →
      inLiteral (literalRanges (code ++ '"' :: (content ++ '"' :: text))) place = false) ∧
    (place < content.length →
      inLiteral (literalRanges (code ++ '"' :: (content ++ '"' :: text)))
        (code.length + 1 + place : Nat) = true) ∧
    inLiteral (literalRanges (code ++ '"' :: (content ++ '"' :: text)))
        (code.length + 1 + (content.length + 1 + place) : Nat) =
      inLiteral (literalRanges text) place := by
  rw [literalRanges_literal hcode hcontent]
  refine ⟨fun h => ?_, fun h => ?_, ?_⟩
  · rw [Bool.eq_false_iff, ne_eq, inLiteral_eq_true_iff]
    simp only [List.mem_cons, List.mem_map, Range.movedBy]
    rintro ⟨range, rfl | ⟨inner, -, rfl⟩, hstart, -⟩
    · exact absurd hstart (by simp only; omega)
    · exact absurd hstart (by simp only; omega)
  · rw [inLiteral_eq_true_iff]
    exact ⟨_, List.mem_cons_self, by simp only; omega, by simp only; omega⟩
  · have hplace : code.length + 1 + (content.length + 1 + place) =
        code.length + content.length + 2 + place := by omega
    have hbehind : Range.covers ⟨code.length, code.length + content.length + 2⟩
        (code.length + content.length + 2 + place : Nat) = false := by
      simp [Range.covers]
    rw [hplace, ← inLiteral_movedBy (literalRanges text) (code.length + content.length + 2), inLiteral,
      List.any_cons, hbehind, Bool.false_or, inLiteral]

/-! ## Passes -/

/-- The name that `pick` finds in a run together with the offset at which it begins. A name that begins
in a literal does not count. -/
def pickOutside (pick : Run → Option (Nat × String)) (literals : List Range) (run : Run) :
    Option String :=
  (pick run).bind fun found =>
    if inLiteral literals (run.start + found.1 : Nat) then none else some found.2

/-- The names that a pass over the runs of a class picks. -/
def namesPicked (inClass : Char → Bool) (pick : Run → Option (Nat × String)) (text : List Char) :
    List String :=
  (runs inClass text).filterMap (pickOutside pick (literalRanges text))

/-- What is picked in a run depends neither on its place nor on what stands behind the next quote. -/
structure Picks (inClass : Char → Bool) (pick : Run → Option (Nat × String)) : Prop where
  quote : inClass '"' = false
  within : ∀ run found, pick run = some found → found.1 < run.text.length
  movedBy : ∀ count run, pick (run.movedBy count) = pick run
  before : ∀ tail run, pick (run.before ('"' :: tail)) = pick run

section Passing

variable {inClass : Char → Bool} {pick : Run → Option (Nat × String)} {run : Run}

theorem Picks.in_code (h : Picks inClass pick) (hcode : '"' ∉ code) (hcontent : '"' ∉ content)
    (text : List Char) (hrun : run ∈ runs inClass code) :
    pickOutside pick (literalRanges (code ++ '"' :: (content ++ '"' :: text)))
        (run.before ('"' :: (content ++ '"' :: text))) =
      pickOutside pick (literalRanges code) run := by
  have hstop := stop_le_of_mem_runs hrun
  rw [pickOutside, pickOutside, h.before, literalRanges_code hcode]
  refine Option.bind_congr fun found hfound => ?_
  have hwithin := h.within run found hfound
  have hstart : (run.before ('"' :: (content ++ '"' :: text))).start = run.start := rfl
  rw [hstart, (inLiteral_literal hcode hcontent text _).1 (by omega)]
  rfl

theorem Picks.in_content (h : Picks inClass pick) (hcode : '"' ∉ code) (hcontent : '"' ∉ content)
    (text : List Char) (hrun : run ∈ runs inClass content) :
    pickOutside pick (literalRanges (code ++ '"' :: (content ++ '"' :: text)))
      ((run.before ('"' :: text)).movedBy (code.length + 1)) = none := by
  have hstop := stop_le_of_mem_runs hrun
  rw [pickOutside, h.movedBy, h.before, Option.bind_eq_none_iff]
  intro found hfound
  have hwithin := h.within run found hfound
  have hstart : ((run.before ('"' :: text)).movedBy (code.length + 1)).start + found.1 =
      code.length + 1 + (run.start + found.1) := Nat.add_assoc _ _ _
  rw [hstart, (inLiteral_literal hcode hcontent text _).2.1 (by omega)]
  rfl

theorem Picks.behind_literal (h : Picks inClass pick) (hcode : '"' ∉ code) (hcontent : '"' ∉ content)
    (text : List Char) :
    pickOutside pick (literalRanges (code ++ '"' :: (content ++ '"' :: text)))
        ((run.movedBy (content.length + 1)).movedBy (code.length + 1)) =
      pickOutside pick (literalRanges text) run := by
  rw [pickOutside, pickOutside, h.movedBy, h.movedBy]
  refine Option.bind_congr fun found _ => ?_
  have hstart : ((run.movedBy (content.length + 1)).movedBy (code.length + 1)).start + found.1 =
      code.length + 1 + (content.length + 1 + (run.start + found.1)) := by
    simp only [Run.movedBy]
    omega
  rw [hstart, (inLiteral_literal hcode hcontent text _).2.2]

/-- A pass picks nothing from a literal, and from the text around it as if the literal was not there. -/
theorem namesPicked_literal (h : Picks inClass pick) (hcode : '"' ∉ code) (hcontent : '"' ∉ content)
    (text : List Char) :
    namesPicked inClass pick (code ++ '"' :: (content ++ '"' :: text)) =
      namesPicked inClass pick code ++ namesPicked inClass pick text := by
  rw [namesPicked, runs_append_mark h.quote, runs_append_mark h.quote]
  simp only [List.map_append, List.filterMap_append, List.filterMap_map, List.map_map, Function.comp_def]
  rw [List.filterMap_congr fun run hrun => h.in_code hcode hcontent text hrun,
    List.filterMap_eq_nil_iff.mpr fun run hrun => h.in_content hcode hcontent text hrun,
    List.filterMap_congr fun run _ => h.behind_literal hcode hcontent text, List.nil_append]
  rfl

end Passing

/-- A run that is a name. -/
def pickWhole (run : Run) : Option (Nat × String) :=
  if isName run.text then some (0, String.ofList run.text) else none

/-- The name behind the digits of a run that a parenthesis follows. -/
def pickCall (run : Run) : Option (Nat × String) :=
  let name := run.text.dropWhile Char.isDigit
  if !name.isEmpty && (dropSpaced '(' run.after).isSome then
    some ((run.text.takeWhile Char.isDigit).length, String.ofList name)
  else none

theorem wholeNames_eq (text : List Char) : wholeNames text = namesPicked isWord pickWhole text := by
  refine List.filterMap_congr fun run _ => ?_
  cases hname : isName run.text <;>
    cases hplace : inLiteral (literalRanges text) run.start <;>
    simp [pickOutside, pickWhole, hname, hplace]

theorem methodCalls_eq (text : List Char) :
    methodCalls text = namesPicked isAsciiWord pickCall text := by
  refine List.filterMap_congr fun run _ => ?_
  dsimp only [pickOutside, pickCall]
  cases hcall : !(run.text.dropWhile Char.isDigit).isEmpty && (dropSpaced '(' run.after).isSome <;>
    cases hplace : inLiteral (literalRanges text)
      (run.start + (run.text.takeWhile Char.isDigit).length : Nat) <;>
    simp only [Bool.false_eq_true, if_false, if_true, Bool.true_and, Bool.false_and, Bool.not_true,
      Bool.not_false, Option.bind_none, Option.bind_some, hplace]

theorem picks_whole : Picks isWord pickWhole := by
  refine ⟨by decide, fun run found hfound => ?_, fun _ _ => rfl, fun _ _ => rfl⟩
  rw [pickWhole, Option.ite_none_right_eq_some, Option.some.injEq] at hfound
  obtain ⟨hname, rfl⟩ := hfound
  exact List.length_pos_of_ne_nil (isName_ne_nil hname)

/-- A quote stands in the way of a parenthesis. -/
theorem isSome_dropSpaced_quote (after tail : List Char) :
    (dropSpaced '(' (after ++ '"' :: tail)).isSome = (dropSpaced '(' after).isSome := by
  have hquote : dropBlanks ('"' :: tail) = '"' :: tail := rfl
  rw [dropSpaced, dropSpaced, dropBlanks, List.dropWhile_append]
  rw [dropBlanks] at hquote
  cases hdrop : after.dropWhile isBlank with
  | nil => simp [dropBlanks, hdrop, hquote]
  | cons c rest => by_cases hc : c = '(' <;> simp [dropBlanks, hdrop, hc]

theorem picks_call : Picks isAsciiWord pickCall := by
  refine ⟨by decide, fun run found hfound => ?_, fun _ _ => rfl, fun tail run => ?_⟩
  · dsimp only [pickCall] at hfound
    rw [Option.ite_none_right_eq_some, Option.some.injEq] at hfound
    obtain ⟨hcall, rfl⟩ := hfound
    have hname : run.text.dropWhile Char.isDigit ≠ [] := by simpa using (Bool.and_eq_true_iff.mp hcall).1
    have hsplit := congrArg List.length
      (List.takeWhile_append_dropWhile (p := Char.isDigit) (l := run.text))
    have hpos := List.length_pos_of_ne_nil hname
    rw [List.length_append] at hsplit
    simp only
    omega
  · dsimp only [pickCall, Run.before]
    rw [isSome_dropSpaced_quote]

/-! ## Texts -/

/-- A text with the parts of its code and the contents of its literals. Between two literals there is a
part of code, perhaps an empty one; behind the last literal a quote may be left without a partner. -/
inductive CutInto : List Char → List (List Char) → List (List Char) → Prop
  | last {code : List Char} : code.count '"' ≤ 1 → CutInto code [code] []
  | literal {code content text : List Char} {codes contents : List (List Char)} :
      '"' ∉ code → '"' ∉ content → CutInto text codes contents →
      CutInto (code ++ '"' :: (content ++ '"' :: text)) (code :: codes) (content :: contents)

theorem exists_cutInto (text : List Char) : ∃ codes contents, CutInto text codes contents := by
  induction hlength : text.length using Nat.strong_induction_on generalizing text with
  | _ length ih =>
    by_cases hcount : text.count '"' ≤ 1
    · exact ⟨[text], [], .last hcount⟩
    · obtain ⟨code, behind, rfl, hcode⟩ : ∃ code behind, text = code ++ '"' :: behind ∧ '"' ∉ code :=
        List.eq_append_cons_of_mem (List.count_pos_iff.mp (by omega))
      rw [List.count_append, List.count_cons_self, List.count_eq_zero.mpr hcode] at hcount
      obtain ⟨content, rest, rfl, hcontent⟩ :
          ∃ content rest, behind = content ++ '"' :: rest ∧ '"' ∉ content :=
        List.eq_append_cons_of_mem (List.count_pos_iff.mp (by omega))
      have hshort : rest.length < length := by
        rw [← hlength]
        simp only [List.length_append, List.length_cons]
        omega
      obtain ⟨codes, contents, hrest⟩ := ih rest.length hshort rest rfl
      exact ⟨code :: codes, content :: contents, .literal hcode hcontent hrest⟩

/-- What is found in a text part by part, past the literals. -/
theorem CutInto.flatMap {α : Type} {look : List Char → List α}
    (hlook : ∀ {code content : List Char}, '"' ∉ code → '"' ∉ content → ∀ text,
      look (code ++ '"' :: (content ++ '"' :: text)) = look code ++ look text)
    {text : List Char} {codes contents : List (List Char)} (h : CutInto text codes contents) :
    look text = codes.flatMap look := by
  induction h with
  | last _ => rw [List.flatMap_singleton]
  | literal hcode hcontent _ ih => rw [hlook hcode hcontent, ih, List.flatMap_cons]

theorem CutInto.flatMap_wholeNames {text : List Char} {codes contents : List (List Char)}
    (h : CutInto text codes contents) : wholeNames text = codes.flatMap wholeNames := by
  simp only [funext wholeNames_eq]
  exact h.flatMap (namesPicked_literal picks_whole)

theorem CutInto.flatMap_methodCalls {text : List Char} {codes contents : List (List Char)}
    (h : CutInto text codes contents) : methodCalls text = codes.flatMap methodCalls := by
  simp only [funext methodCalls_eq]
  exact h.flatMap (namesPicked_literal picks_call)

theorem pieces_unpaired (h : code.count '"' ≤ 1) : pieces code = code.map .code := by
  by_cases hquote : '"' ∈ code
  · obtain ⟨front, back, rfl, hfront⟩ := List.eq_append_cons_of_mem hquote
    rw [List.count_append, List.count_cons_self] at h
    have hback : '"' ∉ back := List.count_eq_zero.mp (by omega)
    have hopen : pieces ('"' :: back) = ('"' :: back).map .code := piecesFrom_open hback
    rw [pieces_append_code hfront, hopen, List.map_append]
  · exact pieces_of_no_quote hquote

theorem CutInto.flatten_codes {text : List Char} {codes contents : List (List Char)}
    (h : CutInto text codes contents) : stripLiterals text = codes.flatten := by
  induction h with
  | last hcount => rw [stripLiterals, pieces_unpaired hcount, filterMap_code_map, List.flatten_singleton]
  | literal hcode hcontent _ ih => rw [stripLiterals_literal hcode hcontent, ih, List.flatten_cons]

theorem CutInto.literalContents_eq {text : List Char} {codes contents : List (List Char)}
    (h : CutInto text codes contents) :
    literalContents text = contents.filter fun content => !content.all isBlank := by
  induction h with
  | last hcount => rw [literalContents, pieces_unpaired hcount, filterMap_content_map, List.filter_nil]
  | @literal _ content _ _ _ hcode hcontent _ ih =>
    rw [literalContents, pieces_literal hcode hcontent, List.filterMap_append, filterMap_content_map,
      List.nil_append, List.filterMap_cons, List.filter_cons, ← ih, literalContents, Piece.content?]
    cases content.all isBlank <;> rfl

/-- Behind a text without an open quote, literals begin afresh. -/
theorem pieces_append {text : List Char} (h : '"' ∉ stripLiterals text) (rest : List Char) :
    pieces (text ++ rest) = pieces text ++ pieces rest := by
  obtain ⟨codes, contents, hcut⟩ := exists_cutInto text
  induction hcut with
  | last hcount =>
    rw [stripLiterals, pieces_unpaired hcount, filterMap_code_map] at h
    rw [pieces_append_code h, pieces_of_no_quote h]
  | @literal code content text _ _ hcode hcontent _ ih =>
    rw [stripLiterals_literal hcode hcontent, List.mem_append, not_or] at h
    have hshape : code ++ '"' :: (content ++ '"' :: text) ++ rest =
        code ++ '"' :: (content ++ '"' :: (text ++ rest)) := by simp
    rw [hshape, pieces_literal hcode hcontent, pieces_literal hcode hcontent, ih h.2]
    simp

/-- Every text is cut into code and literals, as when its literals are taken away or those that are not
blank are read out, and its names are those of its parts of code, one part behind the other. Two texts with
the same parts of code have the same names, the same method calls and both or neither have dynamic content,
whatever their literals say. -/
theorem extraction_ignores_contents :
    (∀ text, ∃ codes contents, CutInto text codes contents) ∧
    (∀ (text : List Char) (codes contents : List (List Char)), CutInto text codes contents →
      wholeNames text = codes.flatMap wholeNames ∧ stripLiterals text = codes.flatten ∧
        literalContents text = contents.filter fun content => !content.all isBlank) ∧
    ∀ (text other : List Char) (codes contents others : List (List Char)),
      CutInto text codes contents → CutInto other codes others →
      wholeNames text = wholeNames other ∧ methodCalls text = methodCalls other ∧
        hasDynamicContent text = hasDynamicContent other := by
  refine ⟨exists_cutInto, fun text codes contents htext => ?_,
    fun text other codes contents others htext hother => ⟨?_, ?_, ?_⟩⟩
  · exact ⟨htext.flatMap_wholeNames, htext.flatten_codes, htext.literalContents_eq⟩
  · rw [htext.flatMap_wholeNames, hother.flatMap_wholeNames]
  · rw [htext.flatMap_methodCalls, hother.flatMap_methodCalls]
  · have hcode : stripLiterals text = stripLiterals other := by
      rw [htext.flatten_codes, hother.flatten_codes]
    simp only [hasDynamicContent, residue, hcode]

/-- Two texts with a quote left open behind their literals. -/
theorem extraction_ignores_contents_unpaired :
    wholeNames "log(\"password(x)\" + get(id) + \"\" + \" + key);".toList =
        wholeNames "log(\"\" + get(id) + \" + hidden( \" + \" + key);".toList ∧
      methodCalls "log(\"password(x)\" + get(id) + \"\" + \" + key);".toList =
        methodCalls "log(\"\" + get(id) + \" + hidden( \" + \" + key);".toList := by
  have hlast : CutInto " + \" + key);".toList [" + \" + key);".toList] [] := .last (by decide)
  have hone := CutInto.literal (by decide : '"' ∉ "log(".toList)
    (by decide : '"' ∉ "password(x)".toList)
    (.literal (by decide : '"' ∉ " + get(id) + ".toList) (by decide : '"' ∉ "".toList) hlast)
  have htwo := CutInto.literal (by decide : '"' ∉ "log(".toList) (by decide : '"' ∉ "".toList)
    (.literal (by decide : '"' ∉ " + get(id) + ".toList) (by decide : '"' ∉ " + hidden( ".toList) hlast)
  have h := extraction_ignores_contents.2.2 _ _ _ _ _ hone htwo
  have hfirst : "log(\"password(x)\" + get(id) + \"\" + \" + key);".toList =
      "log(".toList ++ '"' :: ("password(x)".toList ++ '"' ::
        (" + get(id) + ".toList ++ '"' :: ("".toList ++ '"' :: " + \" + key);".toList))) := by decide
  have hsecond : "log(\"\" + get(id) + \" + hidden( \" + \" + key);".toList =
      "log(".toList ++ '"' :: ("".toList ++ '"' ::
        (" + get(id) + ".toList ++ '"' :: (" + hidden( ".toList ++ '"' :: " + \" + key);".toList))) := by
    decide
  rw [hfirst, hsecond]
  exact ⟨h.1, h.2.1⟩

end LogAudit.Source
