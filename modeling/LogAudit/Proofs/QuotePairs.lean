import LogAudit.Proofs.Contents

/-! # Literals are pairs of quotes

The quotes of a text pair up from the left: the first with the second, the third with the fourth, and so
on. Without a partner, the last one is code. All views of the literals follow these pairs.

* `quotePair`: where a pair begins and ends.
* `CutInto.literalRanges_eq`, `CutInto.map_inner`: ranges and contents, pair by pair.
* `CutInto.stripLiterals_eq`: the code that is left, place by place.
* `literalViews_pairs`: all of this for every text. -/

namespace LogAudit.Source
set_option autoImplicit false

open Text

variable {code content text : List Char} {codes contents : List (List Char)}

/-! ## Pairs -/

theorem idxOfNth_quote_zero (hcode : '"' ∉ code) (rest : List Char) :
    (code ++ '"' :: rest).idxOfNth '"' 0 = code.length := by
  rw [List.idxOfNth_zero, List.idxOf_append_of_notMem hcode]
  simp

theorem idxOfNth_quote_succ (hcode : '"' ∉ code) (rest : List Char) (number : Nat) :
    (code ++ '"' :: rest).idxOfNth '"' (number + 1) = code.length + 1 + rest.idxOfNth '"' number := by
  induction code with
  | nil =>
    rw [List.nil_append, List.idxOfNth_cons_succ_of_beq (by decide), List.length_nil]
    omega
  | cons c code ih =>
    obtain ⟨hc, hcode⟩ : c ≠ '"' ∧ '"' ∉ code := by simpa [eq_comm] using hcode
    rw [List.cons_append, List.idxOfNth_cons_of_not_beq (beq_eq_false_iff_ne.mpr hc), ih hcode,
      List.length_cons]
    omega

/-- From a quote of odd number up to behind the next one; the pairs are counted from zero. -/
def quotePair (text : List Char) (number : Nat) : Range :=
  ⟨text.idxOfNth '"' (2 * number), text.idxOfNth '"' (2 * number + 1) + 1⟩

theorem quotePair_zero (hcode : '"' ∉ code) (hcontent : '"' ∉ content) (text : List Char) :
    quotePair (code ++ '"' :: (content ++ '"' :: text)) 0 =
      ⟨code.length, code.length + content.length + 2⟩ := by
  unfold quotePair
  rw [Nat.mul_zero, idxOfNth_quote_zero hcode, idxOfNth_quote_succ hcode, idxOfNth_quote_zero hcontent]
  congr 1
  omega

theorem quotePair_succ (hcode : '"' ∉ code) (hcontent : '"' ∉ content) (text : List Char)
    (number : Nat) :
    quotePair (code ++ '"' :: (content ++ '"' :: text)) (number + 1) =
      (quotePair text number).movedBy (code.length + content.length + 2) := by
  unfold quotePair Range.movedBy
  rw [show 2 * (number + 1) = 2 * number + 1 + 1 by omega]
  simp only [idxOfNth_quote_succ hcode, idxOfNth_quote_succ hcontent]
  congr 1
  · omega
  · omega

theorem count_quote_literal (hcode : '"' ∉ code) (hcontent : '"' ∉ content) (text : List Char) :
    (code ++ '"' :: (content ++ '"' :: text)).count '"' = text.count '"' + 2 := by
  rw [List.count_append, List.count_cons_self, List.count_append, List.count_cons_self,
    List.count_eq_zero.mpr hcode, List.count_eq_zero.mpr hcontent]
  omega

/-! ## Ranges and contents -/

theorem literalRanges_unpaired (h : code.count '"' ≤ 1) : literalRanges code = [] := by
  rw [literalRanges, pieces_unpaired h]
  exact rangesFrom_code 0 code

theorem CutInto.literalRanges_eq (h : CutInto text codes contents) :
    literalRanges text = (List.range (text.count '"' / 2)).map (quotePair text) := by
  induction h with
  | last hcount =>
    rw [literalRanges_unpaired hcount, Nat.div_eq_of_lt (by omega)]
    rfl
  | literal hcode hcontent _ ih =>
    have hcount := count_quote_literal hcode hcontent
    rw [literalRanges_literal hcode hcontent, hcount, Nat.add_div_right _ (by decide),
      List.range_succ_eq_map, List.map_cons, List.map_map, quotePair_zero hcode hcontent, ih, List.map_map]
    congr 2
    funext number
    exact (quotePair_succ hcode hcontent _ number).symm

theorem quotePair_start_lt {number : Nat} (h : number < text.count '"' / 2) :
    (quotePair text number).start < (quotePair text number).stop := by
  have hlt : text.idxOfNth '"' (2 * number) < text.idxOfNth '"' (2 * number + 1) :=
    List.idxOfNth_lt_idxOfNth_iff.mpr ⟨by omega, by omega⟩
  show text.idxOfNth '"' (2 * number) < text.idxOfNth '"' (2 * number + 1) + 1
  omega

theorem quotePair_stop_le {first second : Nat} (h : first < second)
    (hsecond : second < text.count '"' / 2) :
    (quotePair text first).stop ≤ (quotePair text second).start := by
  show text.idxOfNth '"' (2 * first + 1) < text.idxOfNth '"' (2 * second)
  exact List.idxOfNth_lt_idxOfNth_iff.mpr ⟨by omega, by omega⟩

/-- What stands between the quotes of a literal. -/
def Range.inner (text : List Char) (range : Range) : List Char :=
  text.extract (range.start + 1) (range.stop - 1)

theorem inner_first (code content text : List Char) :
    Range.inner (code ++ '"' :: (content ++ '"' :: text))
      ⟨code.length, code.length + content.length + 2⟩ = content := by
  have hsplit : code ++ '"' :: (content ++ '"' :: text) = (code ++ ['"']) ++ (content ++ '"' :: text) := by
    simp
  have hlength : content.length = code.length + content.length + 2 - 1 - (code.length + 1) := by omega
  unfold Range.inner
  rw [List.extract_eq_take_drop, hsplit, List.drop_left' (by simp)]
  exact List.take_left' hlength

theorem inner_movedBy (front text : List Char) (range : Range) :
    Range.inner (front ++ text) (range.movedBy front.length) = Range.inner text range := by
  have hdrop : (front ++ text).drop (front.length + range.start + 1) = text.drop (range.start + 1) := by
    rw [Nat.add_assoc, List.drop_length_add_append]
  have hlength : front.length + range.stop - 1 - (front.length + range.start + 1) =
      range.stop - 1 - (range.start + 1) := by omega
  simp only [Range.inner, Range.movedBy, List.extract_eq_take_drop, hdrop, hlength]

theorem CutInto.map_inner (h : CutInto text codes contents) :
    (literalRanges text).map (Range.inner text) = contents := by
  induction h with
  | last hcount =>
    rw [literalRanges_unpaired hcount]
    rfl
  | @literal code content text _ _ hcode hcontent hcut ih =>
    have hmoved := inner_movedBy (code ++ '"' :: (content ++ ['"'])) text
    have hlength : (code ++ '"' :: (content ++ ['"'])).length = code.length + content.length + 2 := by
      simp
      omega
    rw [hlength] at hmoved
    simp only [List.append_assoc, List.cons_append, List.nil_append] at hmoved
    rw [literalRanges_literal hcode hcontent, List.map_cons, inner_first, List.map_map, ← ih]
    congr 2
    funext range
    exact hmoved range

/-! ## The code that is left -/

/-- The characters of a text at the places to keep. -/
def keepPlaces (kept : Nat → Bool) (text : List Char) : List Char :=
  (text.zipIdx.filter fun cell => kept cell.2).map Prod.fst

theorem keepPlaces_append (kept : Nat → Bool) (xs ys : List Char) :
    keepPlaces kept (xs ++ ys) =
      keepPlaces kept xs ++ keepPlaces (fun place => kept (xs.length + place)) ys := by
  have hmoved : ys.zipIdx xs.length = ys.zipIdx.map fun cell => (cell.1, xs.length + cell.2) :=
    List.zipIdx_eq_map_add
  unfold keepPlaces
  rw [List.zipIdx_append, List.filter_append, List.map_append, Nat.zero_add, hmoved, List.filter_map,
    List.map_map]
  rfl

theorem keepPlaces_of_kept {kept : Nat → Bool} {text : List Char}
    (h : ∀ place < text.length, kept place = true) : keepPlaces kept text = text := by
  have hall : text.zipIdx.filter (fun cell => kept cell.2) = text.zipIdx := by
    rw [List.filter_eq_self]
    intro cell hcell
    have := List.snd_lt_add_of_mem_zipIdx hcell
    exact h cell.2 (by omega)
  rw [keepPlaces, hall, List.zipIdx_map_fst]

theorem keepPlaces_of_dropped {kept : Nat → Bool} {text : List Char}
    (h : ∀ place < text.length, kept place = false) : keepPlaces kept text = [] := by
  have hnone : text.zipIdx.filter (fun cell => kept cell.2) = [] := by
    rw [List.filter_eq_nil_iff]
    intro cell hcell
    have := List.snd_lt_add_of_mem_zipIdx hcell
    rw [h cell.2 (by omega)]
    decide
  rw [keepPlaces, hnone, List.map_nil]

/-- A literal is covered from its first quote to its second. -/
theorem inLiteral_first (hcode : '"' ∉ code) (hcontent : '"' ∉ content) (text : List Char) {place : Nat}
    (h : place < content.length + 2) :
    inLiteral (literalRanges (code ++ '"' :: (content ++ '"' :: text))) (code.length + place : Nat) =
      true := by
  rw [literalRanges_literal hcode hcontent, inLiteral_eq_true_iff]
  exact ⟨_, List.mem_cons_self, by simp only; omega, by simp only; omega⟩

theorem CutInto.stripLiterals_eq (h : CutInto text codes contents) :
    stripLiterals text = keepPlaces (fun place => !inLiteral (literalRanges text) place) text := by
  induction h with
  | last hcount =>
    rw [stripLiterals, pieces_unpaired hcount, filterMap_code_map, literalRanges_unpaired hcount]
    exact (keepPlaces_of_kept fun _ _ => rfl).symm
  | @literal code content text _ _ hcode hcontent hcut ih =>
    have hplaces := inLiteral_literal hcode hcontent text
    have hshape : code ++ '"' :: (content ++ '"' :: text) = code ++ ('"' :: (content ++ ['"']) ++ text) := by
      simp
    have hquoted : ('"' :: (content ++ ['"'])).length = content.length + 2 := by simp
    generalize hranges : literalRanges (code ++ '"' :: (content ++ '"' :: text)) = ranges at hplaces ⊢
    have hfront : keepPlaces (fun place => !inLiteral ranges place) code = code := by
      apply keepPlaces_of_kept
      intro place hplace
      rw [(hplaces place).1 hplace]
      rfl
    have hliteral : keepPlaces (fun place => !inLiteral ranges (code.length + place : Nat))
        ('"' :: (content ++ ['"'])) = [] := by
      apply keepPlaces_of_dropped
      intro place hplace
      rw [← hranges, inLiteral_first hcode hcontent text (by omega)]
      rfl
    have hbehind : (fun place => !inLiteral ranges (code.length + (content.length + 2 + place) : Nat)) =
        fun place : Nat => !inLiteral (literalRanges text) place := by
      funext place
      rw [← (hplaces place).2.2]
      congr 3
      omega
    rw [stripLiterals_literal hcode hcontent, ih, hshape, keepPlaces_append, keepPlaces_append, hfront,
      hliteral, hquoted, hbehind, List.nil_append]

theorem CutInto.count_stripLiterals (h : CutInto text codes contents) :
    (stripLiterals text).count '"' = text.count '"' % 2 := by
  induction h with
  | last hcount =>
    rw [stripLiterals, pieces_unpaired hcount, filterMap_code_map]
    omega
  | @literal code content text _ _ hcode hcontent hcut ih =>
    rw [stripLiterals_literal hcode hcontent, count_quote_literal hcode hcontent, List.count_append,
      List.count_eq_zero.mpr hcode, ih]
    omega

/-- The literals of a text are its pairs of quotes: as many as half of the quotes, each from a quote of odd
number to behind the next. So none is empty, and each one ends before the next begins. The contents are
what stands between the quotes, blank ones left out. The stripped text has the characters at the places
outside of literals, a quote only if one is without a partner, and nothing more to strip. -/
theorem literalViews_pairs (text : List Char) :
    literalRanges text = (List.range (text.count '"' / 2)).map (quotePair text) ∧
    (∀ range ∈ literalRanges text, range.start < range.stop) ∧
    (literalRanges text).Pairwise (fun earlier later => earlier.stop ≤ later.start) ∧
    literalContents text =
      ((literalRanges text).map (Range.inner text)).filter (fun inner => !inner.all isBlank) ∧
    stripLiterals text = keepPlaces (fun place => !inLiteral (literalRanges text) place) text ∧
    (stripLiterals text).count '"' = text.count '"' % 2 ∧
    stripLiterals (stripLiterals text) = stripLiterals text := by
  obtain ⟨codes, contents, hcut⟩ := exists_cutInto text
  have hranges := hcut.literalRanges_eq
  have hcount := hcut.count_stripLiterals
  refine ⟨hranges, ?_, ?_, ?_, hcut.stripLiterals_eq, hcount, ?_⟩
  · intro range hrange
    rw [hranges] at hrange
    obtain ⟨number, hnumber, rfl⟩ := List.mem_map.mp hrange
    exact quotePair_start_lt (List.mem_range.mp hnumber)
  · rw [hranges, List.pairwise_map]
    refine List.Pairwise.imp_of_mem (fun {first second} _ hsecond hlt => ?_) List.pairwise_lt_range
    exact quotePair_stop_le hlt (List.mem_range.mp hsecond)
  · rw [hcut.map_inner]
    exact hcut.literalContents_eq
  · rw [stripLiterals, pieces_unpaired (by omega), filterMap_code_map]

/-- Two literals, one of them empty, and a quote without a partner. -/
theorem literalViews_pairs_unpaired :
    ⟨10, 12⟩ ∈ literalRanges "log(\"a\" + \"\" + \"".toList ∧ 10 < 12 ∧
      literalRanges "log(\"a\" + \"\" + \"".toList = [⟨4, 7⟩, ⟨10, 12⟩] ∧
      (stripLiterals "log(\"a\" + \"\" + \"".toList).count '"' = 1 := by
  have hviews := literalViews_pairs "log(\"a\" + \"\" + \"".toList
  have hranges : literalRanges "log(\"a\" + \"\" + \"".toList = [⟨4, 7⟩, ⟨10, 12⟩] := by decide
  have hmem : ⟨10, 12⟩ ∈ literalRanges "log(\"a\" + \"\" + \"".toList := by
    rw [hranges]
    decide
  exact ⟨hmem, hviews.2.1 ⟨10, 12⟩ hmem, hranges, hviews.2.2.2.2.2.1⟩

end LogAudit.Source
