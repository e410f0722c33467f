import LogAudit.Proofs.Scanning
import LogAudit.Source.Literal

/-! # Where the literals of a text are

The quotes of a text pair up from left to right, so a place is inside of a literal if an odd number of
quotes stands before it and another one behind it.

* `mem_literalRanges_iff`: the ranges are those from a quote behind an even number of quotes to the
  next one.
* `mem_literalContents`: the contents stand between the same quotes.
* `cut_iff`: when a cut at a place would go through a literal.
* `inLiteral_iff`: when a character that is no quote stands inside of a literal.
* `mem_stripLiterals`: what stands outside of literals is code.
* `outside_of_uncut`: a fragment that cuts no literal has the literals of the whole text. -/

namespace LogAudit.Source
set_option autoImplicit false

open Text

/-- A literal of a text that begins at an offset: it goes from a quote behind an even number of quotes
to the next quote. -/
def IsLiteral (start : Nat) (text : List Char) (range : Range) : Prop :=
  ∃ before content after, text = before ++ '"' :: (content ++ '"' :: after) ∧
    before.count '"' % 2 = 0 ∧ '"' ∉ content ∧
    range = ⟨start + before.length, start + before.length + content.length + 2⟩

/-! ## Pieces -/

theorem isLiteral_code_iff {start : Nat} {c : Char} {rest : List Char} {range : Range} (hc : c ≠ '"') :
    IsLiteral start (c :: rest) range ↔ IsLiteral (start + 1) rest range := by
  constructor
  · rintro ⟨before, content, after, htext, heven, hcontent, hrange⟩
    cases before with
    | nil => exact absurd (List.cons.inj htext).1 hc
    | cons d before =>
      obtain ⟨rfl, hrest⟩ := List.cons.inj htext
      refine ⟨before, content, after, hrest, ?_, hcontent, ?_⟩
      · rwa [List.count_cons_of_ne hc] at heven
      · rw [hrange, List.length_cons]
        congr 1 <;> omega
  · rintro ⟨before, content, after, hrest, heven, hcontent, hrange⟩
    refine ⟨c :: before, content, after, by rw [hrest, List.cons_append], ?_, hcontent, ?_⟩
    · rwa [List.count_cons_of_ne hc]
    · rw [hrange, List.length_cons]
      congr 1 <;> omega

theorem isLiteral_quoted_iff {start : Nat} {held rest : List Char} {range : Range}
    (hheld : '"' ∉ held) :
    IsLiteral start ('"' :: (held ++ '"' :: rest)) range ↔
      range = ⟨start, start + held.length + 2⟩ ∨ IsLiteral (start + held.length + 2) rest range := by
  constructor
  · rintro ⟨before, content, after, htext, heven, hcontent, hrange⟩
    cases before with
    | nil =>
      obtain ⟨hsame, _⟩ : held = content ∧ '"' :: rest = '"' :: after :=
        split_unique (fun c => c != '"')
          (by simpa using fun c hc => ne_of_mem_of_not_mem hc hheld) (by simp)
          (by simpa using fun c hc => ne_of_mem_of_not_mem hc hcontent) (by simp)
          (List.cons.inj htext).2
      left
      rw [hrange, hsame, List.length_nil, Nat.add_zero]
    | cons d before =>
      obtain ⟨rfl, hrest⟩ := List.cons.inj htext
      rw [List.count_cons_self] at heven
      have hquote : '"' ∈ before := by
        rw [← List.count_pos_iff]
        omega
      rcases List.append_eq_append_iff.mp hrest with ⟨further, hbefore, hfurther⟩ | ⟨missing, hheld', _⟩
      · cases further with
        | nil => exact absurd (by simpa [hbefore] using hquote) hheld
        | cons e further =>
          obtain ⟨rfl, hrest'⟩ := List.cons.inj hfurther
          right
          refine ⟨further, content, after, hrest', ?_, hcontent, ?_⟩
          · rw [hbefore, List.count_append, List.count_cons_self, List.count_eq_zero.mpr hheld] at heven
            omega
          · rw [hrange, hbefore, List.length_cons, List.length_append, List.length_cons]
            congr 1 <;> omega
      · exact absurd (hheld' ▸ List.mem_append_left missing hquote) hheld
  · rintro (rfl | ⟨before, content, after, rfl, heven, hcontent, rfl⟩)
    · exact ⟨[], held, rest, rfl, rfl, hheld, by simp⟩
    · refine ⟨'"' :: (held ++ '"' :: before), content, after, by simp, ?_, hcontent, ?_⟩
      · rw [List.count_cons_self, List.count_append, List.count_cons_self, List.count_eq_zero.mpr hheld]
        omega
      · rw [List.length_cons, List.length_append, List.length_cons]
        congr 1 <;> omega

theorem rangesFrom_code (offset : Nat) (text : List Char) :
    rangesFrom offset (text.map .code) = [] := by
  induction text generalizing offset with
  | nil => rfl
  | cons c rest ih => exact ih (offset + 1)

/-- The text that a state of the cutting stands for. -/
def openedText : Option (List Char) → List Char
  | none => []
  | some held => '"' :: held.reverse

theorem mem_rangesFrom_iff {state : Option (List Char)} {text : List Char} {offset : Nat}
    {range : Range} (hstate : ∀ held ∈ state, '"' ∉ held) :
    range ∈ rangesFrom offset (piecesFrom state text) ↔
      IsLiteral offset (openedText state ++ text) range := by
  induction text generalizing state offset with
  | nil =>
    cases state with
    | none => simp [piecesFrom, rangesFrom, openedText, IsLiteral]
    | some held =>
      have hnone : rangesFrom offset (piecesFrom (some held) []) = [] :=
        rangesFrom_code _ ('"' :: held.reverse)
      rw [hnone, openedText, List.append_nil]
      simp only [List.not_mem_nil, false_iff]
      rintro ⟨before, content, after, htext, -⟩
      have hcount := congrArg (List.count '"') htext
      simp only [List.count_cons_self, List.count_append, List.count_reverse,
        List.count_eq_zero.mpr (hstate held rfl)] at hcount
      omega
  | cons c rest ih =>
    cases state with
    | none =>
      by_cases hc : c = '"'
      · have hnext : range ∈ rangesFrom offset (piecesFrom (some []) rest) ↔
            IsLiteral offset (openedText (some []) ++ rest) range := ih (by simp)
        simpa [piecesFrom, hc, openedText] using hnext
      · have hnext : range ∈ rangesFrom (offset + 1) (piecesFrom none rest) ↔
            IsLiteral (offset + 1) (openedText none ++ rest) range := ih (by simp)
        simpa [piecesFrom, hc, openedText, rangesFrom, isLiteral_code_iff hc] using hnext
    | some held =>
      have hheld : '"' ∉ held.reverse := by simpa using hstate held rfl
      by_cases hc : c = '"'
      · subst hc
        have hnext : range ∈ rangesFrom (offset + held.reverse.length + 2) (piecesFrom none rest) ↔
            IsLiteral (offset + held.reverse.length + 2) (openedText none ++ rest) range := ih (by simp)
        rw [openedText, List.cons_append, isLiteral_quoted_iff hheld]
        simpa [piecesFrom, rangesFrom, openedText] using or_congr_right hnext
      · have hnext : range ∈ rangesFrom offset (piecesFrom (some (c :: held)) rest) ↔
            IsLiteral offset (openedText (some (c :: held)) ++ rest) range :=
          ih (by simpa [Ne.symm hc] using hheld)
        simpa [piecesFrom, hc, openedText] using hnext

theorem mem_literalRanges_iff {text : List Char} {range : Range} :
    range ∈ literalRanges text ↔ IsLiteral 0 text range :=
  mem_rangesFrom_iff (by simp)

/-- The content of a literal stands between a quote behind an even number of quotes and the next
quote. -/
theorem quoted_shape {state : Option (List Char)} {text content : List Char}
    (hstate : ∀ held ∈ state, '"' ∉ held) (h : Piece.quoted content ∈ piecesFrom state text) :
    ∃ before after, openedText state ++ text = before ++ '"' :: (content ++ '"' :: after) ∧
      before.count '"' % 2 = 0 ∧ '"' ∉ content := by
  induction text generalizing state with
  | nil => cases state <;> simp [piecesFrom] at h
  | cons c rest ih =>
    cases state with
    | none =>
      by_cases hc : c = '"'
      · have hnext : Piece.quoted content ∈ piecesFrom (some []) rest := by
          simpa [piecesFrom, hc] using h
        simpa [openedText, hc] using ih (by simp) hnext
      · have hnext : Piece.quoted content ∈ piecesFrom none rest := by
          simpa [piecesFrom, hc] using h
        obtain ⟨before, after, hrest, heven, hcontent⟩ := ih (by simp) hnext
        refine ⟨c :: before, after, by rw [List.cons_append, ← hrest]; rfl, ?_, hcontent⟩
        rwa [List.count_cons_of_ne hc]
    | some held =>
      have hheld : '"' ∉ held.reverse := by simpa using hstate held rfl
      by_cases hc : c = '"'
      · rw [piecesFrom, if_pos hc] at h
        rcases List.mem_cons.mp h with h | h
        · obtain rfl := Piece.quoted.inj h
          exact ⟨[], rest, by rw [hc]; rfl, rfl, hheld⟩
        · obtain ⟨before, after, hrest, heven, hcontent⟩ := ih (by simp) h
          refine ⟨'"' :: (held.reverse ++ '"' :: before), after, ?_, ?_, hcontent⟩
          · rw [openedText, List.nil_append] at hrest
            rw [openedText, hrest, hc]
            simp
          · rw [List.count_cons_self, List.count_append, List.count_cons_self,
              List.count_eq_zero.mpr hheld]
            omega
      · have hnext : Piece.quoted content ∈ piecesFrom (some (c :: held)) rest := by
          simpa [piecesFrom, hc] using h
        simpa [openedText] using ih (by simpa [Ne.symm hc] using hheld) hnext

theorem mem_literalContents {text content : List Char} (h : content ∈ literalContents text) :
    content.all isBlank = false ∧
      ∃ before after, text = before ++ '"' :: (content ++ '"' :: after) ∧
        before.count '"' % 2 = 0 ∧ '"' ∉ content := by
  obtain ⟨piece, hpiece, hcontent⟩ := List.mem_filterMap.mp h
  cases piece with
  | code c => simp [Piece.content?] at hcontent
  | quoted held =>
    obtain ⟨hblank, rfl⟩ : held.all isBlank = false ∧ held = content := by
      simpa [Piece.content?] using hcontent
    exact ⟨hblank, quoted_shape (by simp) hpiece⟩

/-! ## Places -/

/-- Whether a literal of a text goes through a place, so that a cut there would leave a part of it on
both sides. -/
def CutsLiteral (text : List Char) (place : Nat) : Prop :=
  ∃ range ∈ literalRanges text, range.start < place ∧ place < range.stop

theorem split_at_last_quote {text : List Char} (h : '"' ∈ text) :
    ∃ before after, text = before ++ '"' :: after ∧ '"' ∉ after := by
  obtain ⟨after, before, htext, hafter⟩ := List.eq_append_cons_of_mem (List.mem_reverse.mpr h)
  refine ⟨before.reverse, after.reverse, ?_, by simpa using hafter⟩
  rw [← List.reverse_inj, htext]
  simp

/-- A cut goes through a literal if an odd number of quotes stands before it and another one behind. -/
theorem cut_iff {before after : List Char} :
    CutsLiteral (before ++ after) before.length ↔ before.count '"' % 2 = 1 ∧ '"' ∈ after := by
  constructor
  · rintro ⟨range, hrange, hstart, hstop⟩
    obtain ⟨front, content, back, htext, heven, hcontent, rfl⟩ := mem_literalRanges_iff.mp hrange
    simp only [Nat.zero_add] at hstart hstop
    obtain ⟨inner, rfl, hinner⟩ : ∃ inner, before = front ++ '"' :: inner ∧
        content ++ '"' :: back = inner ++ after := by
      rcases List.append_eq_append_iff.mp htext with ⟨missing, hfront, _⟩ | ⟨inner, hbefore, hinner⟩
      · rw [hfront, List.length_append] at hstart
        omega
      · cases inner with
        | nil =>
          rw [hbefore, List.append_nil] at hstart
          omega
        | cons d inner =>
          obtain ⟨rfl, htail⟩ := List.cons.inj hinner
          exact ⟨inner, hbefore, htail⟩
    rw [List.length_append, List.length_cons] at hstop
    obtain ⟨outer, rfl, rfl⟩ : ∃ outer, content = inner ++ outer ∧ after = outer ++ '"' :: back := by
      rcases List.append_eq_append_iff.mp hinner with ⟨beyond, hin, hback⟩ | ⟨outer, hcontent, hout⟩
      · have hbeyond : beyond = [] := by
          rw [← List.length_eq_zero_iff]
          rw [hin, List.length_append] at hstop
          omega
        subst hbeyond
        exact ⟨[], by simpa using hin.symm, by simpa using hback.symm⟩
      · exact ⟨outer, hcontent, hout⟩
    refine ⟨?_, by simp⟩
    rw [List.count_append, List.count_cons_self,
      List.count_eq_zero.mpr fun h => hcontent (List.mem_append_left outer h)]
    omega
  · rintro ⟨hodd, hquote⟩
    obtain ⟨front, inner, rfl, hinner⟩ : ∃ front inner, before = front ++ '"' :: inner ∧ '"' ∉ inner :=
      split_at_last_quote (by rw [← List.count_pos_iff]; omega)
    obtain ⟨outer, back, rfl, houter⟩ := List.eq_append_cons_of_mem hquote
    refine ⟨⟨front.length, front.length + (inner ++ outer).length + 2⟩, ?_, ?_, ?_⟩
    · refine mem_literalRanges_iff.mpr ⟨front, inner ++ outer, back, by simp, ?_,
        by simp [hinner, houter], by simp⟩
      rw [List.count_append, List.count_cons_self, List.count_eq_zero.mpr hinner] at hodd
      omega
    · simp
    · simp
      omega

theorem inLiteral_eq_true_iff {ranges : List Range} {place : Nat} :
    inLiteral ranges place = true ↔ ∃ range ∈ ranges, range.start ≤ place ∧ place < range.stop := by
  simp [inLiteral, Range.covers]

/-- A character that is no quote stands inside of a literal if a cut before it goes through one. -/
theorem inLiteral_iff {before after : List Char} {c : Char} (hc : c ≠ '"') :
    inLiteral (literalRanges (before ++ c :: after)) before.length = true ↔
      before.count '"' % 2 = 1 ∧ '"' ∈ after := by
  have hcut : CutsLiteral (before ++ c :: after) before.length ↔
      before.count '"' % 2 = 1 ∧ '"' ∈ after := by
    rw [cut_iff, List.mem_cons, or_iff_right (Ne.symm hc)]
  rw [← hcut, inLiteral_eq_true_iff]
  constructor
  · rintro ⟨range, hrange, hstart, hstop⟩
    refine ⟨range, hrange, Nat.lt_of_le_of_ne hstart ?_, hstop⟩
    intro hsame
    obtain ⟨front, content, back, htext, _, _, rfl⟩ := mem_literalRanges_iff.mp hrange
    rw [Nat.zero_add] at hsame
    exact hc (List.cons.inj (List.append_inj htext hsame.symm).2).1
  · rintro ⟨range, hrange, hstart, hstop⟩
    exact ⟨range, hrange, Nat.le_of_lt hstart, hstop⟩

/-- Whether something begins outside of literals can be told from the quotes around it. -/
theorem not_inLiteral_iff {before after : List Char} {c : Char} (hc : c ≠ '"') :
    inLiteral (literalRanges (before ++ c :: after)) before.length = false ↔
      (before.count '"' % 2 = 1 → '"' ∉ after) := by
  rw [Bool.eq_false_iff, ne_eq, inLiteral_iff hc, not_and]

instance (text : List Char) (place : Nat) : Decidable (CutsLiteral text place) :=
  inferInstanceAs (Decidable (∃ range ∈ literalRanges text, range.start < place ∧ place < range.stop))

/-! ## Code -/

theorem piecesFrom_open {held text : List Char} (h : '"' ∉ text) :
    piecesFrom (some held) text = .code '"' :: (held.reverse ++ text).map .code := by
  induction text generalizing held with
  | nil => simp [piecesFrom]
  | cons c rest ih =>
    obtain ⟨hc, hrest⟩ : ¬ '"' = c ∧ '"' ∉ rest := by simpa using h
    rw [piecesFrom, if_neg (Ne.symm hc), ih hrest]
    simp

theorem code_mem_piecesFrom {state : Option (List Char)} {before after : List Char} {c : Char}
    (hstate : ∀ held ∈ state, '"' ∉ held) (hc : c ≠ '"')
    (h : (openedText state ++ before).count '"' % 2 = 1 → '"' ∉ after) :
    Piece.code c ∈ piecesFrom state (before ++ c :: after) := by
  induction before generalizing state with
  | nil =>
    cases state with
    | none => simp [piecesFrom, hc]
    | some held =>
      have hclosed : '"' ∉ after := h (by
        simp [openedText, List.count_eq_zero.mpr (hstate held rfl)])
      rw [List.nil_append, piecesFrom, if_neg hc, piecesFrom_open hclosed]
      simp
  | cons d before ih =>
    cases state with
    | none =>
      by_cases hd : d = '"'
      · subst hd
        have hnext : Piece.code c ∈ piecesFrom (some []) (before ++ c :: after) := ih (by simp) h
        simpa [piecesFrom] using hnext
      · rw [List.cons_append, piecesFrom, if_neg hd]
        refine List.mem_cons_of_mem _ (ih (by simp) ?_)
        simpa [openedText, List.count_cons_of_ne hd] using h
    | some held =>
      have hheld := hstate held rfl
      by_cases hd : d = '"'
      · subst hd
        rw [List.cons_append, piecesFrom, if_pos rfl]
        refine List.mem_cons_of_mem _ (ih (by simp) fun hodd => h ?_)
        simp only [openedText, List.nil_append, List.cons_append, List.count_cons_self,
          List.count_append, List.count_reverse, List.count_eq_zero.mpr hheld] at hodd ⊢
        omega
      · rw [List.cons_append, piecesFrom, if_neg hd]
        refine ih (by simpa [Ne.symm hd] using hheld) fun hodd => h ?_
        simpa [openedText, List.count_cons_of_ne hd] using hodd

/-- A character that is no quote and stands outside of literals is code. -/
theorem mem_stripLiterals {before after : List Char} {c : Char} (hc : c ≠ '"')
    (h : inLiteral (literalRanges (before ++ c :: after)) before.length = false) :
    c ∈ stripLiterals (before ++ c :: after) :=
  List.mem_filterMap.mpr
    ⟨.code c, code_mem_piecesFrom (by simp) hc ((not_inLiteral_iff hc).mp h), rfl⟩

/-! ## Fragments -/

/-- In a fragment whose ends go through no literal, the quotes pair up as they do in the whole text. -/
theorem outside_of_uncut {before front back after : List Char} {c : Char} (hc : c ≠ '"')
    (hstart : ¬ CutsLiteral (before ++ (front ++ c :: back ++ after)) before.length)
    (hstop : ¬ CutsLiteral (before ++ (front ++ c :: back ++ after))
      (before ++ (front ++ c :: back)).length)
    (h : inLiteral (literalRanges (front ++ c :: back)) front.length = false) :
    inLiteral (literalRanges (before ++ (front ++ c :: back ++ after))) (before ++ front).length =
      false := by
  rw [cut_iff] at hstart
  rw [← List.append_assoc, cut_iff] at hstop
  rw [not_inLiteral_iff hc] at h
  have hshape : before ++ (front ++ c :: back ++ after) = before ++ front ++ c :: (back ++ after) := by
    simp
  rw [hshape, not_inLiteral_iff hc]
  intro hodd hquote
  simp only [List.count_append, List.count_cons_of_ne hc, List.mem_append, List.mem_cons] at *
  by_cases hbefore : before.count '"' % 2 = 1
  · exact hstart ⟨hbefore, by tauto⟩
  · have hback : '"' ∉ back := h (by omega)
    exact hstop ⟨by rw [List.count_eq_zero.mpr hback]; omega, hquote.resolve_left hback⟩

end LogAudit.Source
