import Mathlib
import LogAudit.Text.Scan
import LogAudit.Text.Split

/-! # What scans find

A reader is described by the shape of the text in front of it, a scan by the way the text falls apart
around a find.

* `dropWord_eq_some`, `dropSpaced_shape`, `trimmed_shape`: readers of fixed shapes and trimming.
* `mem_findAll`: every find of a scan was read somewhere in the text.
* `sweepFrom_of_found`: what a pass makes of a text that begins with a find.
* `findAll_withRest`: the finds together with the places where they were read.
* `occursIn_iff`: a word that occurs is a part of the text.
* `occursAtWord_iff`: what is found where a word begins.
* `occursWhole_shape`: a word that occurs whole stands between two boundaries.
* `mem_runs_iff`: the runs of a class are exactly its maximal runs.
* `splitAtMark_intercalate`: what is joined by a mark is split at it again. -/

namespace LogAudit.Text
set_option autoImplicit false

variable {α β : Type}

/-! ## Fixed shapes -/

theorem dropWord_eq_some {word : String} {text rest : List Char} :
    dropWord word text = some rest ↔ text = word.toList ++ rest := by
  rw [dropWord, List.isPrefixOf?_eq_some_iff_append_eq]
  exact eq_comm

theorem dropBlanks_shape (text : List Char) :
    ∃ blanks, (∀ c ∈ blanks, isBlank c = true) ∧ text = blanks ++ dropBlanks text :=
  ⟨text.takeWhile isBlank, fun _ hc => List.mem_takeWhile_imp hc,
    List.takeWhile_append_dropWhile.symm⟩

theorem dropSpaced_shape {mark : Char} {text rest : List Char}
    (h : dropSpaced mark text = some rest) :
    ∃ blanks, (∀ c ∈ blanks, isBlank c = true) ∧ text = blanks ++ mark :: rest := by
  obtain ⟨blanks, hblanks, htext⟩ := dropBlanks_shape text
  refine ⟨blanks, hblanks, ?_⟩
  unfold dropSpaced at h
  cases hd : dropBlanks text with
  | nil => simp [hd] at h
  | cons c after =>
    rw [hd] at h htext
    simp only [Option.ite_none_right_eq_some, Option.some.injEq] at h
    rw [htext, h.1, h.2]

theorem dropSpaced_append {mark : Char} {blanks rest : List Char}
    (hblanks : ∀ c ∈ blanks, isBlank c = true) (hmark : isBlank mark = false) :
    dropSpaced mark (blanks ++ mark :: rest) = some rest := by
  have hdrop : dropBlanks (blanks ++ mark :: rest) = mark :: rest := by
    rw [dropBlanks, List.dropWhile_append_of_pos hblanks, List.dropWhile_cons_of_neg (by simp [hmark])]
  rw [dropSpaced, hdrop]
  exact if_pos rfl

theorem dropEndBlanks_shape (text : List Char) :
    ∃ blanks, (∀ c ∈ blanks, isBlank c = true) ∧ text = dropEndBlanks text ++ blanks := by
  obtain ⟨blanks, hblanks, htext⟩ := dropBlanks_shape text.reverse
  refine ⟨blanks.reverse, fun c hc => hblanks c (List.mem_reverse.mp hc), ?_⟩
  rw [← List.reverse_inj, htext, List.reverse_append, List.reverse_reverse]
  simp [dropEndBlanks, dropBlanks]

/-- A text is its trimmed form between blanks. -/
theorem trimmed_shape (text : List Char) :
    ∃ front back, (∀ c ∈ front, isBlank c = true) ∧ (∀ c ∈ back, isBlank c = true) ∧
      text = front ++ (trimmed text ++ back) := by
  obtain ⟨front, hfront, htext⟩ := dropBlanks_shape text
  obtain ⟨back, hback, hrest⟩ := dropEndBlanks_shape (dropBlanks text)
  refine ⟨front, back, hfront, hback, ?_⟩
  rw [trimmed, ← hrest]
  exact htext

theorem isInfix_trimmed (text : List Char) : trimmed text <:+: text := by
  obtain ⟨front, back, _, _, h⟩ := trimmed_shape text
  exact ⟨front, back, by rw [List.append_assoc]; exact h.symm⟩

/-! ## Passes -/

section Passes

variable {read : Reader α} {found : α → List β} {outside : Char → List β}

theorem sweepFrom_eq_drop (inside : Nat) (text : List Char) :
    sweepFrom read found outside inside text = sweepFrom read found outside 0 (text.drop inside) := by
  induction text generalizing inside with
  | nil => rw [List.drop_nil, sweepFrom, sweepFrom]
  | cons c rest ih =>
    cases inside with
    | zero => rfl
    | succ inside => exact ih inside

/-- A pass over a text that begins with a find goes on behind it. -/
theorem sweepFrom_of_found {taken rest : List Char} {value : α} (hne : taken ≠ [])
    (h : read (taken ++ rest) = some (value, rest)) :
    sweepFrom read found outside 0 (taken ++ rest) =
      found value ++ sweepFrom read found outside 0 rest := by
  obtain ⟨c, taken, rfl⟩ := List.exists_cons_of_ne_nil hne
  have hinside : (taken ++ rest).length - rest.length = taken.length := by simp
  rw [List.cons_append] at h ⊢
  rw [sweepFrom, h]
  dsimp only
  rw [hinside, sweepFrom_eq_drop, List.drop_left]

theorem sweepFrom_of_none {c : Char} {text : List Char} (h : read (c :: text) = none) :
    sweepFrom read found outside 0 (c :: text) =
      outside c ++ sweepFrom read found outside 0 text := by
  rw [sweepFrom, h]

end Passes

/-! ## Finds -/

theorem mem_sweepFrom {read : Reader α} {inside : Nat} {text : List Char} {value : α}
    (h : value ∈ sweepFrom read (fun value => [value]) (fun _ => []) inside text) :
    ∃ before here after, text = before ++ here ∧ read here = some (value, after) := by
  induction text generalizing inside with
  | nil => simp [sweepFrom] at h
  | cons c rest ih =>
    have later : ∀ {count : Nat},
        value ∈ sweepFrom read (fun value => [value]) (fun _ => []) count rest →
        ∃ before here after, c :: rest = before ++ here ∧ read here = some (value, after) := by
      intro count hcount
      obtain ⟨before, here, after, hrest, hread⟩ := ih hcount
      exact ⟨c :: before, here, after, by rw [hrest, List.cons_append], hread⟩
    cases inside with
    | succ inside => exact later h
    | zero =>
      cases hread : read (c :: rest) with
      | none =>
        rw [sweepFrom_of_none hread] at h
        exact later h
      | some found =>
        obtain ⟨first, after⟩ := found
        simp only [sweepFrom, hread, List.singleton_append, List.mem_cons] at h
        rcases h with rfl | h
        · exact ⟨[], c :: rest, after, rfl, hread⟩
        · exact later h

theorem mem_findAll {read : Reader α} {text : List Char} {value : α}
    (h : value ∈ findAll read text) :
    ∃ before here after, text = before ++ here ∧ read here = some (value, after) :=
  mem_sweepFrom h

/-- A reader that also gives the text behind what it has read, and so tells where it was. -/
def withRest (read : Reader α) : Reader (α × List Char) := fun text =>
  (read text).map fun found => (found, found.2)

theorem findAll_withRest (read : Reader α) (text : List Char) :
    (findAll (withRest read) text).map Prod.fst = findAll read text := by
  unfold findAll
  generalize 0 = inside
  induction text generalizing inside with
  | nil => simp [sweepFrom]
  | cons c rest ih =>
    cases inside with
    | succ inside => exact ih inside
    | zero => cases hread : read (c :: rest) <;> simp [sweepFrom, withRest, hread, ih]

theorem mem_findAll_withRest {read : Reader α} {text : List Char} {found : α × List Char}
    (h : found ∈ findAll (withRest read) text) :
    ∃ before here, text = before ++ here ∧ read here = some found := by
  obtain ⟨before, here, after, htext, hread⟩ := mem_findAll h
  obtain ⟨_, hfound, hsame⟩ := Option.map_eq_some_iff.mp hread
  obtain ⟨rfl, _⟩ := Prod.mk.inj hsame
  exact ⟨before, here, htext, hfound⟩

/-! ## Words -/

theorem occursIn_iff {word text : List Char} : occursIn word text = true ↔ word <:+: text := by
  induction text with
  | nil => simp [occursIn]
  | cons c rest ih =>
    rw [occursIn, Bool.or_eq_true, List.isPrefixOf_iff_prefix, ih, List.infix_cons_iff]

/-- Something is found where a word begins exactly if it stands at a place that no word character is
right before. -/
theorem occursAtWordFrom_iff {test : List Char → Bool} {inWord : Bool} {text : List Char} :
    occursAtWordFrom test inWord text = true ↔
      ∃ before here, text = before ++ here ∧ here ≠ [] ∧ test here = true ∧
        (before = [] → inWord = false) ∧ ∀ c ∈ before.getLast?, isWord c = false := by
  induction text generalizing inWord with
  | nil =>
    refine iff_of_false (by simp [occursAtWordFrom]) ?_
    rintro ⟨before, here, htext, hsome, _⟩
    exact hsome (List.append_eq_nil_iff.mp htext.symm).2
  | cons c rest ih =>
    rw [occursAtWordFrom, Bool.or_eq_true, ih, Bool.and_eq_true, Bool.not_eq_true']
    constructor
    · rintro (⟨hfree, htest⟩ | ⟨before, here, rfl, hsome, htest, hfirst, hlast⟩)
      · exact ⟨[], c :: rest, rfl, by simp, htest, fun _ => hfree, by simp⟩
      · refine ⟨c :: before, here, rfl, hsome, htest, by simp, fun d hd => ?_⟩
        cases before with
        | nil => exact Option.some.inj hd ▸ hfirst rfl
        | cons e before => exact hlast d (by rwa [List.getLast?_cons_cons] at hd)
    · rintro ⟨before, here, htext, hsome, htest, hfirst, hlast⟩
      cases before with
      | nil => exact Or.inl ⟨hfirst rfl, by rwa [htext]⟩
      | cons d before =>
        obtain ⟨rfl, rfl⟩ := List.cons.inj htext
        refine Or.inr ⟨before, here, rfl, hsome, htest, ?_, fun e he => ?_⟩
        · rintro rfl
          exact hlast c rfl
        · cases before with
          | nil => cases he
          | cons f before => exact hlast e (by rwa [List.getLast?_cons_cons])

theorem occursAtWord_iff {test : List Char → Bool} {text : List Char} :
    occursAtWord test text = true ↔
      ∃ before here, text = before ++ here ∧ here ≠ [] ∧ test here = true ∧
        ∀ c ∈ before.getLast?, isWord c = false := by
  simp only [occursAtWord, occursAtWordFrom_iff, implies_true, true_and]

theorem wholeWordHere_shape {word text : List Char} {before : Option Char}
    (h : wholeWordHere word before text = true) :
    ∃ after, text = word ++ after ∧ isBoundary before (word ++ after).head? = true ∧
      isBoundary (word.getLast?.or before) after.head? = true := by
  rw [wholeWordHere, Bool.and_eq_true] at h
  obtain ⟨hfront, hback⟩ := h
  cases hword : word.isPrefixOf? text with
  | none => simp [hword] at hback
  | some after =>
    rw [hword] at hback
    rw [List.isPrefixOf?_eq_some_iff_append_eq] at hword
    subst hword
    exact ⟨after, rfl, hfront, hback⟩

theorem occursWholeFrom_shape {word text : List Char} {before : Option Char}
    (h : occursWholeFrom word before text = true) :
    ∃ passed after, text = passed ++ (word ++ after) ∧
      isBoundary (passed.getLast?.or before) (word ++ after).head? = true ∧
      isBoundary ((passed ++ word).getLast?.or before) after.head? = true := by
  induction text generalizing before with
  | nil =>
    obtain ⟨after, htext, hfront, hback⟩ := wholeWordHere_shape h
    exact ⟨[], after, htext, hfront, hback⟩
  | cons c rest ih =>
    rw [occursWholeFrom, Bool.or_eq_true] at h
    rcases h with h | h
    · obtain ⟨after, htext, hfront, hback⟩ := wholeWordHere_shape h
      exact ⟨[], after, htext, hfront, hback⟩
    · obtain ⟨passed, after, hrest, hfront, hback⟩ := ih h
      have hlast : ∀ l : List Char, (c :: l).getLast?.or before = l.getLast?.or (some c) := by
        intro l
        rw [List.getLast?_cons]
        cases l.getLast? <;> rfl
      refine ⟨c :: passed, after, by rw [hrest, List.cons_append], ?_, ?_⟩
      · rw [hlast]; exact hfront
      · rw [List.cons_append, hlast]; exact hback

/-- A word that occurs whole stands between two boundaries. -/
theorem occursWhole_shape {word text : String} (h : occursWhole word text = true) :
    ∃ before after, text.toList = before ++ (word.toList ++ after) ∧
      isBoundary before.getLast? (word.toList ++ after).head? = true ∧
      isBoundary (before ++ word.toList).getLast? after.head? = true := by
  simpa only [Option.or_none] using occursWholeFrom_shape h

/-! ## Runs -/

/-- A run of a class that cannot be made longer, in a text that begins at an offset. -/
def IsRun (inClass : Char → Bool) (start : Nat) (text : List Char) (run : Run) : Prop :=
  ∃ before, text = before ++ (run.text ++ run.after) ∧ run.start = start + before.length ∧
    run.text ≠ [] ∧ (∀ c ∈ run.text, inClass c = true) ∧
    (∀ c ∈ before.getLast?, inClass c = false) ∧ ∀ c ∈ run.after.head?, inClass c = false

theorem takeWhile_append_stop {p : α → Bool} {xs rest : List α} (hxs : ∀ x ∈ xs, p x = true)
    (hrest : ∀ x ∈ rest.head?, p x = false) : (xs ++ rest).takeWhile p = xs := by
  rw [List.takeWhile_append_of_pos hxs]
  cases rest with
  | nil => simp
  | cons x rest => rw [List.takeWhile_cons_of_neg (by simp [hrest x (by simp)]), List.append_nil]

theorem dropWhile_append_stop {p : α → Bool} {xs rest : List α} (hxs : ∀ x ∈ xs, p x = true)
    (hrest : ∀ x ∈ rest.head?, p x = false) : (xs ++ rest).dropWhile p = rest := by
  rw [List.dropWhile_append_of_pos hxs]
  cases rest with
  | nil => rfl
  | cons x rest => rw [List.dropWhile_cons_of_neg (by simp [hrest x (by simp)])]

theorem not_mem_of_class {inClass : Char → Bool} {text : List Char} {mark : Char}
    (h : ∀ c ∈ text, inClass c = true) (hmark : inClass mark = false) : mark ∉ text := by
  intro hmem
  rw [h mark hmem] at hmark
  cases hmark

theorem split_unique (inClass : Char → Bool) {xs ys zs ws : List Char}
    (hxs : ∀ c ∈ xs, inClass c = true) (hys : ∀ c ∈ ys.head?, inClass c = false)
    (hzs : ∀ c ∈ zs, inClass c = true) (hws : ∀ c ∈ ws.head?, inClass c = false)
    (h : xs ++ ys = zs ++ ws) : xs = zs ∧ ys = ws := by
  have hfront : xs = zs := by
    rw [← takeWhile_append_stop hxs hys, h, takeWhile_append_stop hzs hws]
  subst hfront
  exact ⟨rfl, List.append_cancel_left h⟩

/-- What stands before a run goes beyond an open run that a character outside of the class ends. -/
theorem before_extends {inClass : Char → Bool} {opened rest before tail : List Char} {c : Char}
    (hopened : ∀ d ∈ opened, inClass d = true) (hbefore : before ≠ [])
    (hlast : ∀ d ∈ before.getLast?, inClass d = false)
    (h : opened ++ c :: rest = before ++ tail) :
    ∃ further, before = opened ++ c :: further ∧ rest = further ++ tail := by
  have houtside : before.getLast hbefore ∉ opened := by
    intro hmem
    have hfalse := hlast _ (List.getLast?_eq_some_getLast hbefore)
    rw [hopened _ hmem] at hfalse
    exact absurd hfalse (by simp)
  rcases List.append_eq_append_iff.mp h with ⟨further, hbefore', hrest⟩ | ⟨missing, hopened', _⟩
  · cases further with
    | nil =>
      rw [List.append_nil] at hbefore'
      exact absurd (hbefore' ▸ List.getLast_mem hbefore) houtside
    | cons d further =>
      obtain ⟨rfl, rfl⟩ := List.cons.inj hrest
      exact ⟨further, hbefore', rfl⟩
  · exact absurd (hopened' ▸ List.mem_append_left missing (List.getLast_mem hbefore)) houtside

/-- The runs of a text that begins with characters of the class: those characters, then the runs behind
the character that ends them. -/
theorem isRun_append_iff {inClass : Char → Bool} {start : Nat} {xs ys : List Char} {run : Run}
    (hxs : ∀ c ∈ xs, inClass c = true) (hys : ∀ c ∈ ys.head?, inClass c = false) :
    IsRun inClass start (xs ++ ys) run ↔
      (xs ≠ [] ∧ run = ⟨start, xs, ys⟩) ∨
        ∃ c rest, ys = c :: rest ∧ IsRun inClass (start + xs.length + 1) rest run := by
  constructor
  · rintro ⟨before, htext, hstart, hne, hall, hlast, hhead⟩
    by_cases hbefore : before = []
    · subst hbefore
      obtain ⟨hx, hy⟩ := split_unique inClass hxs hys hall hhead htext
      refine Or.inl ⟨hx ▸ hne, ?_⟩
      rw [hx, hy, ← Nat.add_zero start, ← List.length_nil, ← hstart]
    · cases ys with
      | nil =>
        rw [List.append_nil] at htext
        have hmem := List.getLast_mem hbefore
        have hfalse := hlast _ (List.getLast?_eq_some_getLast hbefore)
        rw [hxs _ (htext ▸ List.mem_append_left _ hmem)] at hfalse
        exact absurd hfalse (by simp)
      | cons c rest =>
        obtain ⟨further, rfl, hrest⟩ := before_extends hxs hbefore hlast htext
        refine Or.inr ⟨c, rest, rfl, further, hrest, ?_, hne, hall, ?_, hhead⟩
        · rw [hstart, List.length_append, List.length_cons]
          omega
        · intro d hd
          refine hlast d ?_
          rw [List.getLast?_append_of_ne_nil _ (by simp), List.getLast?_cons, hd]
          rfl
  · rintro (⟨hne, rfl⟩ | ⟨c, rest, rfl, before, htext, hstart, hne, hall, hlast, hhead⟩)
    · exact ⟨[], rfl, rfl, hne, hxs, by simp, hys⟩
    · refine ⟨xs ++ c :: before, by rw [htext]; simp, ?_, hne, hall, ?_, hhead⟩
      · rw [hstart, List.length_append, List.length_cons]
        omega
      · intro d hd
        rw [List.getLast?_append_of_ne_nil _ (by simp), List.getLast?_cons] at hd
        cases hb : before.getLast? with
        | none =>
          rw [hb] at hd
          exact hys d hd
        | some e =>
          rw [hb] at hd
          exact hlast d (hb ▸ hd)

theorem mem_runsFrom_iff {inClass : Char → Bool} {text opened : List Char} {start : Nat} {run : Run}
    (hopened : ∀ c ∈ opened, inClass c = true) :
    run ∈ runsFrom inClass (start + opened.length) opened text ↔
      IsRun inClass start (opened.reverse ++ text) run := by
  induction text generalizing opened start with
  | nil =>
    rw [isRun_append_iff (by simpa using hopened) (by simp)]
    cases opened with
    | nil => simp [runsFrom]
    | cons d opened => simp [runsFrom]
  | cons c rest ih =>
    by_cases hc : inClass c = true
    · have hnext : run ∈ runsFrom inClass (start + (c :: opened).length) (c :: opened) rest ↔
          IsRun inClass start ((c :: opened).reverse ++ rest) run := ih (by simpa [hc] using hopened)
      simpa [runsFrom, hc, Nat.add_assoc] using hnext
    · rw [isRun_append_iff (by simpa using hopened) (by simpa using hc)]
      have hnext : run ∈ runsFrom inClass (start + opened.length + 1) [] rest ↔
          IsRun inClass (start + opened.length + 1) rest run :=
        ih fun d hd => absurd hd List.not_mem_nil
      cases opened with
      | nil => simpa [runsFrom, hc] using hnext
      | cons d opened =>
        rw [List.length_cons] at hnext
        simp [runsFrom, hc, hnext]

theorem mem_runs_iff {inClass : Char → Bool} {text : List Char} {run : Run} :
    run ∈ runs inClass text ↔ IsRun inClass 0 text run := by
  have h : run ∈ runsFrom inClass (0 + [].length) [] text ↔ IsRun inClass 0 ([].reverse ++ text) run :=
    mem_runsFrom_iff (by simp)
  simpa [runs] using h

/-! ## Splitting -/

variable {mark : Char}

theorem splitAtMark_of_not_mem {piece : List Char} (h : mark ∉ piece) :
    splitAtMark mark piece = [piece] := by
  induction piece with
  | nil => rfl
  | cons c piece ih =>
    rw [splitAtMark, if_neg (List.ne_of_not_mem_cons h).symm, ih (List.not_mem_of_not_mem_cons h)]

theorem splitAtMark_append {piece : List Char} (h : mark ∉ piece) (rest : List Char) :
    splitAtMark mark (piece ++ mark :: rest) = piece :: splitAtMark mark rest := by
  induction piece with
  | nil => rw [List.nil_append, splitAtMark, if_pos rfl]
  | cons c piece ih =>
    rw [List.cons_append, splitAtMark, if_neg (List.ne_of_not_mem_cons h).symm,
      ih (List.not_mem_of_not_mem_cons h)]

theorem splitAtMark_intercalate {pieces : List (List Char)} (hsome : pieces ≠ [])
    (h : ∀ piece ∈ pieces, mark ∉ piece) : splitAtMark mark ([mark].intercalate pieces) = pieces := by
  induction pieces with
  | nil => exact absurd rfl hsome
  | cons piece pieces ih =>
    obtain ⟨hpiece, hrest⟩ := List.forall_mem_cons.mp h
    cases pieces with
    | nil => rw [List.intercalate_singleton, splitAtMark_of_not_mem hpiece]
    | cons next pieces =>
      rw [List.intercalate_cons_cons, List.append_assoc, List.singleton_append,
        splitAtMark_append hpiece, ih (List.cons_ne_nil _ _) hrest]

end LogAudit.Text
