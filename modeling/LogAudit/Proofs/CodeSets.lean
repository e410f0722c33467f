import Mathlib
import LogAudit.Xml.Char

/-! # Sets of code points

A lookup in a set is a binary search for the number of turns passed. In an ascending list of turns that
is the number of all turns up to the code point, and it is odd exactly within one of the ranges that
the turns mark off.

* `CodeSet.contains_iff`: the code points of a set, by its ranges.
* `isNamePart_of_isNameStart`: what can begin a name can continue it. -/

namespace LogAudit.Text
set_option autoImplicit false

namespace CodeSet

/-! ## The search -/

variable {turns : List Nat} {code : Nat}

/-- The place that a search is to find: all turns before it are passed, and none from it on. -/
structure Divides (turns : List Nat) (code place : Nat) : Prop where
  inside : place ≤ turns.length
  passed : ∀ i < place, turns.getD i 0 ≤ code
  ahead : ∀ i, place ≤ i → i < turns.length → code < turns.getD i 0

theorem getD_le_getD (hsorted : turns.Pairwise (· < ·)) {i j : Nat} (hij : i ≤ j)
    (hj : j < turns.length) : turns.getD i 0 ≤ turns.getD j 0 := by
  rw [List.getD_eq_getElem _ _ (hij.trans_lt hj), List.getD_eq_getElem _ _ hj]
  rcases hij.lt_or_eq with hlt | rfl
  · exact (List.pairwise_iff_getElem.mp hsorted i j _ hj hlt).le
  · exact le_rfl

theorem countUpTo_divides (hsorted : turns.Pairwise (· < ·)) {steps lo hi : Nat}
    (hsteps : hi - lo ≤ steps) (hlohi : lo ≤ hi) (hhi : hi ≤ turns.length)
    (hlow : ∀ i < lo, turns.getD i 0 ≤ code)
    (hhigh : ∀ i, hi ≤ i → i < turns.length → code < turns.getD i 0) :
    Divides turns code (countUpTo turns.toArray code steps lo hi) := by
  induction steps generalizing lo hi with
  | zero =>
    obtain rfl : lo = hi := by omega
    exact ⟨hhi, hlow, hhigh⟩
  | succ steps ih =>
    rw [countUpTo]
    by_cases hlt : lo < hi
    · obtain ⟨mid, hmid⟩ : ∃ mid, mid = (lo + hi) / 2 := ⟨_, rfl⟩
      have hget : turns.toArray.getD mid 0 = turns.getD mid 0 := by simp
      rw [if_pos hlt, ← hmid]
      dsimp only
      rw [hget]
      by_cases hpassed : turns.getD mid 0 ≤ code
      · rw [if_pos hpassed]
        refine ih (by omega) (by omega) hhi ?_ hhigh
        intro i hi
        exact (getD_le_getD hsorted (by omega) (by omega)).trans hpassed
      · rw [if_neg hpassed]
        refine ih (by omega) (by omega) (by omega) hlow ?_
        intro i hle hlength
        exact (Nat.not_le.mp hpassed).trans_le (getD_le_getD hsorted hle hlength)
    · rw [if_neg hlt]
      obtain rfl : lo = hi := by omega
      exact ⟨hhi, hlow, hhigh⟩

theorem Divides.countP_eq {place : Nat} (h : Divides turns code place) :
    turns.countP (· ≤ code) = place := by
  have hpassed : (turns.take place).countP (· ≤ code) = place := by
    rw [List.countP_eq_length.mpr, List.length_take, Nat.min_eq_left h.inside]
    intro turn hturn
    obtain ⟨i, hi, rfl⟩ := List.mem_take_iff_getElem.mp hturn
    have hplace := h.passed i (by omega)
    rw [List.getD_eq_getElem _ _ (by omega)] at hplace
    simpa using hplace
  have hahead : (turns.drop place).countP (· ≤ code) = 0 := by
    rw [List.countP_eq_zero]
    intro turn hturn
    obtain ⟨i, hi, rfl⟩ := List.mem_drop_iff_getElem.mp hturn
    have hplace := h.ahead (place + i) (by omega) (by omega)
    rw [List.getD_eq_getElem _ _ (by omega)] at hplace
    simpa [Nat.add_comm] using hplace
  rw [← List.take_append_drop place turns, List.countP_append, hpassed, hahead, Nat.add_zero]

/-! ## Ranges -/

/-- The ranges that turns mark off, from the first code point in to the first one out. -/
def rangesOf : List Nat → List (Nat × Nat)
  | first :: last :: rest => (first, last) :: rangesOf rest
  | _ => []

theorem countP_odd_iff (hsorted : turns.Pairwise (· < ·)) (heven : turns.length % 2 = 0) :
    turns.countP (· ≤ code) % 2 = 1 ↔ ∃ range ∈ rangesOf turns, range.1 ≤ code ∧ code < range.2 := by
  fun_induction rangesOf turns with
  | case1 first last rest ih =>
    obtain ⟨hfirst, hrest⟩ := List.pairwise_cons.mp hsorted
    obtain ⟨hlast, hrest⟩ := List.pairwise_cons.mp hrest
    have hlt := hfirst last List.mem_cons_self
    by_cases hbehind : last ≤ code
    · have hodd := ih hrest (by simp only [List.length_cons] at heven; omega)
      rw [List.countP_cons_of_pos (by simpa using hlt.le.trans hbehind),
        List.countP_cons_of_pos (by simpa using hbehind)]
      simp only [List.exists_mem_cons_iff, ← hodd]
      omega
    · have hahead : rest.countP (· ≤ code) = 0 := by
        rw [List.countP_eq_zero]
        intro turn hturn
        have hturn := hlast turn hturn
        simp only [decide_eq_true_eq]
        omega
      have hnone : ¬ ∃ range ∈ rangesOf rest, range.1 ≤ code ∧ code < range.2 := by
        rw [← ih hrest (by simp only [List.length_cons] at heven; omega), hahead]
        decide
      rw [List.countP_cons, List.countP_cons_of_neg (by simpa using hbehind), hahead]
      simp only [List.exists_mem_cons_iff, hnone, or_false]
      by_cases hpassed : first ≤ code
      · simp [hpassed, Nat.not_le.mp hbehind]
      · simp [hpassed]
  | case2 turns hshort =>
    obtain rfl : turns = [] := by
      match turns, hshort, heven with
      | [], _, _ => rfl
      | first :: last :: rest, hshort, _ => exact absurd rfl (hshort first last rest)
    simp

/-- A set with ascending turns holds the code points of its ranges. -/
theorem contains_iff (hsorted : turns.Pairwise (· < ·)) (heven : turns.length % 2 = 0) :
    (CodeSet.mk turns.toArray).contains code = true ↔
      ∃ range ∈ rangesOf turns, range.1 ≤ code ∧ code < range.2 := by
  have hdivides : Divides turns code (countUpTo turns.toArray code turns.length 0 turns.length) :=
    countUpTo_divides hsorted (by omega) (by omega) le_rfl (by omega) (by omega)
  rw [contains, beq_iff_eq, ← countP_odd_iff hsorted heven, hdivides.countP_eq]
  simp

end CodeSet

end LogAudit.Text

namespace LogAudit.Xml

open Text

theorem nameStartSet_sorted : nameStartSet.turns.toList.Pairwise (· < ·) := by
  rw [← List.isChain_iff_pairwise]
  decide +kernel

theorem namePartSet_sorted : namePartSet.turns.toList.Pairwise (· < ·) := by
  rw [← List.isChain_iff_pairwise]
  decide +kernel

theorem nameStart_ranges : ((CodeSet.rangesOf nameStartSet.turns.toList).all fun range =>
    (CodeSet.rangesOf namePartSet.turns.toList).any fun other =>
      other.1.ble range.1 && range.2.ble other.2) = true := by
  decide +kernel

/-- A character that can begin a name can continue it. -/
theorem isNamePart_of_isNameStart {c : Char} (h : isNameStart c = true) : isNamePart c = true := by
  unfold isNameStart at h
  unfold isNamePart
  split_ifs at h ⊢ with hascii
  · rcases Bool.or_eq_true_iff.mp h with halpha | hunder
    · simp [Char.isAlphanum, halpha]
    · simp [hunder]
  · obtain ⟨range, hrange, hlow, hhigh⟩ :=
      (CodeSet.contains_iff nameStartSet_sorted (by decide +kernel)).mp h
    obtain ⟨other, hother, hinside⟩ :=
      List.any_eq_true.mp (List.all_eq_true.mp nameStart_ranges range hrange)
    simp only [Bool.and_eq_true, Nat.ble_eq] at hinside
    exact (CodeSet.contains_iff namePartSet_sorted (by decide +kernel)).mpr
      ⟨other, hother, hinside.1.trans hlow, hhigh.trans_le hinside.2⟩

end LogAudit.Xml
