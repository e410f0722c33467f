import Mathlib
import LogAudit.Rule
import LogAudit.Proofs.Scanning

/-! # Spellings of values

A value counts without the blanks around it, and the word for a pattern counts in any case.

* `trimmed_padded`, `trimmed_trimmed`: what trimming leaves.
* `lowerFrom_eq_iff`: the texts that are a given word in lower case.
* `ofAttribute_eq_pattern_iff`: the values that stand for a pattern. -/

namespace LogAudit.Text
set_option autoImplicit false

/-! ## Trimming -/

/-- A text of blanks. -/
def AllBlank (text : List Char) : Prop := ∀ c ∈ text, isBlank c = true

/-- A text that neither begins nor ends with a blank. -/
structure Unpadded (text : List Char) : Prop where
  front : ∀ c ∈ text.head?, isBlank c = false
  back : ∀ c ∈ text.getLast?, isBlank c = false

/-- A text with blanks around it. -/
def Pads (padded text : List Char) : Prop :=
  ∃ front back, AllBlank front ∧ AllBlank back ∧ padded = front ++ (text ++ back)

theorem unpadded_of_no_blank {text : List Char} (h : ∀ c ∈ text, isBlank c = false) : Unpadded text :=
  ⟨fun c hc => h c (List.mem_of_mem_head? hc), fun c hc => h c (List.mem_of_mem_getLast? hc)⟩

theorem dropBlanks_padded {front text : List Char} (hfront : AllBlank front)
    (htext : ∀ c ∈ text.head?, isBlank c = false) : dropBlanks (front ++ text) = text := by
  rw [dropBlanks, List.dropWhile_append_of_pos hfront]
  cases text with
  | nil => rfl
  | cons c text => rw [List.dropWhile_cons_of_neg (by simp [htext c (by simp)])]

theorem dropEndBlanks_padded {text back : List Char} (hback : AllBlank back)
    (htext : ∀ c ∈ text.getLast?, isBlank c = false) : dropEndBlanks (text ++ back) = text := by
  have hdrop : dropBlanks (back.reverse ++ text.reverse) = text.reverse :=
    dropBlanks_padded (fun c hc => hback c (List.mem_reverse.mp hc))
      (by rw [List.head?_reverse]; exact htext)
  rw [dropEndBlanks, List.reverse_append]
  exact (congrArg List.reverse hdrop).trans text.reverse_reverse

/-- Trimming takes off exactly the blanks around a text. -/
theorem trimmed_padded {padded text : List Char} (h : Pads padded text) (htext : Unpadded text) :
    trimmed padded = text := by
  obtain ⟨front, back, hfront, hback, rfl⟩ := h
  cases text with
  | nil =>
    have hblank : dropBlanks (front ++ ([] ++ back)) = [] := by
      rw [dropBlanks, List.dropWhile_eq_nil_iff]
      intro c hc
      rcases List.mem_append.mp hc with hmem | hmem
      · exact hfront c hmem
      · exact hback c hmem
    rw [trimmed, hblank]
    rfl
  | cons c text =>
    rw [trimmed, dropBlanks_padded hfront (by simpa using htext.front),
      dropEndBlanks_padded hback htext.back]

theorem unpadded_trimmed (text : List Char) : Unpadded (trimmed text) := by
  constructor
  · intro c hc
    obtain ⟨back, _, hrest⟩ := dropEndBlanks_shape (dropBlanks text)
    have hhead : (dropBlanks text).head? = some c := by
      rw [hrest, List.head?_append]
      exact Option.or_eq_some_iff.mpr (Or.inl hc)
    have hnot := List.head?_dropWhile_not isBlank text
    rw [dropBlanks] at hhead
    rw [hhead] at hnot
    simpa using hnot
  · intro c hc
    have hhead : ((dropBlanks text).reverse.dropWhile isBlank).head? = some c := by
      rw [← List.getLast?_reverse]
      exact hc
    have hnot := List.head?_dropWhile_not isBlank (dropBlanks text).reverse
    rw [hhead] at hnot
    simpa using hnot

theorem trimmed_trimmed (text : List Char) : trimmed (trimmed text) = trimmed text :=
  trimmed_padded ⟨[], [], nofun, nofun, (List.append_nil _).symm⟩ (unpadded_trimmed text)

/-! ## Case -/

theorem preimage?_of_map? {run : CaseRun} {code small : Nat} (hsmall : 0 < small)
    (h : run.map? code = some small) : run.preimage? small = some code := by
  have hsource : Int.toNat (small - run.shift) = code := by
    simp only [CaseRun.map?, Option.ite_none_right_eq_some, Option.some.injEq] at h
    omega
  simp only [CaseRun.preimage?, hsource, h, if_true]

/-- Whether a small letter of ASCII is that of no character beyond ASCII. -/
def isAsciiOnly (small : Nat) : Bool :=
  97 ≤ small && small ≤ 122 && small != 0x69 && lowerRuns.all fun run => (run.preimage? small).isNone

theorem lowerCode_eq_iff {small code : Nat} (h : isAsciiOnly small = true) :
    lowerCode code = small ↔ code = small ∨ code = small - 32 := by
  simp only [isAsciiOnly, Bool.and_eq_true, decide_eq_true_eq, bne_iff_ne] at h
  obtain ⟨⟨⟨hlow, hhigh⟩, hdotless⟩, hruns⟩ := h
  unfold lowerCode
  split_ifs with hascii hcapital hdotted
  · omega
  · omega
  · omega
  · cases hfind : lowerRuns.findSome? (·.map? code) with
    | none =>
      rw [Option.getD_none]
      omega
    | some other =>
      obtain ⟨run, hrun, hmap⟩ := Array.exists_of_findSome?_eq_some hfind
      have hnone := Array.all_eq_true_iff_forall_mem.mp hruns run hrun
      rw [Option.getD_some]
      refine iff_of_false ?_ (by omega)
      rintro rfl
      rw [preimage?_of_map? (by omega) hmap] at hnone
      cases hnone

/-- A character in one case or the other. -/
def AnyCase (c small : Char) : Prop := c = small ∨ c.toNat = small.toNat - 32

theorem ofNat_eq_iff {code : Nat} {c : Char} (hc : 0 < c.toNat) :
    Char.ofNat code = c ↔ code = c.toNat := by
  constructor
  · rintro rfl
    rw [Char.toNat_ofNat] at hc ⊢
    split_ifs at hc ⊢ with hvalid
    · rfl
    · omega
  · rintro rfl
    exact Char.ofNat_toNat c

theorem ofNat_lowerCode_eq_iff {c small : Char} (h : isAsciiOnly small.toNat = true) :
    Char.ofNat (lowerCode c.toNat) = small ↔ AnyCase c small := by
  have hrange := h
  simp only [isAsciiOnly, Bool.and_eq_true, decide_eq_true_eq] at hrange
  rw [ofNat_eq_iff (by omega), lowerCode_eq_iff h, AnyCase, Char.toNat_inj]

theorem AnyCase.isAscii {c small : Char} (h : AnyCase c small)
    (hsmall : isAsciiOnly small.toNat = true) :
    c.toNat < 128 := by
  simp only [isAsciiOnly, Bool.and_eq_true, decide_eq_true_eq] at hsmall
  rcases h with rfl | h <;> omega

/-- The first character of a text in lower case is a letter of ASCII only if it is one there too. -/
theorem lowerFrom_cons_eq_iff {c small : Char} (h : isAsciiOnly small.toNat = true)
    (passed text word : List Char) :
    lowerFrom passed (c :: text) = small :: word ↔
      AnyCase c small ∧ lowerFrom (c :: passed) text = word := by
  have hrange := h
  simp only [isAsciiOnly, Bool.and_eq_true, decide_eq_true_eq, bne_iff_ne] at hrange
  have hother : ∀ {code : Nat} {rest : List Char}, 128 ≤ c.toNat → code ≠ small.toNat →
      (Char.ofNat code :: rest = small :: word ↔
        AnyCase c small ∧ lowerFrom (c :: passed) text = word) := by
    intro code rest hbeyond hcode
    refine iff_of_false (fun heq => hcode ?_) fun hboth => ?_
    · exact (ofNat_eq_iff (by omega)).mp (List.cons.inj heq).1
    · exact absurd (hboth.1.isAscii h) (by omega)
  rw [lowerFrom]
  by_cases hsigma : c.toNat = 0x3A3
  · simp only [hsigma, if_true]
    split <;> exact hother (by omega) (by omega)
  by_cases hdotted : c.toNat = 0x130
  · have hletter : 0x69 ≠ small.toNat := Ne.symm hrange.1.2
    simp only [hdotted]
    exact hother (by omega) hletter
  · simp only [hsigma, hdotted, if_false, List.singleton_append, List.cons.injEq,
      ofNat_lowerCode_eq_iff h]

/-- The texts that are a word in lower case, for a word of letters of ASCII only. -/
theorem lowerFrom_eq_iff {word : List Char} (h : ∀ small ∈ word, isAsciiOnly small.toNat = true)
    (passed text : List Char) : lowerFrom passed text = word ↔ List.Forall₂ AnyCase text word := by
  induction text generalizing passed word with
  | nil => cases word <;> simp [lowerFrom]
  | cons c text ih =>
    cases word with
    | nil =>
      refine iff_of_false ?_ nofun
      rw [lowerFrom]
      split_ifs <;> simp
    | cons small word =>
      obtain ⟨hsmall, hmore⟩ := List.forall_mem_cons.mp h
      rw [lowerFrom_cons_eq_iff hsmall, ih hmore, List.forall₂_cons]

theorem AnyCase.isBlank_eq_false {c small : Char} (h : AnyCase c small)
    (hsmall : isAsciiOnly small.toNat = true) : isBlank c = false := by
  have hcode : 65 ≤ c.toNat ∧ c.toNat ≤ 122 := by
    simp only [isAsciiOnly, Bool.and_eq_true, decide_eq_true_eq] at hsmall
    rcases h with rfl | h <;> omega
  simp only [isBlank, Bool.or_eq_false_iff, Bool.and_eq_false_iff, decide_eq_false_iff_not,
    beq_eq_false_iff_ne]
  omega

theorem unpadded_of_anyCase {text word : List Char}
    (hword : ∀ small ∈ word, isAsciiOnly small.toNat = true) (h : List.Forall₂ AnyCase text word) :
    Unpadded text := by
  refine unpadded_of_no_blank ?_
  induction h with
  | nil => exact nofun
  | cons hc _ ih =>
    obtain ⟨hsmall, hmore⟩ := List.forall_mem_cons.mp hword
    exact List.forall_mem_cons.mpr ⟨hc.isBlank_eq_false hsmall, ih hmore⟩

end LogAudit.Text

namespace LogAudit

open Text

/-! ## Kinds of rules -/

/-- A value that is the word for a pattern, in any case and with blanks around it. -/
def SpellsPattern (value : List Char) : Prop :=
  ∃ word, Pads value word ∧ List.Forall₂ AnyCase word "regex".toList

theorem isAsciiOnly_regex : ∀ small ∈ "regex".toList, isAsciiOnly small.toNat = true :=
  List.all_eq_true.mp (by decide +kernel)

theorem lower_eq_regex_iff (text : String) :
    lower text = "regex" ↔ List.Forall₂ AnyCase text.toList "regex".toList := by
  rw [← lowerFrom_eq_iff isAsciiOnly_regex [] text.toList, lower, ← String.toList_inj,
    String.toList_ofList]

/-- A value stands for a pattern exactly if it spells the word for one. -/
theorem ofAttribute_eq_pattern_iff (value : String) :
    RuleKind.ofAttribute value = .pattern ↔ SpellsPattern value.toList := by
  have hkind : RuleKind.ofAttribute value = .pattern ↔ lower (trim value) = "regex" := by
    unfold RuleKind.ofAttribute
    split <;> simp [*]
  rw [hkind, lower_eq_regex_iff, trim, String.toList_ofList]
  constructor
  · intro h
    obtain ⟨front, back, hfront, hback, hvalue⟩ := trimmed_shape value.toList
    exact ⟨_, ⟨front, back, hfront, hback, hvalue⟩, h⟩
  · rintro ⟨word, hpads, hword⟩
    rwa [trimmed_padded hpads (unpadded_of_anyCase isAsciiOnly_regex hword)]

theorem ofAttribute_trim (value : String) :
    RuleKind.ofAttribute (trim value) = RuleKind.ofAttribute value := by
  unfold RuleKind.ofAttribute
  rw [trim, trim, String.toList_ofList, trimmed_trimmed]

end LogAudit
