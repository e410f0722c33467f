import LogAudit.Proofs.Buffers
import LogAudit.Source.Statement

/-! # Which lines a statement takes

A statement takes consecutive lines of its file: the line that opens it, and those behind it up to the
first one that ends with a semicolon.

* `terminated_furtherLines`: how far a statement goes.
* `mem_statementsFrom`: every statement takes consecutive lines of its file. -/

namespace LogAudit.Source
set_option autoImplicit false

open Text

/-- The lines of a statement end with the first one that ends with a semicolon. If there is none, also
behind them, there is one line. -/
def Terminated (taken behind : List String) : Prop :=
  (∃ body last, taken = body ++ [last] ∧ endsStatement last = true ∧
    ∀ line ∈ body, endsStatement line = false) ∨
  (taken.length = 1 ∧ ∀ line ∈ taken ++ behind, endsStatement line = false)

theorem terminated_furtherLines (line : String) (rest : List String) :
    Terminated (line :: rest.take (furtherLines (line :: rest)))
      (rest.drop (furtherLines (line :: rest))) := by
  cases hend : (line :: rest).findIdx? endsStatement with
  | none =>
    have hfurther : furtherLines (line :: rest) = 0 := by rw [furtherLines, hend, Option.getD_none]
    rw [hfurther]
    exact Or.inr ⟨rfl, List.findIdx?_eq_none_iff.mp hend⟩
  | some further =>
    have hfurther : furtherLines (line :: rest) = further := by
      rw [furtherLines, hend, Option.getD_some]
    obtain ⟨hlt, hlast, hbody⟩ := List.findIdx?_eq_some_iff_getElem.mp hend
    rw [hfurther]
    refine Or.inl ⟨(line :: rest).take further, (line :: rest)[further], ?_, hlast, ?_⟩
    · rw [List.take_append_getElem hlt, List.take_succ_cons]
    · intro other hother
      obtain ⟨i, hi, rfl⟩ := List.mem_take_iff_getElem.mp hother
      exact Bool.eq_false_iff.mpr (hbody i (by omega))

/-- A statement that takes consecutive lines out of a list whose first line has a given number. -/
def TakenFrom (file : String) (buffers : Buffers) (number : Nat) (lines : List String)
    (statement : Statement) : Prop :=
  ∃ before line further behind, lines = before ++ (line :: further ++ behind) ∧
    opensStatement line = true ∧ Terminated (line :: further) behind ∧
    statement = ⟨file, (number + before.length : Nat), joinLines (line :: further),
      buffers.related (joinLines (line :: further))⟩

theorem TakenFrom.behind_line {file : String} {buffers : Buffers} {number : Nat}
    {lines : List String} {statement : Statement}
    (h : TakenFrom file buffers (number + 1) lines statement) (line : String) :
    TakenFrom file buffers number (line :: lines) statement := by
  obtain ⟨before, first, further, behind, hlines, hopens, hend, hstatement⟩ := h
  refine ⟨line :: before, first, further, behind, by rw [hlines]; rfl, hopens, hend, ?_⟩
  rw [hstatement, List.length_cons, Nat.add_assoc, Nat.add_comm 1]

theorem mem_statementsFrom {file : String} {buffers : Buffers} {number inside : Nat}
    {lines : List String} {statement : Statement}
    (h : statement ∈ statementsFrom file buffers number inside lines) :
    TakenFrom file buffers number lines statement := by
  induction lines generalizing number inside with
  | nil => simp [statementsFrom] at h
  | cons line rest ih =>
    cases inside with
    | succ inside => exact (ih h).behind_line line
    | zero =>
      rw [statementsFrom] at h
      split at h
      · next hopens =>
        rcases List.mem_cons.mp h with rfl | h
        · exact ⟨[], line, rest.take (furtherLines (line :: rest)),
            rest.drop (furtherLines (line :: rest)), by simp, hopens,
            terminated_furtherLines line rest, by simp⟩
        · exact (ih h).behind_line line
      · exact (ih h).behind_line line

end LogAudit.Source
