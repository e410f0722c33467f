/-! # Sets of code points

A set of code points is kept as the ascending list of the places where membership changes, so that
a lookup is one binary search and a look at the parity of the place found. -/

namespace LogAudit.Text
set_option autoImplicit false

/-- A set of code points: `turns` ascends, its first entry enters the set, its second leaves it, and
so on. -/
structure CodeSet where
  turns : Array Nat

namespace CodeSet

/-- The number of entries of an ascending array that are at most `code`, searched between `lo` and
`hi`; the first argument bounds the number of halvings. -/
def countUpTo (turns : Array Nat) (code : Nat) : Nat → Nat → Nat → Nat
  | 0, lo, _ => lo
  | steps + 1, lo, hi =>
    if lo < hi then
      let mid := (lo + hi) / 2
      if turns.getD mid 0 ≤ code then countUpTo turns code steps (mid + 1) hi
      else countUpTo turns code steps lo mid
    else lo

/-- A code point is in the set if an odd number of turns has been passed. -/
def contains (set : CodeSet) (code : Nat) : Bool :=
  countUpTo set.turns code set.turns.size 0 set.turns.size % 2 == 1

end CodeSet

end LogAudit.Text
