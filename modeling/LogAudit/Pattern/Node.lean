/-! # Patterns as trees

The abstract form of a regular expression: what a search looks for, with the flags that groups switch
on and off left in place. Code points are numbers, since an escape can name one that no text holds. -/

namespace LogAudit.Pattern
set_option autoImplicit false

/-- The switches of a pattern. -/
structure Flags where
  ignoreCase : Bool := false
  multiLine : Bool := false
  dotAll : Bool := false
  verbose : Bool := false
  ascii : Bool := false
  unicode : Bool := false
  template : Bool := false
deriving Repr, DecidableEq

namespace Flags

/-- The flags of either. -/
def union (a b : Flags) : Flags where
  ignoreCase := a.ignoreCase || b.ignoreCase
  multiLine := a.multiLine || b.multiLine
  dotAll := a.dotAll || b.dotAll
  verbose := a.verbose || b.verbose
  ascii := a.ascii || b.ascii
  unicode := a.unicode || b.unicode
  template := a.template || b.template

/-- The flags of the first that are not in the second. -/
def minus (a b : Flags) : Flags where
  ignoreCase := a.ignoreCase && !b.ignoreCase
  multiLine := a.multiLine && !b.multiLine
  dotAll := a.dotAll && !b.dotAll
  verbose := a.verbose && !b.verbose
  ascii := a.ascii && !b.ascii
  unicode := a.unicode && !b.unicode
  template := a.template && !b.template

/-- Whether two sets of flags share one. -/
def meets (a b : Flags) : Bool :=
  a.ignoreCase && b.ignoreCase || a.multiLine && b.multiLine || a.dotAll && b.dotAll ||
    a.verbose && b.verbose || a.ascii && b.ascii || a.unicode && b.unicode ||
    a.template && b.template

/-- The flags inside a group that adds some and removes others; a group that chooses the alphabet
replaces the choice made outside. -/
def within (flags added removed : Flags) : Flags :=
  let base :=
    if added.ascii || added.unicode then { flags with ascii := false, unicode := false } else flags
  (base.union added).minus removed

end Flags

/-- The named classes of characters. -/
inductive Category
  | digit
  | space
  | word
deriving Repr, DecidableEq

/-- A member of a character class. -/
inductive ClassItem
  | code (value : Nat)
  | range (low high : Nat)
  | category (kind : Category) (negated : Bool)
deriving Repr, DecidableEq

/-- The tests of a position that read no character. -/
inductive Anchor
  | lineStart
  | lineEnd
  | textStart
  | textEnd
  | boundary
  | noBoundary
deriving Repr, DecidableEq

/-- The order in which a repetition tries its counts; a possessive one takes the most it can and gives
nothing back. -/
inductive Greed
  | greedy
  | reluctant
  | possessive
deriving Repr, DecidableEq

/-- Where an assertion looks; backward it goes as far as its body is wide, and `low` and `high` are the
least and the greatest width. -/
inductive Direction
  | ahead
  | behind (low high : Nat)
deriving Repr, DecidableEq

/-- A pattern. -/
inductive Node
  | empty
  | code (value : Nat)
  | notCode (value : Nat)
  | oneOf (negated : Bool) (items : List ClassItem)
  | any
  | anchor (kind : Anchor)
  | seq (first second : Node)
  | alt (first second : Node)
  | repeated (greed : Greed) (least : Nat) (most : Option Nat) (body : Node)
  | group (index : Nat) (body : Node)
  | flagged (added removed : Flags) (body : Node)
  | atomic (body : Node)
  | look (direction : Direction) (negated : Bool) (body : Node)
  | backref (index : Nat)
  | conditional (index : Nat) (yes no : Node)
deriving Repr, DecidableEq

namespace Node

/-- Several nodes one after the other. -/
def sequence (nodes : List Node) : Node :=
  match nodes with
  | [] => .empty
  | [node] => node
  | node :: rest => .seq node (sequence rest)

/-! ## Width -/

/-- The bound above which widths are not told apart. -/
def widthLimit : Nat := Nat.pow 2 64

/-- The least and the greatest number of characters that a pattern reads, given those of its groups. -/
def width (groups : Nat → Nat × Nat) : Node → Nat × Nat
  | .empty => (0, 0)
  | .code _ => (1, 1)
  | .notCode _ => (1, 1)
  | .oneOf _ _ => (1, 1)
  | .any => (1, 1)
  | .anchor _ => (0, 0)
  | .seq first second =>
    let (low, high) := first.width groups
    let (low', high') := second.width groups
    (min (low + low') widthLimit, min (high + high') widthLimit)
  | .alt first second =>
    let (low, high) := first.width groups
    let (low', high') := second.width groups
    (min low low', max high high')
  | .repeated _ least most body =>
    let (low, high) := body.width groups
    let top := match most with
      | some count => high * count
      | none => if high = 0 then 0 else widthLimit
    (min (low * least) widthLimit, min top widthLimit)
  | .group _ body => body.width groups
  | .flagged _ _ body => body.width groups
  | .atomic body => body.width groups
  | .look _ _ _ => (0, 0)
  | .backref index => groups index
  | .conditional _ yes no =>
    let (low, high) := yes.width groups
    let (low', high') := no.width groups
    (min low low', max high high')

end Node

end LogAudit.Pattern
