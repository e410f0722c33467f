import LogAudit.Pattern.Parser
import LogAudit.Pattern.Search

/-! # Compiled patterns

A pattern is read once and can then be searched for, with or without regard to case. -/

namespace LogAudit
set_option autoImplicit false

/-- A pattern that has been read: its tree and the flags it sets. -/
structure Pattern where
  node : Pattern.Node
  flags : Pattern.Flags
deriving Repr, DecidableEq

namespace Pattern

/-- Reads a pattern. -/
def compile (engine : Engine) (text : String) : Except Failure Pattern :=
  (parse engine text).map fun (node, flags) => ⟨node, flags⟩

/-- Whether a pattern occurs in a text. -/
def occursIn (pattern : Pattern) (text : String) : Bool :=
  pattern.node.occurs pattern.flags text.toList

/-- Whether a pattern occurs in a text without regard to case. -/
def occursInAnyCase (pattern : Pattern) (text : String) : Bool :=
  pattern.node.occurs { pattern.flags with ignoreCase := true } text.toList

end Pattern

end LogAudit
