import LogAudit.Pattern.Node
import LogAudit.Text.Blank
import LogAudit.Text.Case
import LogAudit.Text.Digit
import LogAudit.Text.Word

/-! # Testing one character

A character is tested against a code point or a class under the flags in force. Without regard to
case, characters are compared by their small letters, and a few small letters that share a capital
count as one. -/

namespace LogAudit.Pattern
set_option autoImplicit false

open Text

/-! ## Case -/

/-- Small letters that share their capital with others, with those others. -/
def sharedCapitals : Array (Nat × List Nat) := #[
  (0x69, [0x131]), (0x73, [0x17F]), (0xB5, [0x3BC]), (0x131, [0x69]), (0x17F, [0x73]),
  (0x345, [0x3B9, 0x1FBE]), (0x390, [0x1FD3]), (0x3B0, [0x1FE3]), (0x3B2, [0x3D0]),
  (0x3B5, [0x3F5]), (0x3B8, [0x3D1]), (0x3B9, [0x345, 0x1FBE]), (0x3BA, [0x3F0]), (0x3BC, [0xB5]),
  (0x3C0, [0x3D6]), (0x3C1, [0x3F1]), (0x3C2, [0x3C3]), (0x3C3, [0x3C2]), (0x3C6, [0x3D5]),
  (0x3D0, [0x3B2]), (0x3D1, [0x3B8]), (0x3D5, [0x3C6]), (0x3D6, [0x3C0]), (0x3F0, [0x3BA]),
  (0x3F1, [0x3C1]), (0x3F5, [0x3B5]), (0x432, [0x1C80]), (0x434, [0x1C81]), (0x43E, [0x1C82]),
  (0x441, [0x1C83]), (0x442, [0x1C84, 0x1C85]), (0x44A, [0x1C86]), (0x463, [0x1C87]),
  (0x1C80, [0x432]), (0x1C81, [0x434]), (0x1C82, [0x43E]), (0x1C83, [0x441]),
  (0x1C84, [0x442, 0x1C85]), (0x1C85, [0x442, 0x1C84]), (0x1C86, [0x44A]), (0x1C87, [0x463]),
  (0x1C88, [0xA64B]), (0x1E61, [0x1E9B]), (0x1E9B, [0x1E61]), (0x1FBE, [0x345, 0x3B9]),
  (0x1FD3, [0x390]), (0x1FE3, [0x3B0]), (0xA64B, [0x1C88]), (0xFB05, [0xFB06]), (0xFB06, [0xFB05])]

/-- A small letter and those that share its capital. -/
def caseMates (code : Nat) : List Nat :=
  code :: ((sharedCapitals.find? (·.1 == code)).map (·.2)).getD []

/-- The form by which characters are compared without regard to case. -/
def fold (flags : Flags) (code : Nat) : Nat :=
  if flags.ascii then lowerAsciiCode code else lowerCode code

/-- The code points that stand for the same character as a folded one. -/
def foldClass (flags : Flags) (folded : Nat) : List Nat :=
  if flags.ascii then
    (if lowerAsciiCode folded = folded then [folded] else []) ++
      (if 97 ≤ folded ∧ folded ≤ 122 then [folded - 32] else [])
  else (caseMates folded).flatMap lowerPreimages

/-! ## Classes -/

/-- Whether a code point belongs to a named class. -/
def Category.contains (flags : Flags) (kind : Category) (code : Nat) : Bool :=
  let c := Char.ofNat code
  match kind with
  | .digit => if flags.ascii then c.isDigit else isDecimal c
  | .space => if flags.ascii then c == ' ' || (9 ≤ code && code ≤ 13) else isBlank c
  | .word => if flags.ascii then isAsciiWord c else isWord c

/-- The greatest code point of the basic plane. -/
def basicPlane : Nat := 0xFFFF

/-- Whether a code point is a member of a class, with regard to case. -/
def ClassItem.contains (flags : Flags) (code : Nat) : ClassItem → Bool
  | .code value => code = value
  | .range low high => low ≤ code && code ≤ high
  | .category kind negated => kind.contains flags code != negated

/-- Whether a folded code point is a member of a class, without regard to case. Members beyond the
basic plane are compared as they stand; for a range that reaches there, the capital counts too. -/
def ClassItem.containsFolded (flags : Flags) (folded : Nat) : ClassItem → Bool
  | .code value =>
    if value > basicPlane then folded = value
    else if flags.ascii then folded = fold flags value
    else (caseMates (fold flags value)).contains folded
  | .range low high =>
    ((foldClass flags folded).any fun code => low ≤ code && code ≤ high && code ≤ basicPlane) ||
      (high > basicPlane &&
        ((low ≤ folded && folded ≤ high) ||
          (low ≤ upperCode folded && upperCode folded ≤ high)))
  | .category kind negated => kind.contains flags folded != negated

/-- Whether a character is the given code point. -/
def matchesCode (flags : Flags) (value : Nat) (c : Char) : Bool :=
  if flags.ignoreCase then
    let folded := fold flags c.toNat
    if flags.ascii then folded = fold flags value
    else (caseMates (fold flags value)).contains folded
  else c.toNat = value

/-- Whether a character is in a class, or outside of a negated one. -/
def matchesClass (flags : Flags) (negated : Bool) (items : List ClassItem) (c : Char) : Bool :=
  let found :=
    if flags.ignoreCase then items.any (·.containsFolded flags (fold flags c.toNat))
    else items.any (·.contains flags c.toNat)
  found != negated

end LogAudit.Pattern
