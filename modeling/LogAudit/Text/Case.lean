import LogAudit.Text.CaseTable

/-! # Lower and upper case

Single code points change case by the tables; whole texts also know the characters whose other case
is longer than one character, and the small sigma that ends a word. -/

namespace LogAudit.Text
set_option autoImplicit false

/-! ## Single code points -/

/-- The small letter of a code point, or the code point itself. -/
def lowerCode (code : Nat) : Nat :=
  if code < 128 then
    if 65 ≤ code ∧ code ≤ 90 then code + 32 else code
  else if code = 0x130 then 0x69
  else (lowerRuns.findSome? (·.map? code)).getD code

/-- The small letter of an ASCII capital, or the code point itself. -/
def lowerAsciiCode (code : Nat) : Nat :=
  if 65 ≤ code ∧ code ≤ 90 then code + 32 else code

/-- The code points whose small letter is `code`. -/
def lowerPreimages (code : Nat) : List Nat :=
  let self := if lowerCode code = code then [code] else []
  let ascii := if 97 ≤ code ∧ code ≤ 122 then [code - 32] else []
  let dotted := if code = 0x69 then [0x130] else []
  self ++ ascii ++ dotted ++ lowerRuns.toList.filterMap (·.preimage? code)

/-- The capital form of a code point, which can be several code points long. -/
def upperCodes (code : Nat) : List Nat :=
  if code < 128 then
    if 97 ≤ code ∧ code ≤ 122 then [code - 32] else [code]
  else match upperExpansions.find? (·.1 == code) with
    | some (_, codes) => codes
    | none => [(upperRuns.findSome? (·.map? code)).getD code]

/-- The first code point of the capital form. -/
def upperCode (code : Nat) : Nat :=
  (upperCodes code).headD code

/-! ## Texts -/

/-- Whether the first character that counts in a text, going outward from a sigma, has case. -/
def meetsCased (text : List Char) : Bool :=
  match text.dropWhile fun c => caseIgnorable.contains c.toNat with
  | [] => false
  | c :: _ => casedCharacters.contains c.toNat

/-- Lower case, given the characters already passed, nearest first. A capital sigma is written as a
final one after a letter with case, if none follows. -/
def lowerFrom : List Char → List Char → List Char
  | _, [] => []
  | passed, c :: rest =>
    let small :=
      if c.toNat = 0x3A3 then
        if meetsCased passed && !meetsCased rest then [Char.ofNat 0x3C2] else [Char.ofNat 0x3C3]
      else if c.toNat = 0x130 then ['i', Char.ofNat 0x307]
      else [Char.ofNat (lowerCode c.toNat)]
    small ++ lowerFrom (c :: passed) rest

/-- A text in lower case. -/
def lower (text : String) : String :=
  String.ofList (lowerFrom [] text.toList)

/-- A text in upper case. -/
def upper (text : String) : String :=
  String.ofList (text.toList.flatMap fun c => (upperCodes c.toNat).map Char.ofNat)

end LogAudit.Text
