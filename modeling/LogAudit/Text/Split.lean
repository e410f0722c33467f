/-! # Splitting a text

A text is cut at every occurrence of a mark. There is one piece more than there are marks. -/

namespace LogAudit.Text
set_option autoImplicit false

/-- Splits a text at a mark. -/
def splitAtMark (mark : Char) : List Char → List (List Char)
  | [] => [[]]
  | c :: rest =>
    if c = mark then [] :: splitAtMark mark rest
    else match splitAtMark mark rest with
      | [] => [[c]]
      | piece :: pieces => (c :: piece) :: pieces

/-- The pieces of a text between marks. -/
def pieces (mark : Char) (text : String) : List String :=
  (splitAtMark mark text.toList).map String.ofList

end LogAudit.Text
