/-! # Similar words

Two words are compared by the letters that they have in common: the longest block that occurs in both,
and then, in the same way, the blocks before it and behind it.

* `commonLetters`: the number of letters in common.
* `similarWords`: the words of a list that are similar enough to a given one. -/

namespace LogAudit.Text
set_option autoImplicit false

/-- The length of the longest common start of two words. -/
def commonStart : List Char → List Char → Nat
  | a :: as, b :: bs => if a == b then commonStart as bs + 1 else 0
  | _, _ => 0

/-- A block of letters that two words have in common: where it begins in each, and its length. -/
structure Block where
  first : Nat := 0
  second : Nat := 0
  length : Nat := 0
deriving Repr

/-- The longest block that two words have in common; of several, the one that begins earliest in the
first word, and then in the second. -/
def longestBlock (a b : List Char) : Block :=
  (List.range a.length).foldl (fun best i =>
    (List.range b.length).foldl (fun best j =>
      let length := commonStart (a.drop i) (b.drop j)
      if best.length < length then ⟨i, j, length⟩ else best) best) {}

/-- The number of letters in blocks that two words have in common; the first number bounds the depth. -/
def commonLettersFrom : Nat → List Char → List Char → Nat
  | 0, _, _ => 0
  | depth + 1, a, b =>
    let block := longestBlock a b
    if block.length = 0 then 0
    else block.length + commonLettersFrom depth (a.take block.first) (b.take block.second) +
      commonLettersFrom depth (a.drop (block.first + block.length))
        (b.drop (block.second + block.length))

/-- The number of letters in blocks that two words have in common. -/
def commonLetters (a b : String) : Nat :=
  commonLettersFrom a.length a.toList b.toList

/-- Whether a first word is more similar to a given one than a second: by the share of common letters,
and then by the order of the words. -/
def isMoreSimilar (given a b : String) : Bool :=
  let left := commonLetters a given * (b.length + given.length)
  let right := commonLetters b given * (a.length + given.length)
  left > right || (left == right && b < a)

/-- The words that have at least three fifths of their letters in common with a given one, at most
three of them, the most similar first. -/
def similarWords (words : List String) (given : String) : List String :=
  let close := words.filter fun word =>
    10 * commonLetters word given ≥ 3 * (word.length + given.length)
  (close.mergeSort (isMoreSimilar given)).take 3

end LogAudit.Text
