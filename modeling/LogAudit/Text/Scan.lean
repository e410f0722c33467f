import LogAudit.Text.Blank
import LogAudit.Text.Word

/-! # Scanning a text

A reader looks at the front of a text and, if it finds what it knows, returns a value and the rest.
Readers are applied from left to right without overlap: after a find the scan goes on behind it,
otherwise one character further on.

* `sweepFrom`: a pass over a text, and with it:
* `findAll`: the values of all finds.
* `eraseAll`: the text without its finds.
* `occursAtWord`: whether something is found where a word begins.
* `occursIn`: whether a word occurs at all.
* `runs`: the maximal runs of a class of characters. -/

namespace LogAudit.Text
set_option autoImplicit false

variable {α β : Type}

/-- Reads a value from the front of a text and returns what follows. -/
abbrev Reader (α : Type) : Type := List Char → Option (α × List Char)

/-! ## Readers of fixed shapes -/

/-- The text behind a given word. -/
def dropWord (word : String) (text : List Char) : Option (List Char) :=
  word.toList.isPrefixOf? text

/-- The text behind optional blanks and one given character. -/
def dropSpaced (mark : Char) (text : List Char) : Option (List Char) :=
  match dropBlanks text with
  | [] => none
  | c :: rest => if c = mark then some rest else none

/-! ## Scans -/

/-- Goes through a text from left to right and puts together what stands for each find and for each
character outside of the finds; the number counts characters still inside the last find. -/
def sweepFrom (read : Reader α) (found : α → List β) (outside : Char → List β) :
    Nat → List Char → List β
  | _, [] => []
  | inside + 1, _ :: rest => sweepFrom read found outside inside rest
  | 0, c :: rest =>
    match read (c :: rest) with
    | some (value, after) =>
      found value ++ sweepFrom read found outside (rest.length - after.length) rest
    | none => outside c ++ sweepFrom read found outside 0 rest

/-- All finds of a reader, from left to right and without overlap. -/
def findAll (read : Reader α) (text : List Char) : List α :=
  sweepFrom read (fun value => [value]) (fun _ => []) 0 text

/-- A text without the parts that a reader finds. -/
def eraseAll (read : List Char → Option (List Char)) (text : List Char) : List Char :=
  sweepFrom (fun text => (read text).map ((), ·)) (fun _ => []) (fun c => [c]) 0 text

/-- Whether `test` holds somewhere at a non-empty rest that no word character stands before; the
flag says whether one stands before the text. -/
def occursAtWordFrom (test : List Char → Bool) : Bool → List Char → Bool
  | _, [] => false
  | inWord, c :: rest =>
    (!inWord && test (c :: rest)) || occursAtWordFrom test (isWord c) rest

/-- Whether `test` holds somewhere in a text where no word character stands before. -/
def occursAtWord (test : List Char → Bool) (text : List Char) : Bool :=
  occursAtWordFrom test false text

/-- Whether a word occurs anywhere in a text. -/
def occursIn (word : List Char) : List Char → Bool
  | [] => word.isEmpty
  | c :: rest => word.isPrefixOf (c :: rest) || occursIn word rest

/-! ## Word boundaries -/

/-- Whether exactly one of two neighbours is a word character. -/
def isBoundary (before after : Option Char) : Bool :=
  before.any isWord != after.any isWord

/-- Whether a word stands at the front of a text with boundaries on both sides. -/
def wholeWordHere (word : List Char) (before : Option Char) (text : List Char) : Bool :=
  isBoundary before text.head? &&
    match word.isPrefixOf? text with
    | some rest => isBoundary (word.getLast?.or before) rest.head?
    | none => false

/-- Whether a word stands somewhere in a text with boundaries on both sides. -/
def occursWholeFrom (word : List Char) (before : Option Char) : List Char → Bool
  | [] => wholeWordHere word before []
  | c :: rest => wholeWordHere word before (c :: rest) || occursWholeFrom word (some c) rest

/-- Whether a word occurs in a text as a whole word. -/
def occursWhole (word text : String) : Bool :=
  occursWholeFrom word.toList none text.toList

/-! ## Runs -/

/-- A maximal run of characters of one class: its offset, its text and what follows it. -/
structure Run where
  start : Nat
  text : List Char
  after : List Char
deriving Repr, DecidableEq

/-- The runs of a class, given the offset and the open run, last character first. -/
def runsFrom (inClass : Char → Bool) : Nat → List Char → List Char → List Run
  | offset, opened, [] =>
    if opened.isEmpty then [] else [⟨offset - opened.length, opened.reverse, []⟩]
  | offset, opened, c :: rest =>
    if inClass c then runsFrom inClass (offset + 1) (c :: opened) rest
    else if opened.isEmpty then runsFrom inClass (offset + 1) [] rest
    else ⟨offset - opened.length, opened.reverse, c :: rest⟩ :: runsFrom inClass (offset + 1) [] rest

/-- The maximal runs of a class of characters, from left to right. -/
def runs (inClass : Char → Bool) (text : List Char) : List Run :=
  runsFrom inClass 0 [] text

end LogAudit.Text
